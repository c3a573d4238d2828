/-
  The pool of synthetic addresses.

  The resolver hands out 131070 addresses in turn; the forward map has room for 65536, entries are never deleted
  and a failed update is ignored.  So the map holds the first 65536 addresses of the pool for good, and
  the other half of each turn is handed out without an entry.

  1. **Allocator** — `poolIp k` is the address of the `k`-th answer; `nextSynthIp_poolIp`.
  2. **State of a run** — `issued_run`, `keys_forward_run`: what was issued and what the map holds, in closed
     form, by the number of answers.
  3. **Result** — `covered_iff`.
-/
import FluxWAN.Nat46.System

namespace FluxWAN.Nat46

open Bytes BpfMap Dns

variable {v4MapOpen : Bool} {w : World}

/-! ## The allocator -/

/-- The number of addresses from `SYNTH_START_IP_HOST` to `SYNTH_END_IP_HOST`. -/
def poolSize : Nat := 131070

/-- The address of the `k`-th answer, in host byte order. -/
def poolIp (k : Nat) : UInt32 := UInt32.ofNat (synthStartIpHost.toNat + k % poolSize)

theorem toNat_poolIp (k : Nat) : (poolIp k).toNat = synthStartIpHost.toNat + k % poolSize := by
  have hlt : k % poolSize < poolSize := Nat.mod_lt _ (by decide)
  have hsize : poolSize = 131070 := rfl
  have hstart : synthStartIpHost.toNat = 3323068417 := rfl
  rw [poolIp, UInt32.toNat_ofNat_of_lt']
  show _ < 2 ^ 32
  omega

/-- The counter wraps at the end of the pool. -/
theorem nextSynthIp_poolIp (k : Nat) : nextSynthIp (poolIp k) = poolIp (k + 1) := by
  have hstart : synthStartIpHost.toNat = 3323068417 := rfl
  have hend : synthEndIpHost.toNat = 3323199486 := rfl
  have hsucc : (poolIp k + 1).toNat = synthStartIpHost.toNat + k % 131070 + 1 := by
    rw [UInt32.toNat_add, toNat_poolIp]
    show (_ + k % 131070 + 1) % 2 ^ 32 = _
    omega
  apply UInt32.toNat_inj.mp
  unfold nextSynthIp
  split_ifs with hwrap
  · have hwrap : synthEndIpHost.toNat < (poolIp k + 1).toNat := UInt32.lt_iff_toNat_lt.mp hwrap
    rw [toNat_poolIp]
    show _ = _ + (k + 1) % 131070
    omega
  · have hstay : ¬ synthEndIpHost.toNat < (poolIp k + 1).toNat := fun h => hwrap (UInt32.lt_iff_toNat_lt.mpr h)
    rw [toNat_poolIp, hsucc]
    show _ = _ + (k + 1) % 131070
    omega

theorem poolIp_inj : htonl (poolIp i) = htonl (poolIp j) ↔ i % poolSize = j % poolSize := by
  constructor
  · intro h
    have hnat := congrArg UInt32.toNat (htonl_injective h)
    rw [toNat_poolIp, toNat_poolIp] at hnat
    exact Nat.add_left_cancel hnat
  · intro h
    rw [poolIp, poolIp, h]

/-! ## One step -/

/-- The answer carries the address that is registered, and the counter moves on. -/
theorem query_of_synthesizes {w : Worker} (h : Synthesizes cfg query)
    : w.query cfg client query now =
      ({ w with currentSynthIpHost := nextSynthIp w.currentSynthIpHost },
        some (query.synthesized w.currentSynthIpHost)) := by
  obtain ⟨henabled, hqtype⟩ := h
  have hnotAaaa : ¬ (cfg.smartIpv6Bonding = true ∧ query.qtype = 0x001C) := by
    rw [hqtype]
    exact fun haaaa => nomatch haaaa.2
  rw [Worker.query, if_neg hnotAaaa, if_pos ⟨henabled, hqtype⟩]

/-- Other queries do not move it. -/
theorem query_current_of_not {w : Worker} (h : ¬ Synthesizes cfg query) :
    (w.query cfg client query now).1.currentSynthIpHost = w.currentSynthIpHost := by
  rw [Worker.query]
  split_ifs with _ ha
  · rfl
  · exact absurd ha h
  · split <;> rfl

/-! ## The state of a run -/

/-- The time of the event, if it is answered with a synthetic address. -/
def Event.answeredAt : Event → Option Nat
  | .ask cfg _ query now => if Synthesizes cfg query then some now else none
  | .response .. | .packet .. => none

/-- When the answers with synthetic addresses were given. -/
def answered (events : List Event) : List Nat := events.filterMap Event.answeredAt

theorem answered_append_singleton (e : Event) : answered (events ++ [e]) = answered events ++ e.answeredAt.toList := by
  unfold answered
  rw [List.filterMap_append]
  cases h : e.answeredAt <;> simp [h]

/-- The keys of the forward map after `n` answers. -/
def forwardKeys (v4MapOpen : Bool) (n : Nat) : List UInt32 :=
  if v4MapOpen = true then (List.range (min n mapEntries)).map fun k => htonl (poolIp k) else []

theorem mem_forwardKeys (hk : k < n) :
    htonl (poolIp k) ∈ forwardKeys v4MapOpen n ↔ v4MapOpen = true ∧ k % poolSize < mapEntries := by
  have hsize : poolSize = 131070 := rfl
  have hentries : mapEntries = 65536 := rfl
  have hle : k % poolSize ≤ k := Nat.mod_le _ _
  unfold forwardKeys
  split_ifs with hopen
  · simp only [List.mem_map, List.mem_range, poolIp_inj]
    constructor
    · rintro ⟨i, hi, heq⟩
      refine ⟨hopen, ?_⟩
      have : i % poolSize = i := Nat.mod_eq_of_lt (by omega)
      omega
    · rintro ⟨-, hlt⟩
      exact ⟨k % poolSize, by omega, Nat.mod_mod _ _⟩
  · simp [hopen]

/-- One more answer: its address gets a key while there is room. -/
theorem forwardKeys_succ {m : Hash UInt32 In6Addr} (hm : m.map Prod.fst = forwardKeys v4MapOpen n) (target : In6Addr) :
    (if v4MapOpen = true then m.update mapEntries (htonl (poolIp n)) target else m).map Prod.fst =
      forwardKeys v4MapOpen (n + 1) := by
  have hentries : mapEntries = 65536 := rfl
  cases v4MapOpen with
  | false => exact hm
  | true =>
    have hlen : m.length = min n mapEntries := by
      rw [← List.length_map (f := Prod.fst), hm, forwardKeys, if_pos rfl, List.length_map, List.length_range]
    rw [if_pos rfl, Hash.keys_update, hm]
    by_cases hroom : n < mapEntries
    · -- a key beyond all others, appended
      have hnew : htonl (poolIp n) ∉ forwardKeys true n := by
        rw [forwardKeys, if_pos rfl]
        simp only [List.mem_map, List.mem_range, poolIp_inj, not_exists, not_and]
        intro i hi heq
        have hsize : poolSize = 131070 := rfl
        have hi' : i % poolSize = i := Nat.mod_eq_of_lt (by omega)
        have hn' : n % poolSize = n := Nat.mod_eq_of_lt (by omega)
        omega
      rw [if_pos ⟨hnew, by omega⟩, forwardKeys, forwardKeys, if_pos rfl, if_pos rfl,
        show min (n + 1) mapEntries = min n mapEntries + 1 by omega, List.range_succ, List.map_append,
        List.map_singleton, show min n mapEntries = n by omega]
    · -- the map is full
      rw [if_neg fun h => by omega, forwardKeys, forwardKeys, show min (n + 1) mapEntries = min n mapEntries by omega]

/-- The resolver, what it issued and what the forward map holds, by the number of answers. -/
structure Pooled (v4MapOpen : Bool) (times : List Nat) (w : World) : Prop where
  current : w.worker.currentSynthIpHost = poolIp times.length
  issued : w.issued = times.mapIdx fun k now => (htonl (poolIp k), now)
  keys : w.maps.forward.map Prod.fst = forwardKeys v4MapOpen times.length

/-- **One event.** -/
theorem Pooled.step (h : Pooled v4MapOpen (answered events) w)
    (hopen : w.v4MapOpen = v4MapOpen) (e : Event) : Pooled v4MapOpen (answered (events ++ [e])) (w.step e) := by
  rw [answered_append_singleton]
  cases e with
  | ask cfg client query now =>
    by_cases hs : Synthesizes cfg query
    · -- one more answer
      rw [Event.answeredAt, if_pos hs, Option.toList_some]
      dsimp only [World.step]
      rw [if_pos hs, query_of_synthesizes hs]
      refine ⟨?_, ?_, ?_⟩
      · show nextSynthIp w.worker.currentSynthIpHost = _
        rw [h.current, nextSynthIp_poolIp, List.length_append, List.length_singleton]
      · show w.issued ++ [(htonl w.worker.currentSynthIpHost, now)] = _
        rw [h.issued, h.current, List.mapIdx_append, List.mapIdx_singleton]
        simp
      · show (if w.v4MapOpen = true then w.maps.forward.update mapEntries (htonl w.worker.currentSynthIpHost) dnsTarget
          else w.maps.forward).map Prod.fst = _
        rw [hopen, h.current, List.length_append, List.length_singleton]
        exact forwardKeys_succ h.keys dnsTarget
    · rw [Event.answeredAt, if_neg hs, Option.toList_none, List.append_nil]
      dsimp only [World.step]
      rw [if_neg hs]
      exact ⟨(query_current_of_not hs).trans h.current, h.issued, h.keys⟩
  | response response now =>
    rw [Event.answeredAt, Option.toList_none, List.append_nil]
    refine ⟨Eq.trans ?_ h.current, h.issued, h.keys⟩
    show (w.worker.response response now).1.currentSynthIpHost = _
    unfold Worker.response
    split <;> rfl
  | packet cfg headroom frame answers =>
    rw [Event.answeredAt, Option.toList_none, List.append_nil]
    refine ⟨h.current, h.issued, ?_⟩
    show (xdpNat46Handler cfg headroom frame w.maps).maps.forward.map Prod.fst = _
    have hforward : (xdpNat46Handler cfg headroom frame w.maps).maps.forward = w.maps.forward := by
      rcases handler_cases cfg w.maps with ⟨-, hmaps⟩ | ⟨p, -, -, hmaps⟩ <;> rw [hmaps]
    exact hforward ▸ h.keys

theorem pooled_run : Pooled v4MapOpen (answered events) ((World.boot v4MapOpen v6MapOpen).run events) := by
  induction events using List.reverseRecOn with
  | nil => exact ⟨rfl, rfl, by cases v4MapOpen <;> rfl⟩
  | append_singleton events e ih =>
    rw [World.run_append_singleton]
    exact ih.step ((World.boot v4MapOpen v6MapOpen).run_open events).1 e

/-! ## The result -/

/-- The time to live of an answer, in seconds. -/
def answerTtl : Nat := 60

/-- At time `t` every address returned within the last 60 seconds has an entry in the forward map. -/
def Covered (t : Nat) (w : World) : Prop :=
  ∀ ip now, (ip, now) ∈ w.issued → t ≤ now + answerTtl → ∃ target, w.maps.forward.lookup ip = some target

theorem forward_lookup_iff {times : List Nat} (h : Pooled v4MapOpen times w)
    (hk : k < times.length) : (∃ target, w.maps.forward.lookup (htonl (poolIp k)) = some target) ↔
      v4MapOpen = true ∧ k % poolSize < mapEntries := by
  rw [← mem_forwardKeys hk, ← h.keys, ← not_iff_not, ← Hash.lookup_eq_none_iff, Option.eq_none_iff_forall_not_mem]
  simp

theorem covered_iff_of_pooled (h : Pooled v4MapOpen times w) (t : Nat) :
    Covered t w ↔ ∀ k now, times[k]? = some now → t ≤ now + answerTtl →
      v4MapOpen = true ∧ k % poolSize < mapEntries := by
  have hissued : ∀ ip now, (ip, now) ∈ w.issued ↔ ∃ k, times[k]? = some now ∧ ip = htonl (poolIp k) := by
    intro ip now
    rw [h.issued, List.mem_mapIdx]
    constructor
    · rintro ⟨k, hk, heq⟩
      obtain ⟨rfl, rfl⟩ := Prod.mk.inj heq
      exact ⟨k, List.getElem?_eq_getElem hk, rfl⟩
    · rintro ⟨k, hk, rfl⟩
      obtain ⟨hlt, rfl⟩ := List.getElem?_eq_some_iff.mp hk
      exact ⟨k, hlt, rfl⟩
  constructor
  · intro hcov k now hk ht
    have hlt := (List.getElem?_eq_some_iff.mp hk).1
    exact (forward_lookup_iff h hlt).mp (hcov _ now ((hissued _ now).mpr ⟨k, hk, rfl⟩) ht)
  · intro hall ip now hmem ht
    obtain ⟨k, hk, rfl⟩ := (hissued ip now).mp hmem
    have hlt := (List.getElem?_eq_some_iff.mp hk).1
    exact (forward_lookup_iff h hlt).mpr (hall k now hk ht)

/-- **Coverage.**  After any events and at any time: the addresses of the last 60 seconds are all in the forward
    map, if and only if the map is open and each of their answers, counted from 0, fell into the first 65536
    of a turn of 131070. -/
theorem covered_iff (v4MapOpen v6MapOpen : Bool) (events : List Event) (t : Nat) :
    Covered t ((World.boot v4MapOpen v6MapOpen).run events) ↔
      ∀ k now, (answered events)[k]? = some now → t ≤ now + answerTtl →
        v4MapOpen = true ∧ k % poolSize < mapEntries :=
  covered_iff_of_pooled pooled_run t

/-- An A query at time 0, while NAT46 is on. -/
def askA (client : UInt32) : Event := .ask { nat46Enabled := true } { ip := client, port := 1024 } queryABc 0

/-- The 65537th answer within a minute has no entry; nor has the first one, if the map is not open. -/
theorem pool_outgrows_map :
    ¬ Covered 0 ((World.boot true true).run (List.replicate 65537 (askA 1))) ∧
      ¬ Covered 0 ((World.boot false false).run [askA 1]) := by
  have hnow : (askA 1).answeredAt = some 0 := by decide
  have htimes : answered (List.replicate 65537 (askA 1)) = List.replicate 65537 0 :=
    List.filterMap_replicate_of_some hnow
  constructor
  · intro h
    have hall := (covered_iff_of_pooled pooled_run 0).mp h
    rw [htimes] at hall
    have hlast := (hall 65536 0 (by rw [List.getElem?_replicate, if_pos (by decide)]) (by decide)).2
    exact absurd hlast (by decide)
  · intro h
    have hall := (covered_iff_of_pooled pooled_run 0).mp h
    exact absurd (hall 0 0 (by decide) (by decide)).1 (by decide)

end FluxWAN.Nat46
