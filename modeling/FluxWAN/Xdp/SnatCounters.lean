/-
  Two counts of the same rewrites.

  The program counts source NAT twice: `total_snat_rewrites` when it calls `apply_snat`, `snat_packets` of the
  WAN when the WAN is active and has an address.  The second test leaves out what the first asks besides, that
  NAT is switched on and the source is a LAN address; and neither asks whether `apply_snat`, which looks for the
  header right behind Ethernet, has turned the frame away.  `SnatConsistent` is the condition under which one
  packet moves both counts by the number of its rewrites, and `balanced_run_iff` carries it over whole runs.
-/
import Mathlib.Algebra.BigOperators.Group.Finset.Basic
import Mathlib.Algebra.Order.BigOperators.Group.Finset
import FluxWAN.Xdp.SnatRewrite

namespace FluxWAN.Xdp

open Bytes BpfMap

/-! ## What one packet counts -/

/-- The packet is counted by its WAN: it is not bounced, and the WAN is active and has an address. -/
def counted (t : Tables) (frame : List UInt8) (w : UInt32) : Bool :=
  rowSatisfies t (fun e => !exceedsMtu frame e && e.isActive ≠ 0 && e.ipAddr ≠ 0) w.toNat

theorem translates_eq (t : Tables) (w : UInt32) :
    translates t frame w = (decide (t.ctrl.snatEnabled ≠ 0) && counted t frame w) := rfl

theorem finish_snatPackets (t : Tables) (s : RouterState) (key : FlowKey) (w : UInt32) (c : Cpu) (i : Fin maxWans) :
    ((finish t tailroom cpu s key frame w).state.wanStats c i).snatPackets =
      if c = cpu ∧ i.val = w.toNat ∧ counted t frame w = true then (s.wanStats c i).snatPackets + 1
      else (s.wanStats c i).snatPackets := by
  unfold finish counted rowSatisfies
  rcases t.wanTable.lookup w.toNat with _ | e
  · simp
  · by_cases hbig : exceedsMtu frame e = true
    · simp [hbig]
    · by_cases hc : c = cpu
      · by_cases hi : i.val = w.toNat
        · have hrow : (s.wanStats cpu).lookup w.toNat = some (s.wanStats cpu i) := by
            rw [← hi, ArrayMap.lookup_val]
          simp [hbig, setCpu, ArrayMap.update, hc, hi, hrow]
        · simp [hbig, setCpu, ArrayMap.update, hc, hi]
      · simp [hbig, setCpu, hc]

namespace Packet

variable {p : Packet} {s : RouterState} {key : FlowKey} {w : UInt32}

/-- A packet that is routed: the count of its WAN moves by the test of the WAN. -/
theorem snatPackets_next (hp : p.Has key) (hw : p.wan s = some w) (c : Cpu) (i : Fin maxWans) :
    ((p.next s).wanStats c i).snatPackets = if c = p.cpu ∧ i.val = w.toNat ∧ counted p.tables p.frame w = true then
        (s.wanStats c i).snatPackets + 1
      else (s.wanStats c i).snatPackets := by
  obtain ⟨s', hresult, hwans, -⟩ := result_eq_finish hp hw
  show ((p.result s).state.wanStats c i).snatPackets = _
  rw [hresult, ← hwans, finish_snatPackets]

/-- Other packets count nothing. -/
theorem counters_next_of_not_has (h : ∀ key, ¬ p.Has key) (c : Cpu) :
    ((p.next s).globalStats c).totalSnatRewrites = (s.globalStats c).totalSnatRewrites ∧
      (p.next s).wanStats = s.wanStats := by
  rcases hparse : parseFrame p.frame with _ | key
  · simp [next, xdpRouterFunc, hparse]
  · have hping : pingsRouter p.tables key = true := by
      by_contra hp
      exact h key ⟨hparse, by simpa using hp⟩
    simp only [next, xdpRouterFunc, hparse, hping, if_true, and_true, setCpu]
    split
    · rename_i hc
      rw [hc]
    · rfl

end Packet

/-! ## Totals -/

/-- The global count, over the first `n` CPUs. -/
def globalSnatTotal (n : Nat) (s : RouterState) : Nat :=
  ∑ c ∈ Finset.range n, (s.globalStats c).totalSnatRewrites.toNat

/-- The counts of all WANs, over the first `n` CPUs. -/
def wanSnatTotal (n : Nat) (s : RouterState) : Nat :=
  ∑ c ∈ Finset.range n, ∑ i : Fin maxWans, (s.wanStats c i).snatPackets.toNat

/-- One summand is raised by `d`. -/
theorem sum_of_raised {ι : Type} [DecidableEq ι] {S : Finset ι} {f g : ι → Nat} {i : ι} (hi : i ∈ S)
    (d : Nat) (hother : ∀ j, j ≠ i → g j = f j) (hself : g i = f i + d) :
    ∑ j ∈ S, g j = ∑ j ∈ S, f j + d := by
  have hrest : ∑ j ∈ S.erase i, g j = ∑ j ∈ S.erase i, f j :=
    Finset.sum_congr rfl fun j hj => hother j (Finset.ne_of_mem_erase hj)
  rw [← Finset.add_sum_erase S g hi, ← Finset.add_sum_erase S f hi, hself, hrest]
  omega

theorem toNat_add_one {x : UInt64} (h : x.toNat + 1 < 2 ^ 64) : (x + 1).toNat = x.toNat + 1 := by
  rw [UInt64.toNat_add]
  exact Nat.mod_eq_of_lt h

section
variable {n : Nat} {p : Packet} {s : RouterState} {key : FlowKey} {w : UInt32} (hp : p.Has key)
  (hw : p.wan s = some w) (hcpu : p.cpu < n)
include hp hw hcpu

theorem globalSnatTotal_next (hroom : globalSnatTotal n s + 1 < 2 ^ 64) :
    globalSnatTotal n (p.next s) = globalSnatTotal n s +
      if translates p.tables p.frame w = true ∧ isLan key.srcIp = true then 1 else 0 := by
  have hmem : p.cpu ∈ Finset.range n := Finset.mem_range.mpr hcpu
  have hle : (s.globalStats p.cpu).totalSnatRewrites.toNat ≤ globalSnatTotal n s :=
    Finset.single_le_sum (f := fun c => (s.globalStats c).totalSnatRewrites.toNat)
      (fun _ _ => Nat.zero_le _) hmem
  refine sum_of_raised hmem _ ?_ ?_
  · intro c hc
    rw [Packet.totalSnatRewrites_next hp hw, if_neg fun h => hc h.1]
  · rw [Packet.totalSnatRewrites_next hp hw]
    by_cases h : translates p.tables p.frame w = true ∧ isLan key.srcIp = true
    · rw [if_pos ⟨rfl, h⟩, if_pos h, toNat_add_one (by omega)]
    · rw [if_neg fun h' => h h'.2, if_neg h, Nat.add_zero]

theorem wanSnatTotal_next (hroom : wanSnatTotal n s + 1 < 2 ^ 64) :
    wanSnatTotal n (p.next s) = wanSnatTotal n s + if counted p.tables p.frame w = true then 1 else 0 := by
  have hmem : p.cpu ∈ Finset.range n := Finset.mem_range.mpr hcpu
  refine sum_of_raised hmem _ ?_ ?_
  · intro c hc
    refine Finset.sum_congr rfl fun i _ => ?_
    rw [Packet.snatPackets_next hp hw, if_neg fun h => hc h.1]
  · by_cases h : counted p.tables p.frame w = true
    · have hlt : w.toNat < maxWans := rowSatisfies_lt h
      have hle : (s.wanStats p.cpu ⟨w.toNat, hlt⟩).snatPackets.toNat ≤ wanSnatTotal n s :=
        Nat.le_trans
          (Finset.single_le_sum (f := fun i => (s.wanStats p.cpu i).snatPackets.toNat)
            (fun _ _ => Nat.zero_le _) (Finset.mem_univ _))
          (Finset.single_le_sum (f := fun c => ∑ i : Fin maxWans, (s.wanStats c i).snatPackets.toNat)
            (fun _ _ => Nat.zero_le _) hmem)
      rw [if_pos h]
      refine sum_of_raised (Finset.mem_univ ⟨w.toNat, hlt⟩) 1 ?_ ?_
      · intro i hi
        rw [Packet.snatPackets_next hp hw, if_neg fun h' => hi (Fin.ext h'.2.1)]
      · rw [Packet.snatPackets_next hp hw, if_pos ⟨rfl, rfl, h⟩, toNat_add_one (by omega)]
    · rw [if_neg h, Nat.add_zero]
      refine Finset.sum_congr rfl fun i _ => ?_
      rw [Packet.snatPackets_next hp hw, if_neg fun h' => h h'.2.2]

end

/-! ## Runs -/

instance (p : Packet) (s : RouterState) : Decidable (p.Rewritten s) := inferInstanceAs (Decidable (_ ∧ _))

/-- The rewrites a history performs. -/
def rewrites : RouterState → List Packet → Nat
  | _, [] => 0
  | s, p :: ps => (if p.Rewritten s then 1 else 0) + rewrites (p.next s) ps

/-- Both counts are the number of rewrites. -/
def Balanced (n : Nat) (s : RouterState) (rewrites : Nat) : Prop :=
  wanSnatTotal n s = rewrites ∧ globalSnatTotal n s = rewrites

/-- A packet that the WAN it goes to counts is one that is rewritten: NAT is on, the source is a LAN address,
    and `apply_snat` does not turn the frame away. -/
def SnatConsistent (p : Packet) (s : RouterState) : Prop :=
  ∀ key w, p.Has key → Goes p.tables key (s.sessions.find p.cpu key).1 w →
    counted p.tables p.frame w = true →
    p.tables.ctrl.snatEnabled ≠ 0 ∧ isLan key.srcIp = true ∧ snatFits p.frame = true

/-- Every packet of the history is consistent with the state it meets. -/
def ConsistentRun : RouterState → List Packet → Prop
  | _, [] => True
  | s, p :: ps => SnatConsistent p s ∧ ConsistentRun (p.next s) ps

theorem snatConsistent_iff {p : Packet} {key : FlowKey} (hp : p.Has key) (hw : p.wan s = some w) :
    SnatConsistent p s ↔ (counted p.tables p.frame w = true →
      p.tables.ctrl.snatEnabled ≠ 0 ∧ isLan key.srcIp = true ∧ snatFits p.frame = true) := by
  constructor
  · exact fun h => h key w hp (Packet.wan_eq_some_iff_goes hp |>.mp hw)
  · intro h key' w' hp' hgoes
    obtain rfl := hp.unique hp'
    obtain rfl := Option.some.inj (hw.symm.trans ((Packet.wan_eq_some_iff_goes hp).mpr hgoes))
    exact h

/-- **One packet.**  It keeps the counts in balance exactly if it is consistent. -/
theorem balanced_next_iff {p : Packet} (hcpu : p.cpu < n) (hroom : r + 1 < 2 ^ 64) (h : Balanced n s r) :
    Balanced n (p.next s) (r + if p.Rewritten s then 1 else 0) ↔ SnatConsistent p s := by
  obtain ⟨hwans, hglobal⟩ := h
  by_cases hrouted : ∃ key, p.Has key
  · obtain ⟨key, hp⟩ := hrouted
    have hw := Packet.wan_eq (s := s) hp
    generalize ((s.sessions.row key).select p.tables p.cpu key).1 = w at hw
    have hcall : translates p.tables p.frame w = true ↔
        p.tables.ctrl.snatEnabled ≠ 0 ∧ counted p.tables p.frame w = true := by
      rw [translates_eq, Bool.and_eq_true, decide_eq_true_eq]
    rw [snatConsistent_iff hp hw, Balanced, wanSnatTotal_next hp hw hcpu (by omega),
      globalSnatTotal_next hp hw hcpu (by omega), hwans, hglobal]
    simp only [Packet.rewritten_iff hp hw, hcall]
    by_cases hcounted : counted p.tables p.frame w = true <;>
      by_cases hon : p.tables.ctrl.snatEnabled ≠ 0 <;> by_cases hlan : isLan key.srcIp = true <;>
        by_cases hfits : snatFits p.frame = true <;> simp [hcounted, hon, hlan, hfits]
  · -- nothing is counted, nothing rewritten
    have hnone := not_exists.mp hrouted
    have hnot : ¬ p.Rewritten s := fun h => h.1 (Packet.counters_next_of_not_has hnone _).1
    have hsame : wanSnatTotal n (p.next s) = r ∧ globalSnatTotal n (p.next s) = r := by
      refine ⟨?_, ?_⟩
      · rw [wanSnatTotal, (Packet.counters_next_of_not_has hnone 0).2]
        exact hwans
      · rw [← hglobal]
        exact Finset.sum_congr rfl fun c _ => by rw [(Packet.counters_next_of_not_has hnone c).1]
    rw [if_neg hnot]
    exact iff_of_true hsame fun key _ hp => absurd hp (hnone key)

/-- The run, from a state in balance. -/
theorem balanced_run_from {ps : List Packet} :
    ∀ {s : RouterState} {r : Nat}, (∀ p ∈ ps, p.cpu < n) → r + ps.length < 2 ^ 64 → Balanced n s r →
      ((∀ k ≤ ps.length, Balanced n (runState s (ps.take k)) (r + rewrites s (ps.take k))) ↔
        ConsistentRun s ps) := by
  induction ps with
  | nil =>
    intro s r _ _ h
    refine iff_of_true (fun k _ => ?_) trivial
    rw [List.take_nil]
    exact h
  | cons p ps ih =>
    intro s r hcpus hlen h
    obtain ⟨hcpu, hcpus⟩ := List.forall_mem_cons.mp hcpus
    rw [List.length_cons] at hlen
    have hstep := balanced_next_iff hcpu (by omega) h
    have hcons : ∀ k, runState s ((p :: ps).take (k + 1)) = runState (p.next s) (ps.take k) ∧
        r + rewrites s ((p :: ps).take (k + 1)) =
          r + (if p.Rewritten s then 1 else 0) + rewrites (p.next s) (ps.take k) := by
      intro k
      rw [List.take_succ_cons]
      exact ⟨rfl, (Nat.add_assoc _ _ _).symm⟩
    have hbound : (r + if p.Rewritten s then 1 else 0) + ps.length < 2 ^ 64 := by split <;> omega
    constructor
    · intro hall
      have hnext : Balanced n (p.next s) (r + if p.Rewritten s then 1 else 0) := by
        have hone := hall 1 (by rw [List.length_cons]; omega)
        rwa [(hcons 0).1, (hcons 0).2, List.take_zero] at hone
      refine ⟨hstep.mp hnext, (ih hcpus hbound hnext).mp fun k hk => ?_⟩
      have hsucc := hall (k + 1) (by rw [List.length_cons]; omega)
      rwa [(hcons k).1, (hcons k).2] at hsucc
    · rintro ⟨hp, hps⟩ k hk
      cases k with
      | zero => exact h
      | succ k =>
        rw [(hcons k).1, (hcons k).2]
        refine (ih hcpus hbound (hstep.mpr hp)).mpr hps k ?_
        rw [List.length_cons] at hk
        omega

/-- **When the counts agree.**  On `n` CPUs, from counters that are zero, over every history of fewer than 2^64
    packets under whatever tables: after every packet the counts of the WANs add up to the number of rewrites, and
    so does the global count, if and only if every packet is consistent with the state it meets. -/
theorem balanced_run_iff (n : Nat) (s : RouterState) (ps : List Packet) (hcpus : ∀ p ∈ ps, p.cpu < n)
    (hlen : ps.length < 2 ^ 64) (hglobal : ∀ c, (s.globalStats c).totalSnatRewrites = 0)
    (hwans : ∀ c i, (s.wanStats c i).snatPackets = 0) :
    (∀ k ≤ ps.length, Balanced n (runState s (ps.take k)) (rewrites s (ps.take k))) ↔
      ConsistentRun s ps := by
  have hzero : Balanced n s 0 := by
    simp [Balanced, wanSnatTotal, globalSnatTotal, hglobal, hwans]
  have hrun := balanced_run_from hcpus (by omega) hzero
  simpa only [Nat.zero_add] using hrun

theorem balanced_run_iff_syn :
    (∀ k ≤ [synPacket 0x05020008].length, Balanced 1 (runState {} ([synPacket 0x05020008].take k))
        (rewrites {} ([synPacket 0x05020008].take k))) ↔
      ConsistentRun {} [synPacket 0x05020008] :=
  balanced_run_iff 1 {} [synPacket 0x05020008] (by simp [synPacket]) (by decide) (fun _ => rfl) fun _ _ => rfl

/-- NAT is switched off; the WANs have addresses all the same. -/
def unswitchedPacket : Packet :=
  { synPacket 0x077100CB with tables := { (synPacket 0x077100CB).tables with ctrl := {} } }

theorem unswitchedPacket_has : unswitchedPacket.Has synKey := by
  have hparse : parseFrame synFrame = some synKey := by decide
  exact ⟨hparse, rfl⟩

theorem unswitchedPacket_wan : unswitchedPacket.wan {} = some 1 := by decide

/-- With NAT switched off nothing is rewritten, and the WAN counts a rewrite. -/
theorem unswitched_counts_rewrite :
    rewrites {} [unswitchedPacket] = 0 ∧ globalSnatTotal 1 (runState {} [unswitchedPacket]) = 0 ∧
      wanSnatTotal 1 (runState {} [unswitchedPacket]) = 1 := by
  refine ⟨by decide, ?_, ?_⟩
  · have hnext : globalSnatTotal 1 (unswitchedPacket.next {}) = _ :=
      globalSnatTotal_next unswitchedPacket_has unswitchedPacket_wan (by decide) (by decide)
    exact hnext
  · have hzero : wanSnatTotal 1 {} = 0 := by simp [wanSnatTotal]
    have hcounted : counted unswitchedPacket.tables unswitchedPacket.frame 1 = true := by decide
    have hnext : wanSnatTotal 1 (unswitchedPacket.next {}) = _ :=
      wanSnatTotal_next unswitchedPacket_has unswitchedPacket_wan (by decide) (by rw [hzero]; decide)
    rw [hzero, if_pos hcounted] at hnext
    exact hnext

end FluxWAN.Xdp
