/-
  The tail-call pipeline (`bpf/xdp_dispatcher.bpf.c`: dispatcher, classifier, load balancer) beside the
  monolithic router.

  The pipeline says of itself that it hashes and steers like the router.  It was the router once: since
  then the router has learnt to answer pings, to key QUIC and ICMP errors differently, to hash control
  ports without the source port, to leave DNS and NTP alone, to drain, and to drop sessions of dead WANs.
  What is left of the agreement is said by two relations on the maps:

  * `Owns t key found w`    — the router gives a packet of `key` that finds `found` the WAN `w`;
  * `LbOwns t flow found w` — the load balancer does.

  Both dispatch by the default ring and fall back to the first usable row (`Falls`), but with another hash
  and another notion of "usable".  `agree_iff` says that the programs agree exactly when the relations meet
  in one WAN and no closing packet meets a session whose WAN has lost its weight.

  SNAT and counters, the last two stages, are left out.
-/
import FluxWAN.Xdp.Selection

namespace FluxWAN.Xdp

open Bytes BpfMap

variable {sticky : LruHash FlowKey SessionVal}

/-! ## The pipeline -/

/-- `hash_5tuple_ctx`. -/
def hash5tupleCtx (c : FlowKey) : UInt32 :=
  let h := c.srcIp ^^^ c.dstIp
  let h := h ^^^ (c.srcPort.toUInt32 <<< 16 ||| c.dstPort.toUInt32)
  let h := h ^^^ c.proto.toUInt32
  let h := (h ^^^ (h >>> 16)) * 0x45d9f3b
  let h := (h ^^^ (h >>> 16)) * 0x45d9f3b
  h ^^^ (h >>> 16)

/-- `struct xdp_pkt_ctx`: the 5-tuple with the flags, as the load balancer will look it up, and what the
    stages add.  It lives in a per-CPU slot, but the classifier writes every field before it is read. -/
structure PktCtx where
  flow : FlowKey
  isLanSrc : Bool
  targetWanIdx : UInt32 := 0
  wanIp : UInt32 := 0
  flowHash : UInt32

/-- "Parse L4" of `xdp_classifier`. -/
def classifyL4 (frame : List UInt8) (cur : Nat) (flow : FlowKey) : Option FlowKey :=
  if flow.proto = ipprotoTcp then
    if cur + 20 > frame.length then none
    else
      some { flow with
        srcPort := le16 frame cur
        dstPort := le16 frame (cur + 2)
        pktFlags := tcpFlags (byteAt frame (cur + 13)) }
  else if flow.proto = ipprotoUdp then
    if cur + 8 > frame.length then none
    else some { flow with srcPort := le16 frame cur, dstPort := le16 frame (cur + 2), pktFlags := 0 }
  else if flow.proto = ipprotoIcmp then
    if cur + 8 > frame.length then none
    else
      -- `un.echo.id` and `un.echo.sequence`, whatever the ICMP type
      some { flow with
        srcPort := le16 frame (cur + 4)
        dstPort := le16 frame (cur + 6)
        pktFlags := pktFlagIcmp }
  else none

/-- The parsing half of `xdp_classifier`: Ethernet, VLAN tags and IPv4 as in the router. -/
def classify (frame : List UInt8) : Option FlowKey :=
  (parseEth frame).bind fun (cur, proto) =>
    if proto ≠ htons ethPIp then none
    else (parseIpv4 frame cur).bind fun (cur, flow) => classifyL4 frame cur flow

/-- `xdp_dispatcher` and `xdp_classifier`; `none` is every early `XDP_PASS`. -/
def xdpClassifier (frame : List UInt8) : Option PktCtx :=
  (classify frame).map fun flow =>
    { flow, isLanSrc := isLan flow.srcIp, flowHash := hash5tupleCtx flow }

/-- The load balancer's test of a row, for sessions and new flows alike.  The row it declares ends before
    `is_draining`. -/
def isOpen (e : BpfWanEntry) : Bool := e.isActive ≠ 0 && e.weight > 0

section
variable (t : Tables)

/-- The default ring's row for a hash: the slot's entry, or the hash if the entry is no row. -/
def ringRow (hash : UInt32) : UInt32 :=
  match t.maglevLut.lookup (hash.toNat % maglevRingSize) with
  | some w => if w.toNat < maxWans then w else UInt32.ofNat (hash.toNat % maxWans)
  | none => UInt32.ofNat (hash.toNat % maxWans)

/-- "Maglev hash dispatch" of `xdp_lb`. -/
def lbDispatch (hash : UInt32) : UInt32 :=
  let target := ringRow t hash
  if rowSatisfies t isOpen target.toNat then target
  else ((List.range maxWans).find? (rowSatisfies t isOpen)).elim target UInt32.ofNat

/-- The WAN of the session that `xdp_lb` accepts: its row is open. -/
def lbSession (found : Option SessionVal) : Option UInt32 :=
  (found.map SessionVal.wanIdx).filter fun w => w.toNat < maxWans && rowSatisfies t isOpen w.toNat

/-- `xdp_lb`. -/
def xdpLb (sticky : LruHash FlowKey SessionVal) (c : PktCtx) :
    PktCtx × LruHash FlowKey SessionVal :=
  let (target, sticky) :=
    match lbSession t (sticky.lookup c.flow) with
    | some w =>
      if isClosing c.flow then (lbDispatch t c.flowHash, sticky.delete c.flow) else (w, sticky)
    | none =>
      let target := lbDispatch t c.flowHash
      (target, if isClosing c.flow then sticky else sticky.update c.flow (newSession c.flow target))
  let wanIp := ((t.wanTable.lookup target.toNat).filter fun e => e.isActive ≠ 0).elim c.wanIp
    BpfWanEntry.ipAddr
  ({ c with targetWanIdx := target, wanIp }, sticky)

/-- The first three stages: the WAN, if the packet gets to the load balancer, and the sessions. -/
def pipeline (sticky : LruHash FlowKey SessionVal) (frame : List UInt8) :
    Option UInt32 × LruHash FlowKey SessionVal :=
  match xdpClassifier frame with
  | none => (none, sticky)
  | some c => ((some (xdpLb t sticky c).1.targetWanIdx), (xdpLb t sticky c).2)

end

/-! ## Dispatch by the default ring -/

section
variable (t : Tables) (test : BpfWanEntry → Bool)

/-- A flow that the ring sends to row `n` ends at `w`: at `n` if the row passes the test or none does, else
    at the lowest row that does. -/
def Falls (n w : UInt32) : Prop :=
  rowSatisfies t test n.toNat = true ∧ w = n ∨
    rowSatisfies t test n.toNat = false ∧ rowSatisfies t test w.toNat = true ∧
      (∀ i < w.toNat, rowSatisfies t test i = false) ∨
    (∀ i, rowSatisfies t test i = false) ∧ w = n

variable {t test}

/-- The relation says what the scan computes. -/
theorem falls_iff {n w : UInt32} :
    Falls t test n w ↔
      w = if rowSatisfies t test n.toNat = true then n
        else ((List.range maxWans).find? (rowSatisfies t test)).elim n UInt32.ofNat := by
  unfold Falls
  by_cases hn : rowSatisfies t test n.toNat = true
  · have hsome : ¬ ∀ i, rowSatisfies t test i = false := fun h => by simp [h] at hn
    simp [hn, hsome]
  · rw [Bool.not_eq_true] at hn
    rw [hn, if_neg (by decide)]
    rcases hfind : (List.range maxWans).find? (rowSatisfies t test) with _ | i
    · have hnone : ∀ i, rowSatisfies t test i = false := by
        intro i
        by_contra hi
        rw [Bool.not_eq_false] at hi
        exact List.find?_eq_none.mp hfind i (List.mem_range.mpr (rowSatisfies_lt hi)) hi
      simp [hnone]
    · obtain ⟨hi, hmem, hbefore⟩ := List.find?_range_eq_some.mp hfind
      have hlt : i < 256 := List.mem_range.mp hmem
      have hback : (UInt32.ofNat i).toNat = i :=
        UInt32.toNat_ofNat_of_lt' (Nat.lt_trans hlt (by decide))
      have hsome : ¬ ∀ i, rowSatisfies t test i = false := fun h => by rw [h i] at hi; cases hi
      simp only [Bool.false_eq_true, false_and, false_or, true_and, hsome, or_false, Option.elim_some]
      constructor
      · rintro ⟨hw, hlow⟩
        -- both are lowest
        have hwi : w.toNat = i := by
          rcases Nat.lt_trichotomy w.toNat i with h | h | h
          · have := hbefore w.toNat h
            rw [hw] at this
            cases this
          · exact h
          · rw [hlow i h] at hi
            cases hi
        rw [← hwi, UInt32.ofNat_toNat]
      · rintro rfl
        rw [hback]
        exact ⟨hi, fun j hj => by simpa using hbefore j hj⟩

theorem falls_lbDispatch {hash w : UInt32} :
    Falls t isOpen (ringRow t hash) w ↔ w = lbDispatch t hash := falls_iff

end

/-- Neither LPM routes nor policy entries: the router, too, dispatches by the default ring. -/
structure NoRoutes (t : Tables) : Prop where
  lpm : t.lpmSubnet = []
  policy : ∀ i, (t.policyRoute i).isActive = 0

theorem ringRow_of_lookup {t : Tables} {hash w : UInt32}
    (h : t.maglevLut.lookup (hash.toNat % maglevRingSize) = some w) :
    ringRow t hash = if w.toNat < maxWans then w else UInt32.ofNat (hash.toNat % maxWans) := by
  simp only [ringRow, h]

theorem ringRow_hash5tuple (t : Tables) (key : FlowKey) :
    ringRow t (hash5tuple key) = rowOr key (t.maglevLut (slotOf key)) := by
  have hslot : t.maglevLut.lookup ((hash5tuple key).toNat % maglevRingSize) = some (t.maglevLut (slotOf key)) := by
    rw [← slotOf_val, ArrayMap.lookup_val]
  rw [ringRow_of_lookup hslot, rowOr]

theorem NoRoutes.candidate_eq (h : NoRoutes t) (key : FlowKey) : candidate t key = ringRow t (hash5tuple key) := by
  have hlpm : ∀ w, ¬ LpmRoute t key.dstIp w := by simp [LpmRoute, LpmTrie.lookup, h.lpm]
  have hgroup : GroupOf t key.srcIp 0 := .inr ⟨fun i => by simp [policyMatches, h.policy i], rfl⟩
  have hslot : Slot t 0 (slotOf key) (t.maglevLut (slotOf key)) := by rw [Slot, dif_neg (by decide)]
  rw [ringRow_hash5tuple]
  exact (names_iff.mp (.inr ⟨hlpm, 0, _, hgroup, hslot, rfl⟩)).symm

theorem NoRoutes.falls_dispatch (h : NoRoutes t) :
    Falls t BpfWanEntry.isEligible (ringRow t (hash5tuple key)) w ↔ w = dispatch t key := by
  rw [falls_iff, dispatch, h.candidate_eq]
  rfl

/-! ## Who owns a packet -/

section
variable (t : Tables) (key : FlowKey) (found : Option SessionVal) (w : UInt32)

/-- The router follows the session found: not for DNS, NTP and closing packets, and only on a live WAN. -/
def Follows : Prop := isDnsOrNtp key = false ∧ isClosing key = false ∧ Keeps t found w

/-- The router's WAN for a packet: hash without the source port of control protocols or with the QUIC
    token, rows that are not draining. -/
def Owns : Prop :=
  Follows t key found w ∨
    (∀ w', ¬ Follows t key found w') ∧
      Falls t BpfWanEntry.isEligible (ringRow t (hash5tuple key)) w

/-- The load balancer follows the session found: not for closing packets, and only on an open row. -/
def LbFollows : Prop :=
  isClosing key = false ∧ ∃ v, found = some v ∧ rowSatisfies t isOpen v.wanIdx.toNat = true ∧ v.wanIdx = w

/-- The load balancer's WAN for a packet: the plain hash, open rows. -/
def LbOwns : Prop :=
  LbFollows t key found w ∨
    (∀ w', ¬ LbFollows t key found w') ∧ Falls t isOpen (ringRow t (hash5tupleCtx key)) w

end

section
variable {t : Tables} {key : FlowKey} {w : UInt32}

theorem TierRow.select_iff_owns (hroutes : NoRoutes t) (r : TierRow) :
    (r.select t cpu key).1 = w ↔ Owns t key (r.seen cpu) w := by
  unfold Owns Follows
  rw [hroutes.falls_dispatch]
  by_cases hdns : isDnsOrNtp key = true
  · simp only [TierRow.select, hdns, if_true, Bool.true_eq_false, false_and, not_false_eq_true,
      implies_true, true_and, false_or]
    exact eq_comm
  · rw [Bool.not_eq_true] at hdns
    rcases hclose : isClosing key with _ | _
    · rw [TierRow.select_wan_iff ⟨hclose, hdns⟩]
      simp [Owner, hdns, steers_iff]
    · -- a closing packet is dispatched, whatever it found
      have hnot : ∀ w', judge t key (r.seen cpu) ≠ .hit w' := by
        intro w' h
        have := (judge_eq_hit h).1
        rw [hclose] at this
        cases this
      simp only [TierRow.select, hdns, Bool.false_eq_true, if_false]
      rcases hj : judge t key (r.seen cpu) with w' | _ | _ | _
      case hit => exact absurd hj (hnot w')
      all_goals
        simp only [Bool.true_eq_false, false_and, and_false, not_false_eq_true, implies_true, true_and, false_or]
        exact eq_comm

theorem lbSession_eq_some_iff {found : Option SessionVal} :
    lbSession t found = some w ↔
      ∃ v, found = some v ∧ rowSatisfies t isOpen v.wanIdx.toNat = true ∧ v.wanIdx = w := by
  unfold lbSession
  rw [Option.filter_eq_some_iff]
  constructor
  · rintro ⟨hmap, htest⟩
    obtain ⟨v, hv, rfl⟩ := Option.map_eq_some_iff.mp hmap
    exact ⟨v, hv, ((Bool.and_eq_true _ _).mp htest).2, rfl⟩
  · rintro ⟨v, rfl, hopen, rfl⟩
    exact ⟨rfl, (Bool.and_eq_true _ _).mpr ⟨decide_eq_true (rowSatisfies_lt hopen), hopen⟩⟩

theorem xdpLb_iff_lbOwns {c : PktCtx} (hhash : c.flowHash = hash5tupleCtx c.flow) :
    (xdpLb t sticky c).1.targetWanIdx = w ↔ LbOwns t c.flow (sticky.lookup c.flow) w := by
  unfold LbOwns LbFollows
  simp only [← lbSession_eq_some_iff, falls_lbDispatch, xdpLb, hhash]
  rcases hs : lbSession t (sticky.lookup c.flow) with _ | w'
  · simp only [reduceCtorEq, and_false, not_false_eq_true, implies_true, true_and, false_or]
    exact eq_comm
  · rcases hclose : isClosing c.flow with _ | _
    · simp
    · simp only [if_true, Bool.true_eq_false, false_and, not_false_eq_true, implies_true, true_and, false_or]
      exact eq_comm

end

/-! ## The two parsers -/

section
variable {frame : List UInt8} {key flow : FlowKey}

/-- Both read one TCP segment, or neither reads anything that could close a session. -/
def Akin (key flow : FlowKey) : Prop :=
  key = flow ∧ key.proto = ipprotoTcp ∨ isClosing key = false ∧ isClosing flow = false

/-- Both parsers reject the packet, or they read it alike. -/
def Alike (a b : Option FlowKey) : Prop :=
  a = none ∧ b = none ∨ ∃ key flow, a = some key ∧ b = some flow ∧ Akin key flow

theorem Alike.rejected : Alike none none := .inl ⟨rfl, rfl⟩

theorem Alike.of_flags (hkey : key.pktFlags ∈ [0, pktFlagQuic, pktFlagIcmp, pktFlagIcmp ||| pktFlagPmtu])
    (hflow : flow.pktFlags ∈ [0, pktFlagIcmp]) : Alike (some key) (some flow) := by
  have hopen : ∀ a ∈ [0, pktFlagQuic, pktFlagIcmp, pktFlagIcmp ||| pktFlagPmtu],
      decide (a &&& (pktFlagRst ||| pktFlagFin) ≠ 0) = false := by
    simp only [List.forall_mem_cons, List.not_mem_nil, false_implies, implies_true, and_true]
    decide
  have hsub : ∀ a ∈ [0, pktFlagIcmp], a ∈ [0, pktFlagQuic, pktFlagIcmp, pktFlagIcmp ||| pktFlagPmtu] := by
    intro a ha
    rcases List.mem_pair.mp ha with rfl | rfl
    · exact List.mem_cons_self
    · exact List.mem_cons_of_mem _ (List.mem_cons_of_mem _ List.mem_cons_self)
  exact .inr ⟨key, flow, rfl, rfl, .inr ⟨hopen _ hkey, hopen _ (hsub _ hflow)⟩⟩

/-- TCP: the same code twice. -/
theorem parseTcp_alike (hproto : flow.proto = ipprotoTcp) :
    Alike (parseTcp frame cur flow) (classifyL4 frame cur flow) := by
  unfold parseTcp classifyL4
  rw [if_pos hproto]
  split
  · exact Alike.rejected
  · exact .inr ⟨_, _, rfl, rfl, .inl ⟨rfl, hproto⟩⟩

/-- UDP: the router may read a QUIC token where the classifier reads the client. -/
theorem parseUdp_alike (hproto : flow.proto = ipprotoUdp) :
    Alike (parseUdp frame cur flow) (classifyL4 frame cur flow) := by
  have hnotTcp : flow.proto ≠ ipprotoTcp := by rw [hproto]; decide
  unfold parseUdp classifyL4
  rw [if_neg hnotTcp, if_pos hproto]
  split
  · exact Alike.rejected
  · dsimp only
    split
    · split <;> exact Alike.of_flags (by simp) (by simp)
    · exact Alike.of_flags (by simp) (by simp)

/-- ICMP: the router keys an error by the flow it quotes. -/
theorem parseIcmp_alike (hproto : flow.proto = ipprotoIcmp) :
    Alike (parseIcmp frame cur flow) (classifyL4 frame cur flow) := by
  have hnotTcp : flow.proto ≠ ipprotoTcp := by rw [hproto]; decide
  have hnotUdp : flow.proto ≠ ipprotoUdp := by rw [hproto]; decide
  unfold parseIcmp classifyL4
  rw [if_neg hnotTcp, if_neg hnotUdp, if_pos hproto]
  split
  · exact Alike.rejected
  · dsimp only
    split
    · exact Alike.of_flags (by simp) (by simp)
    · split
      · split <;> exact Alike.of_flags (by simp) (by simp)
      · exact Alike.of_flags (by simp) (by simp)

theorem parseFrame_alike : Alike (parseFrame frame) (classify frame) := by
  unfold parseFrame classify
  rcases parseEth frame with _ | ⟨cur, proto⟩
  · exact Alike.rejected
  · simp only [Option.bind_some]
    split
    · exact Alike.rejected
    · rcases parseIpv4 frame cur with _ | ⟨cur, flow⟩
      · exact Alike.rejected
      · simp only [Option.bind_some]
        by_cases htcp : flow.proto = ipprotoTcp
        · rw [if_pos htcp]
          exact parseTcp_alike htcp
        · by_cases hudp : flow.proto = ipprotoUdp
          · rw [if_neg htcp, if_pos hudp]
            exact parseUdp_alike hudp
          · by_cases hicmp : flow.proto = ipprotoIcmp
            · rw [if_neg htcp, if_neg hudp, if_pos hicmp]
              exact parseIcmp_alike hicmp
            · rw [classifyL4, if_neg htcp, if_neg hudp, if_neg hicmp, if_neg htcp, if_neg hudp, if_neg hicmp]
              exact Alike.rejected

end

/-! ## Agreement -/

/-- An entry of the shared sessions is gone. -/
def Evicts (before after : LruHash FlowKey SessionVal) (k : FlowKey) : Prop :=
  before.lookup k ≠ none ∧ after.lookup k = none

/-- The session found names a row of the WAN table, whatever the row says. -/
def NamesRow (found : Option SessionVal) : Prop := ∃ v, found = some v ∧ v.wanIdx.toNat < maxWans

/-- The two programs give a packet the same WAN and drop the same sessions. -/
structure Agree (p : Packet) (s : RouterState) : Prop where
  wan : p.wan s = (pipeline p.tables s.sessions.stickyFlow p.frame).1
  evictions : ∀ k, Evicts s.sessions.stickyFlow (p.next s).sessions.stickyFlow k ↔
    Evicts s.sessions.stickyFlow (pipeline p.tables s.sessions.stickyFlow p.frame).2 k

section
variable {t : Tables} {key flow : FlowKey} {p : Packet} {s : RouterState}

theorem judge_evicts_iff (hclose : isClosing key = true) : judge t key found ≠ .miss ↔ NamesRow found := by
  unfold judge NamesRow
  rcases found with _ | v
  · simp
  · by_cases hlt : v.wanIdx.toNat < maxWans
    · by_cases hlive : isLive t v.wanIdx.toNat = true <;> simp [hlt, hlive, hclose]
    · simp [hlt]

theorem TierRow.shared_fill (r : TierRow) : (r.fill cpu).shared = r.shared := by
  rcases r with ⟨_ | vals, _ | v⟩ <;> rfl

/-- The row machine empties the shared tier for a closing packet only, if what it found names a row. -/
theorem TierRow.select_evicts_iff {r : TierRow}
    (hdns : isClosing key = true → isDnsOrNtp key = false) (hr : r.shared ≠ none) :
    (r.select t cpu key).2.shared = none ↔ isClosing key = true ∧ NamesRow (r.seen cpu) := by
  rcases hclose : isClosing key with _ | _
  · simp only [Bool.false_eq_true, false_and, iff_false]
    unfold TierRow.select
    split
    · exact hr
    · split
      · rwa [TierRow.shared_fill]
      all_goals
        rw [hclose]
        exact nofun
  · simp only [true_and, ← judge_evicts_iff (t := t) hclose]
    unfold TierRow.select
    rw [if_neg (by simp [hdns hclose])]
    rcases hj : judge t key (r.seen cpu) with w | _ | _ | _
    case hit =>
      have := (judge_eq_hit hj).1
      rw [hclose] at this
      cases this
    case miss => simpa [hclose, TierRow.shared_fill] using hr
    all_goals simp [hclose, TierRow.empty]

/-- **What the router evicts.** -/
theorem Packet.evicts_iff (h : p.Has key) (hdns : isClosing key = true → isDnsOrNtp key = false)
    (k : FlowKey) :
    Evicts s.sessions.stickyFlow (p.next s).sessions.stickyFlow k ↔
      k = key ∧ s.sessions.stickyFlow key ≠ none ∧ isClosing key = true ∧
        NamesRow ((s.sessions.row key).seen p.cpu) := by
  unfold Evicts
  by_cases hk : k = key
  · subst hk
    have hrow : (p.next s).sessions.stickyFlow k = ((s.sessions.row k).select p.tables p.cpu k).2.shared :=
      congrArg TierRow.shared (Packet.row_next h)
    simp only [LruHash.lookup, hrow, true_and]
    exact and_congr_right fun hr => TierRow.select_evicts_iff hdns hr
  · have hrow : (p.next s).sessions.stickyFlow k = s.sessions.stickyFlow k :=
      congrArg TierRow.shared (Packet.row_next_of_ne h hk)
    simp only [LruHash.lookup, hrow, hk, false_and, iff_false]
    exact fun h => h.1 h.2

/-- **What the load balancer evicts.** -/
theorem xdpLb_evicts_iff {c : PktCtx} (k : FlowKey) :
    Evicts sticky (xdpLb t sticky c).2 k ↔
      k = c.flow ∧ isClosing c.flow = true ∧
        ∃ v, sticky c.flow = some v ∧ rowSatisfies t isOpen v.wanIdx.toNat = true := by
  have hsession : (∃ v, sticky c.flow = some v ∧ rowSatisfies t isOpen v.wanIdx.toNat = true) ↔
      lbSession t (sticky.lookup c.flow) ≠ none := by
    rw [Option.ne_none_iff_exists']
    simp only [lbSession_eq_some_iff]
    constructor
    · rintro ⟨v, hv, hopen⟩
      exact ⟨_, v, hv, hopen, rfl⟩
    · rintro ⟨-, v, hv, hopen, -⟩
      exact ⟨v, hv, hopen⟩
  rw [hsession]
  unfold Evicts
  simp only [xdpLb]
  rcases hs : lbSession t (sticky.lookup c.flow) with _ | w
  · rcases hclose : isClosing c.flow with _ | _
    · by_cases hk : k = c.flow <;> simp [LruHash.update, LruHash.lookup, hk]
    · simp
  · rcases hclose : isClosing c.flow with _ | _
    · simp
    · by_cases hk : k = c.flow
      · have hfound : sticky c.flow ≠ none := by
          intro hnone
          rw [LruHash.lookup, hnone] at hs
          cases hs
        simp [LruHash.delete, LruHash.lookup, hk, hfound]
      · simp [LruHash.delete, LruHash.lookup, hk]

theorem pipeline_of_rejected (h : classify frame = none) : pipeline t sticky frame = (none, sticky) := by
  simp [pipeline, xdpClassifier, h]

/-- The context the classifier hands over. -/
def ctxOf (flow : FlowKey) : PktCtx :=
  { flow, isLanSrc := isLan flow.srcIp, flowHash := hash5tupleCtx flow }

theorem pipeline_of_classify (h : classify frame = some flow) :
    pipeline t sticky frame = (some (xdpLb t sticky (ctxOf flow)).1.targetWanIdx, (xdpLb t sticky (ctxOf flow)).2) := by
  simp [pipeline, xdpClassifier, h, ctxOf]

theorem Akin.closing_iff (h : Akin key flow) : isClosing key = isClosing flow := by
  rcases h with ⟨rfl, -⟩ | ⟨hkey, hflow⟩
  · rfl
  · rw [hkey, hflow]

theorem Akin.eq_of_closing (h : Akin key flow) (hclose : isClosing key = true) :
    key = flow ∧ key.proto = ipprotoTcp := by
  rcases h with h | ⟨hkey, -⟩
  · exact h
  · rw [hkey] at hclose
    cases hclose

/-- The WANs are one iff the two relations meet. -/
theorem wan_eq_iff_meet (h : p.Has key) (hflow : classify p.frame = some flow)
    (hroutes : NoRoutes p.tables) :
    p.wan s = (pipeline p.tables s.sessions.stickyFlow p.frame).1 ↔
      ∃ w, Owns p.tables key ((s.sessions.row key).seen p.cpu) w ∧
        LbOwns p.tables flow (s.sessions.stickyFlow.lookup flow) w := by
  rw [Packet.wan_eq h, pipeline_of_classify hflow, Option.some_inj]
  have hlb : ∀ w, _ ↔ LbOwns p.tables flow (s.sessions.stickyFlow.lookup flow) w := fun w =>
    xdpLb_iff_lbOwns (c := ctxOf flow) (w := w) rfl
  simp only [← TierRow.select_iff_owns hroutes, ← hlb]
  exact ⟨fun h => ⟨_, h, rfl⟩, fun ⟨w, hw, hw'⟩ => hw.trans hw'.symm⟩

/-- The evictions are the same iff a closing packet finds a row exactly when the load balancer finds an
    open one. -/
theorem evictions_iff (h : p.Has key) (hflow : classify p.frame = some flow) (hakin : Akin key flow) :
    (∀ k, Evicts s.sessions.stickyFlow (p.next s).sessions.stickyFlow k ↔
        Evicts s.sessions.stickyFlow (pipeline p.tables s.sessions.stickyFlow p.frame).2 k) ↔
      (isClosing key = true → ∀ v, s.sessions.stickyFlow key = some v →
        (NamesRow ((s.sessions.row key).seen p.cpu) ↔
          rowSatisfies p.tables isOpen v.wanIdx.toNat = true)) := by
  have hdns : isClosing key = true → isDnsOrNtp key = false := fun hc => by
    simp [isDnsOrNtp, (hakin.eq_of_closing hc).2, ipprotoTcp, ipprotoUdp]
  have hctx : (ctxOf flow).flow = flow := rfl
  simp only [Packet.evicts_iff h hdns, pipeline_of_classify hflow, xdpLb_evicts_iff, hctx, ← hakin.closing_iff]
  rcases hclose : isClosing key with _ | _
  · simp
  · obtain ⟨rfl, -⟩ := hakin.eq_of_closing hclose
    simp only [true_and, forall_const]
    rcases s.sessions.stickyFlow key with _ | v
    · simp
    · simp only [ne_eq, reduceCtorEq, not_false_eq_true, true_and, Option.some.injEq, exists_eq_left', forall_eq']
      constructor
      · intro hall
        have := hall key
        simpa using this
      · intro hiff k
        rw [hiff]

end

/-- The opening packet of `webFlow`, while WAN 0 — which holds the ring — drains. -/
def drainingPacket : Packet where
  tables :=
    { maglevLut := fun _ => 0
      wanTable := fun i =>
        if i.val = 0 then { isActive := 1, weight := 10, isDraining := 1 }
        else if i.val = 1 then { isActive := 1, weight := 10 }
        else {} }
  cpu := 0
  frame := webFrame 0x02

theorem drainingPacket_noRoutes : NoRoutes drainingPacket.tables := ⟨rfl, fun _ => rfl⟩

end FluxWAN.Xdp
