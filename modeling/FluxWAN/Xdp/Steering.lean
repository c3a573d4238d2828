/-
  What the tables say about a flow, read as RELATIONS.

  `dispatch` computes the WAN of a flow without a session by scanning: 16 policy entries, one ring slot,
  256 rows.  Here the same tables are read without scanning:

  * `FirstMatch t src g` — the first policy entry that covers `src` targets group `g`;
  * `GroupOf t src g`    — … or no entry covers it and `g = 0`;
  * `Slot t g i w`       — slot `i` of the ring consulted for group `g` holds `w`;
  * `Names t key w`      — the LPM route, or else the slot the flow hashes to, names `w`;
  * `FirstEligible t w`  — `w` is the lowest row that may receive new flows;
  * `Steers t key w`     — `w` is the named WAN if it may receive new flows or nobody may, else the first
    that may.

  `steers_iff` closes the circle: the tables steer a flow to `w` iff `dispatch` returns `w`.  Later results
  speak of `Steers`, so that what they assume about the tables can be checked against the tables.
-/
import FluxWAN.Xdp.Router

namespace FluxWAN.Xdp

open Bytes BpfMap

variable {src g w : UInt32} {key : FlowKey}

section
variable (t : Tables)

/-! ## The relations -/

/-- The first active policy entry that covers `src` targets `g`. -/
def FirstMatch (src g : UInt32) : Prop :=
  ∃ p : Fin maxBpfPolicies, policyMatches (t.policyRoute p) src = true ∧
    (t.policyRoute p).targetGroup = g ∧ ∀ q < p, policyMatches (t.policyRoute q) src = false

/-- The group whose ring is asked for `src`; 0 without a covering entry. -/
def GroupOf (src g : UInt32) : Prop :=
  FirstMatch t src g ∨ (∀ p, policyMatches (t.policyRoute p) src = false) ∧ g = 0

/-- The group has a ring of its own in `maglev_group_map`. -/
def HasRing (g : UInt32) : Prop := 0 < g.toNat ∧ g.toNat < maxBpfGroups

instance (g : UInt32) : Decidable (HasRing g) := inferInstanceAs (Decidable (_ ∧ _))

/-- Where slot `i` of the ring of `g` lives in `maglev_group_map`. -/
def HasRing.index {g : UInt32} (h : HasRing g) (i : Fin maglevRingSize) :
    Fin (maxBpfGroups * maglevRingSize) :=
  ⟨g.toNat * maglevRingSize + i, by
    have hg : g.toNat < 8 := h.2
    have hi : i.val < 65537 := i.isLt
    show g.toNat * 65537 + i.val < 8 * 65537
    omega⟩

/-- Slot `i` of the ring consulted for group `g`: the group's own, else the default ring. -/
def Slot (g : UInt32) (i : Fin maglevRingSize) (w : UInt32) : Prop :=
  if h : HasRing g then t.maglevGroup (h.index i) = w else t.maglevLut i = w

/-- The slot a flow hashes to. -/
def slotOf (key : FlowKey) : Fin maglevRingSize :=
  ⟨(hash5tuple key).toNat % maglevRingSize, Nat.mod_lt _ (by decide)⟩

/-- A ring entry as a WAN; an entry that is no row gives way to the hash. -/
def rowOr (key : FlowKey) (w : UInt32) : UInt32 :=
  if w.toNat < maxWans then w else UInt32.ofNat ((hash5tuple key).toNat % maxWans)

/-- An LPM route to a row covers the destination. -/
def LpmRoute (dstIp w : UInt32) : Prop :=
  t.lpmSubnet.lookup (htonl dstIp) = some w ∧ w.toNat < maxWans

/-- The ring entry of the flow is `w`. -/
def RingNames (key : FlowKey) (w : UInt32) : Prop :=
  ∃ g e, GroupOf t key.srcIp g ∧ Slot t g (slotOf key) e ∧ w = rowOr key e

/-- What the tables name for the flow before its health is looked at. -/
def Names (key : FlowKey) (w : UInt32) : Prop :=
  LpmRoute t key.dstIp w ∨ (∀ v, ¬ LpmRoute t key.dstIp v) ∧ RingNames t key w

/-- The lowest row that may receive new flows. -/
def FirstEligible (w : UInt32) : Prop :=
  isEligible t w.toNat = true ∧ ∀ i < w.toNat, isEligible t i = false

/-- **Where the tables send a flow that has no session.** -/
def Steers (key : FlowKey) (w : UInt32) : Prop :=
  ∃ n, Names t key n ∧
    (isEligible t n.toNat = true ∧ w = n ∨
      isEligible t n.toNat = false ∧ FirstEligible t w ∨
      (∀ i, isEligible t i = false) ∧ w = n)

/-! ## They say what the scans compute -/

variable {t}

theorem firstPolicy_eq_some_iff :
    firstPolicy t src = some p ↔ ∃ hp : p < maxBpfPolicies, policyMatches (t.policyRoute ⟨p, hp⟩) src = true ∧
        ∀ q : Fin maxBpfPolicies, q.val < p → policyMatches (t.policyRoute q) src = false := by
  unfold firstPolicy
  rw [List.find?_range_eq_some]
  constructor
  · rintro ⟨hmatch, hmem, hbefore⟩
    have hp : p < maxBpfPolicies := List.mem_range.mp hmem
    rw [ArrayMap.lookup_of_lt _ hp] at hmatch
    refine ⟨hp, hmatch, ?_⟩
    intro q hq
    have := hbefore q.val hq
    rw [ArrayMap.lookup_val] at this
    simpa using this
  · rintro ⟨hp, hmatch, hbefore⟩
    refine ⟨?_, List.mem_range.mpr hp, ?_⟩
    · rw [ArrayMap.lookup_of_lt _ hp]
      exact hmatch
    · intro q hq
      have hq16 : q < maxBpfPolicies := Nat.lt_trans hq hp
      rw [ArrayMap.lookup_of_lt _ hq16]
      simpa using hbefore ⟨q, hq16⟩ hq

theorem firstPolicy_eq_none_iff :
    firstPolicy t src = none ↔ ∀ p, policyMatches (t.policyRoute p) src = false := by
  unfold firstPolicy
  rw [List.find?_eq_none]
  constructor
  · intro h p
    have := h p.val (List.mem_range.mpr p.isLt)
    rw [ArrayMap.lookup_val] at this
    simpa using this
  · intro h p hp
    rw [ArrayMap.lookup_of_lt _ (List.mem_range.mp hp)]
    simpa using h _

theorem targetGroup_of_some (hp : p < maxBpfPolicies) (h : firstPolicy t src = some p) :
    targetGroup t src = (t.policyRoute ⟨p, hp⟩).targetGroup := by
  simp [targetGroup, h, ArrayMap.lookup_of_lt _ hp]

/-- The scan answers the group of the source. -/
theorem groupOf_iff : GroupOf t src g ↔ g = targetGroup t src := by
  constructor
  · rintro (⟨p, hmatch, hgroup, hbefore⟩ | ⟨h, rfl⟩)
    · have hfirst := firstPolicy_eq_some_iff.mpr ⟨p.isLt, hmatch, hbefore⟩
      rw [targetGroup_of_some p.isLt hfirst, hgroup]
    · rw [targetGroup, firstPolicy_eq_none_iff.mpr h]
      rfl
  · rintro rfl
    rcases hfirst : firstPolicy t src with _ | p
    · refine .inr ⟨firstPolicy_eq_none_iff.mp hfirst, ?_⟩
      rw [targetGroup, hfirst]
      rfl
    · obtain ⟨hp, hmatch, hbefore⟩ := firstPolicy_eq_some_iff.mp hfirst
      exact .inl ⟨⟨p, hp⟩, hmatch, (targetGroup_of_some hp hfirst).symm, hbefore⟩

theorem HasRing.index_val (h : HasRing g) (i : Fin maglevRingSize) :
    (h.index i).val = g.toNat * maglevRingSize + i.val := rfl

theorem slotOf_val (key : FlowKey) :
    (slotOf key).val = (hash5tuple key).toNat % maglevRingSize := rfl

theorem picked_of_hasRing (h : HasRing g) (key : FlowKey) :
    picked t g (hash5tuple key) = some (t.maglevGroup (h.index (slotOf key))) := by
  have hcond : g > 0 ∧ g.toNat < maxBpfGroups := ⟨UInt32.lt_iff_toNat_lt.mpr h.1, h.2⟩
  simp only [picked]
  rw [if_pos hcond, ← slotOf_val, ← h.index_val, ArrayMap.lookup_val, Option.some_or]

theorem picked_of_not_hasRing (h : ¬ HasRing g) (key : FlowKey) :
    picked t g (hash5tuple key) = some (t.maglevLut (slotOf key)) := by
  have hcond : ¬ (g > 0 ∧ g.toNat < maxBpfGroups) := by
    rintro ⟨hpos, hlt⟩
    exact h ⟨UInt32.lt_iff_toNat_lt.mp hpos, hlt⟩
  simp only [picked]
  rw [if_neg hcond, ← slotOf_val, ArrayMap.lookup_val, Option.none_or]

theorem slot_iff :
    Slot t g (slotOf key) w ↔ picked t g (hash5tuple key) = some w := by
  unfold Slot
  split
  case isTrue h => rw [picked_of_hasRing h, Option.some_inj]
  case isFalse h => rw [picked_of_not_hasRing h, Option.some_inj]

theorem ringNames_iff : RingNames t key w ↔ w = ringWan t key := by
  obtain ⟨e, he⟩ : ∃ e, Slot t (targetGroup t key.srcIp) (slotOf key) e := by
    unfold Slot
    split <;> exact ⟨_, rfl⟩
  have hwan : ringWan t key = rowOr key e := by
    unfold ringWan
    extract_lets flowHash
    rw [slot_iff.mp he]
    rfl
  rw [hwan]
  constructor
  · rintro ⟨g, e', hg, he', rfl⟩
    rw [groupOf_iff.mp hg, slot_iff, slot_iff.mp he] at he'
    rw [Option.some.inj he']
  · rintro rfl
    exact ⟨_, e, groupOf_iff.mpr rfl, he, rfl⟩

theorem lpmRoute_iff : LpmRoute t dst w ↔ lpmWan t dst = some w := by
  simp only [LpmRoute, lpmWan, Option.filter_eq_some_iff, decide_eq_true_eq]

theorem names_iff : Names t key w ↔ w = candidate t key := by
  unfold Names candidate
  rw [ringNames_iff]
  simp only [lpmRoute_iff]
  rcases lpmWan t key.dstIp with _ | v
  · simp
  · simp [eq_comm]

/-- Only the 256 rows of the table pass a test. -/
theorem rowSatisfies_lt (h : rowSatisfies t p i = true) : i < maxWans := by
  by_contra hi
  have hrow : t.wanTable.lookup i = none := dif_neg hi
  rw [rowSatisfies, hrow] at h
  cases h

theorem firstEligible_iff :
    FirstEligible t w ↔ firstEligible t = some w.toNat := by
  unfold FirstEligible firstEligible
  rw [List.find?_range_eq_some]
  constructor
  · rintro ⟨h, hbefore⟩
    refine ⟨h, List.mem_range.mpr (rowSatisfies_lt h), ?_⟩
    intro i hi
    simp [hbefore i hi]
  · rintro ⟨h, -, hbefore⟩
    exact ⟨h, fun i hi => by simpa using hbefore i hi⟩

theorem firstEligible_eq_none_iff : firstEligible t = none ↔ ∀ i, isEligible t i = false := by
  unfold firstEligible
  rw [List.find?_eq_none]
  constructor
  · intro h i
    by_contra hi
    rw [Bool.not_eq_false] at hi
    exact h i (List.mem_range.mpr (rowSatisfies_lt hi)) hi
  · intro h i _
    simp [h i]

/-- The tables steer a flow to `w` iff `dispatch` returns `w`. -/
theorem steers_iff : Steers t key w ↔ w = dispatch t key := by
  unfold Steers dispatch
  simp only [names_iff, exists_eq_left]
  by_cases helig : isEligible t (candidate t key).toNat = true
  · have hsome : ¬ ∀ i, isEligible t i = false := fun h => by simp [h] at helig
    simp [helig, hsome]
  · rw [Bool.not_eq_true] at helig
    simp only [helig, Bool.false_eq_true, false_and, false_or, if_false, true_and]
    rcases hfirst : firstEligible t with _ | i
    · -- nobody is eligible: the named WAN stands
      have hnone := firstEligible_eq_none_iff.mp hfirst
      simp only [firstEligible_iff, hfirst, Option.elim_none]
      simp [hnone]
    · have hlt : i < 256 := List.mem_range.mp (List.mem_of_find?_eq_some hfirst)
      have hsome : ¬ ∀ i, isEligible t i = false := by
        rw [← firstEligible_eq_none_iff, hfirst]
        simp
      have hback : (UInt32.ofNat i).toNat = i := UInt32.toNat_ofNat_of_lt' (Nat.lt_trans hlt (by decide))
      simp only [hsome, false_and, or_false, firstEligible_iff, hfirst, Option.some_inj, Option.elim_some]
      constructor
      · rintro rfl
        simp
      · rintro rfl
        exact hback.symm

theorem rowOr_lt (key : FlowKey) (w : UInt32) : (rowOr key w).toNat < maxWans := by
  unfold rowOr
  split
  · assumption
  · have hmod : (hash5tuple key).toNat % 256 < 256 := Nat.mod_lt _ (by decide)
    rw [UInt32.toNat_ofNat_of_lt' (Nat.lt_trans hmod (by decide))]
    exact hmod

theorem Names.lt (h : Names t key w) : w.toNat < maxWans := by
  rcases h with ⟨-, hlt⟩ | ⟨-, -, -, -, -, rfl⟩
  · exact hlt
  · exact rowOr_lt key _

/-- A flow is always sent to a row of the WAN table. -/
theorem Steers.lt (h : Steers t key w) : w.toNat < maxWans := by
  obtain ⟨n, hn, ⟨-, rfl⟩ | ⟨-, hfirst, -⟩ | ⟨-, rfl⟩⟩ := h
  · exact hn.lt
  · exact rowSatisfies_lt hfirst
  · exact hn.lt

theorem dispatch_lt (t : Tables) (key : FlowKey) : (dispatch t key).toNat < maxWans :=
  (steers_iff.mpr rfl).lt

end

end FluxWAN.Xdp
