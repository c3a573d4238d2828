/-
  How a Maglev ring is shared out (`src/wan_manager.c`: `build_single_maglev_ring`).

  The ring depends on its eligible members only (`buildSingleMaglevRing_eq_contenders`): they are the ones with a
  weight, `max_weight` is their maximum, and the fallback owner is the first of them.  Hence

  * listing further WANs that are not eligible, or no longer listing them, and multiplying the weights of all
    eligible members by one factor leave every slot as it is (`ring_scaled`);
  * as long as no probe position wraps, the slots are shared out in exact proportion: `⌊(K - 1) * w / W⌋` or
    `⌊K * w / W⌋` slots for a weight of `w`, for one number of rounds `K` (`ring_proportional`).

  Accumulators stay below twice the maximal weight, so a maximum below 2^31 keeps them from wrapping.
-/
import FluxWAN.Maglev
import FluxWAN.Lib.WeightedShare

namespace FluxWAN

open CString WeightedFill SlotTable

variable {v : UInt32} {w : WanConfig}

/-! ## The ring depends on its contenders -/

/-- The set-up loop's entries for a member whose index is in range. -/
def Config.contender (c : Config) (v : UInt32) : Member UInt32 maglevRingSize :=
  maglevMember c (fun _ => ⟨0, 0, 0, 0⟩) 0 v

/-- The largest weight of an eligible member. -/
structure HeaviestWeight (c : Config) (idx : List UInt32) (maxWeight : Nat) : Prop where
  attained : ∃ v ∈ idx, ∃ w, c.wans[v.toNat]? = some w ∧ w.isActive = true ∧ w.dynamicWeight.toNat = maxWeight
  largest : ∀ v ∈ idx, ∀ w, c.wans[v.toNat]? = some w → w.isActive = true → w.dynamicWeight.toNat ≤ maxWeight

section
variable {c : Config} {idx : List UInt32} {maxWeight : Nat}

theorem contender_eq (hget : c.wans[v.toNat]? = some w) (hact : w.isActive = true) :
    c.contender v =
      { owner := v
        probe := maglevProbe (maglevOffset w.name) (maglevSkip w.name)
        weight := w.dynamicWeight.toNat } := by
  simp only [Config.contender, maglevMember, hget, if_pos hact]

theorem mem_eligible (hv : v ∈ idx) (hget : c.wans[v.toNat]? = some w) (hact : w.isActive = true) :
    v ∈ idx.filter c.activeIdx :=
  List.mem_filter.mpr ⟨hv, (c.activeIdx_iff v).mpr ⟨w, hget, hact⟩⟩

theorem of_mem_contenders (hm : m ∈ (idx.filter c.activeIdx).map c.contender) :
    ∃ v ∈ idx, ∃ w, c.wans[v.toNat]? = some w ∧ w.isActive = true ∧ m =
      { owner := v
        probe := maglevProbe (maglevOffset w.name) (maglevSkip w.name)
        weight := w.dynamicWeight.toNat } := by
  obtain ⟨v, hv, rfl⟩ := List.mem_map.mp hm
  obtain ⟨hvidx, hva⟩ := List.mem_filter.mp hv
  obtain ⟨w, hget, hact⟩ := (c.activeIdx_iff v).mp hva
  exact ⟨v, hvidx, w, hget, hact, contender_eq hget hact⟩

/-- An index in range leaves nothing to the stack. -/
theorem maglevMember_eq_contender (m : Nat) (hv : v.toNat < c.wans.length) :
    maglevMember c stack m v = c.contender v := by
  simp only [Config.contender, maglevMember, List.getElem?_eq_getElem hv]

theorem contends_contender (hv : v.toNat < c.wans.length) :
    (c.contender v).contends = c.activeIdx v := by
  have hget := List.getElem?_eq_getElem hv
  cases hact : c.wans[v.toNat].isActive with
  | true =>
    have hpos : 0 < c.wans[v.toNat].dynamicWeight.toNat := ((WanConfig.isActive_iff _).mp hact).2
    rw [contender_eq hget hact]
    simp only [Member.contends, Config.activeIdx, hget, Option.any_some, hact]
    simpa using hpos.ne'
  | false =>
    simp [Member.contends, Config.activeIdx, Config.contender, maglevMember, hget, hact]

/-- The members with a weight are the eligible ones. -/
theorem filter_members (stack : Nat → StackCell) (hlt : ∀ v ∈ idx, v.toNat < c.wans.length) :
    (idx.mapIdx (maglevMember c stack)).filter Member.contends = (idx.filter c.activeIdx).map c.contender := by
  have hmembers : idx.mapIdx (maglevMember c stack) = idx.map c.contender := by
    rw [List.mapIdx_eq_iff]
    intro i
    rw [List.getElem?_map]
    cases hget : idx[i]? with
    | none => rfl
    | some v => exact congrArg some (maglevMember_eq_contender i (hlt v (List.mem_of_getElem? hget))).symm
  rw [hmembers, List.filter_map]
  exact congrArg (List.map c.contender) (List.filter_congr fun v hv => contends_contender (hlt v hv))

theorem maxWeightOf_eq (hpos : 0 < maxWeight)
    (hatt : ∃ m ∈ ms, m.weight = maxWeight) (hle : ∀ m ∈ ms, m.weight ≤ maxWeight) : maxWeightOf ms = maxWeight := by
  obtain ⟨m, hm, hw⟩ := hatt
  obtain ⟨⟨h, hh, hheavy⟩, hbound⟩ := maxWeightOf_spec hm (by omega)
  have h1 := hbound m hm
  have h2 := hle h hh
  omega

theorem exists_heaviest (hact : ∃ v ∈ idx, c.activeIdx v = true) : ∃ maxWeight, HeaviestWeight c idx maxWeight := by
  obtain ⟨v, hv, hva⟩ := hact
  obtain ⟨w, hget, hw⟩ := (c.activeIdx_iff v).mp hva
  have hne : (c.contender v).weight ≠ 0 := by
    have hpos : 0 < w.dynamicWeight.toNat := ((WanConfig.isActive_iff w).mp hw).2
    rw [contender_eq hget hw]
    exact hpos.ne'
  obtain ⟨⟨m, hm, hheavy⟩, hbound⟩ := maxWeightOf_spec (List.mem_map_of_mem (mem_eligible hv hget hw)) hne
  obtain ⟨u, hu, w', hget', hact', rfl⟩ := of_mem_contenders hm
  refine ⟨maxWeightOf ((idx.filter c.activeIdx).map c.contender), ⟨u, hu, w', hget', hact', hheavy⟩, ?_⟩
  intro x hx wx hgetx hactx
  have hle := hbound _ (List.mem_map_of_mem (mem_eligible hx hgetx hactx))
  rwa [contender_eq hgetx hactx] at hle

theorem HeaviestWeight.pos (h : HeaviestWeight c idx maxWeight) : 0 < maxWeight := by
  obtain ⟨v, _, w, _, hact, rfl⟩ := h.attained
  exact ((WanConfig.isActive_iff w).mp hact).2

theorem HeaviestWeight.congr (h : HeaviestWeight c idx maxWeight) {idx' : List UInt32}
    (hsame : idx'.filter c.activeIdx = idx.filter c.activeIdx) : HeaviestWeight c idx' maxWeight := by
  have hiff : ∀ v w, c.wans[v.toNat]? = some w → w.isActive = true → (v ∈ idx ↔ v ∈ idx') := by
    intro v w hget hact
    have hva : c.activeIdx v = true := (c.activeIdx_iff v).mpr ⟨w, hget, hact⟩
    have hmem := congrArg (v ∈ ·) hsame
    simp only [List.mem_filter, hva, and_true] at hmem
    exact hmem.symm ▸ Iff.rfl
  constructor
  · obtain ⟨v, hv, w, hget, hact, hweight⟩ := h.attained
    exact ⟨v, (hiff v w hget hact).mp hv, w, hget, hact, hweight⟩
  · exact fun v hv w hget hact => h.largest v ((hiff v w hget hact).mpr hv) w hget hact

/-- The heaviest contender is the heaviest eligible member. -/
theorem HeaviestWeight.contenders (h : HeaviestWeight c idx maxWeight) :
    (∃ m ∈ (idx.filter c.activeIdx).map c.contender, m.weight = maxWeight) ∧
      ∀ m ∈ (idx.filter c.activeIdx).map c.contender, m.weight ≤ maxWeight := by
  constructor
  · obtain ⟨v, hv, w, hget, hact, hweight⟩ := h.attained
    refine ⟨_, List.mem_map_of_mem (mem_eligible hv hget hact), ?_⟩
    rw [contender_eq hget hact]
    exact hweight
  · intro m hm
    obtain ⟨v, hv, w, hget, hact, rfl⟩ := of_mem_contenders hm
    exact h.largest v hv w hget hact

/-- The ring is the weighted fill of its contenders. -/
theorem buildSingleMaglevRing_eq_contenders (stack : Nat → StackCell) (hlt : ∀ v ∈ idx, v.toNat < c.wans.length)
    (h : HeaviestWeight c idx maxWeight) :
    ∃ first, (idx.filter c.activeIdx).head? = some first ∧
      buildSingleMaglevRing c stack idx = fillLoop emptySlot (2 ^ 32) maxWeight first
        ((idx.filter c.activeIdx).map c.contender) (Vector.replicate _ emptySlot) 0 := by
  obtain ⟨hatt, hle⟩ := h.contenders
  have hmembers := filter_members stack hlt
  -- members without weight do not change the maximum
  have hmax : maxWeightOf (idx.mapIdx (maglevMember c stack)) = maxWeight := by
    rw [← hmembers] at hatt hle
    obtain ⟨m, hm, hweight⟩ := hatt
    refine maxWeightOf_eq h.pos ⟨m, (List.mem_filter.mp hm).1, hweight⟩ ?_
    intro m' hm'
    by_cases hc : m'.contends = true
    · exact hle m' (List.mem_filter.mpr ⟨hm', hc⟩)
    · have hzero : m'.weight = 0 := by simpa [Member.contends] using hc
      omega
  obtain ⟨v, hv, w, hget, hact, -⟩ := h.attained
  obtain ⟨first, rest, hfilter⟩ := List.exists_cons_of_ne_nil (List.ne_nil_of_mem (mem_eligible hv hget hact))
  refine ⟨first, by rw [hfilter]; rfl, ?_⟩
  rw [← hmembers, fillLoop_filter, ← hmax]
  cases idx with
  | nil => exact absurd hv List.not_mem_nil
  | cons v idx => simp only [buildSingleMaglevRing, hfilter]

end

/-! ## What does not change a ring -/

/-- Lists with the same eligible members give the same ring. -/
theorem ring_of_same_eligible {c : Config} {idx idx' : List UInt32}
    (hlt : ∀ v ∈ idx, v.toNat < c.wans.length) (hlt' : ∀ v ∈ idx', v.toNat < c.wans.length)
    (hact : ∃ v ∈ idx, c.activeIdx v = true) (hsame : idx'.filter c.activeIdx = idx.filter c.activeIdx) :
    buildSingleMaglevRing c stack' idx' = buildSingleMaglevRing c stack idx := by
  obtain ⟨maxWeight, hheavy⟩ := exists_heaviest hact
  obtain ⟨first, hfirst, hring⟩ := buildSingleMaglevRing_eq_contenders stack hlt hheavy
  obtain ⟨first', hfirst', hring'⟩ := buildSingleMaglevRing_eq_contenders stack' hlt' (hheavy.congr hsame)
  rw [hsame] at hfirst' hring'
  rw [hring, hring', Option.some.inj (hfirst'.symm.trans hfirst)]

/-- The configuration with the weights of the eligible members of `idx` multiplied by `k`. -/
def Config.scaleWeights (c : Config) (k : Nat) (idx : List UInt32) : Config :=
  { c with
    wans := c.wans.mapIdx fun i w =>
      if UInt32.ofNat i ∈ idx ∧ w.isActive = true then
        { w with dynamicWeight := UInt32.ofNat (k * w.dynamicWeight.toNat) }
      else w
    wans_le := by
      rw [List.length_mapIdx]
      exact c.wans_le }

section
variable {c : Config} {idx : List UInt32} {k : Nat}

theorem scaleWeights_getElem? (v : UInt32) :
    (c.scaleWeights k idx).wans[v.toNat]? = (c.wans[v.toNat]?).map fun w =>
      if v ∈ idx ∧ w.isActive = true then
        { w with dynamicWeight := UInt32.ofNat (k * w.dynamicWeight.toNat) }
      else w := by
  show (c.wans.mapIdx _)[v.toNat]? = _
  rw [List.getElem?_mapIdx, UInt32.ofNat_toNat]

/-- The scaled weight is a weight again. -/
def Fits (k : Nat) (w : WanConfig) : Prop := k * w.dynamicWeight.toNat < 2 ^ 31

theorem Fits.toNat (h : Fits k w) :
    (UInt32.ofNat (k * w.dynamicWeight.toNat)).toNat = k * w.dynamicWeight.toNat :=
  UInt32.toNat_ofNat_of_lt' (Nat.lt_trans h (by decide))

theorem Fits.isActive (hk : 0 < k) (h : Fits k w) (hact : w.isActive = true) :
    ({ w with dynamicWeight := UInt32.ofNat (k * w.dynamicWeight.toNat) } : WanConfig).isActive = true := by
  obtain ⟨husable, hpos⟩ := (WanConfig.isActive_iff w).mp hact
  refine (WanConfig.isActive_iff _).mpr ⟨husable, UInt32.lt_iff_toNat_lt.mpr ?_⟩
  rw [h.toNat]
  exact Nat.mul_pos hk (UInt32.lt_iff_toNat_lt.mp hpos)

section
variable (hk : 0 < k)
  (hfit : ∀ v ∈ idx, ∀ w, c.wans[v.toNat]? = some w → w.isActive = true → Fits k w)
include hk hfit

theorem scaleWeights_activeIdx (v : UInt32) : (c.scaleWeights k idx).activeIdx v = c.activeIdx v := by
  unfold Config.activeIdx
  rw [scaleWeights_getElem?]
  cases hget : c.wans[v.toNat]? with
  | none => rfl
  | some w =>
    rw [Option.map_some, Option.any_some, Option.any_some]
    by_cases h : v ∈ idx ∧ w.isActive = true
    · rw [if_pos h, h.2]
      exact (hfit v h.1 w hget h.2).isActive hk h.2
    · rw [if_neg h]

theorem scaleWeights_getElem?_active (hv : v ∈ idx) (hget : c.wans[v.toNat]? = some w) (hw : w.isActive = true) :
    ∃ w', (c.scaleWeights k idx).wans[v.toNat]? = some w' ∧ w'.isActive = true ∧ w'.name = w.name ∧
      w'.dynamicWeight.toNat = k * w.dynamicWeight.toNat := by
  have hfits := hfit v hv w hget hw
  refine ⟨_, ?_, hfits.isActive hk hw, rfl, hfits.toNat⟩
  rw [scaleWeights_getElem?, hget, Option.map_some, if_pos ⟨hv, hw⟩]

theorem scaleWeights_contender (hv : v ∈ idx) (hact : c.activeIdx v = true) :
    (c.scaleWeights k idx).contender v = (c.contender v).scale k := by
  obtain ⟨w, hget, hw⟩ := (c.activeIdx_iff v).mp hact
  obtain ⟨w', hget', hw', hname, hweight⟩ := scaleWeights_getElem?_active hk hfit hv hget hw
  rw [contender_eq hget' hw', contender_eq hget hw, hname, hweight]
  rfl

theorem scaleWeights_heaviest (h : HeaviestWeight c idx maxWeight) :
    HeaviestWeight (c.scaleWeights k idx) idx (k * maxWeight) := by
  constructor
  · obtain ⟨v, hv, w, hget, hw, rfl⟩ := h.attained
    obtain ⟨w', hget', hw', -, hweight⟩ := scaleWeights_getElem?_active hk hfit hv hget hw
    exact ⟨v, hv, w', hget', hw', hweight⟩
  · intro v hv u hgetu hu
    have hva : c.activeIdx v = true := by
      rw [← scaleWeights_activeIdx hk hfit v]
      exact (Config.activeIdx_iff _ v).mpr ⟨u, hgetu, hu⟩
    obtain ⟨w, hget, hw⟩ := (c.activeIdx_iff v).mp hva
    obtain ⟨w', hget', -, -, hweight⟩ := scaleWeights_getElem?_active hk hfit hv hget hw
    rw [hget'] at hgetu
    rw [← Option.some.inj hgetu, hweight]
    exact Nat.mul_le_mul_left k (h.largest v hv w hget hw)

/-- A common factor cancels out. -/
theorem ring_scaleWeights (stack stack' : Nat → StackCell) (hlt : ∀ v ∈ idx, v.toNat < c.wans.length)
    (hact : ∃ v ∈ idx, c.activeIdx v = true) :
    buildSingleMaglevRing (c.scaleWeights k idx) stack' idx = buildSingleMaglevRing c stack idx := by
  obtain ⟨maxWeight, hheavy⟩ := exists_heaviest hact
  have hlen : (c.scaleWeights k idx).wans.length = c.wans.length := List.length_mapIdx
  obtain ⟨first, hfirst, hring⟩ := buildSingleMaglevRing_eq_contenders stack hlt hheavy
  obtain ⟨first', hfirst', hring'⟩ := buildSingleMaglevRing_eq_contenders stack' (hlen ▸ hlt)
    (scaleWeights_heaviest hk hfit hheavy)
  rw [funext (scaleWeights_activeIdx hk hfit)] at hfirst' hring'
  have heq : first' = first := Option.some.inj (hfirst'.symm.trans hfirst)
  have hmap : (idx.filter c.activeIdx).map (c.scaleWeights k idx).contender =
      ((idx.filter c.activeIdx).map c.contender).map (Member.scale k) := by
    rw [List.map_map]
    refine List.map_congr_left fun v hv => ?_
    obtain ⟨hvidx, hva⟩ := List.mem_filter.mp hv
    exact scaleWeights_contender hk hfit hvidx hva
  rw [hring, hring', hmap, heq]
  refine fillLoop_scale hk ?_ first ?_ _ _
  · obtain ⟨v, hv, w, hget, hw, rfl⟩ := hheavy.attained
    have hlt31 : k * w.dynamicWeight.toNat < 2 ^ 31 := hfit v hv w hget hw
    omega
  · intro m hm
    refine ⟨hheavy.contenders.2 m hm, ?_⟩
    obtain ⟨-, -, -, -, -, rfl⟩ := of_mem_contenders hm
    exact hheavy.pos

end

/-- **Neither a common factor of all eligible weights nor ineligible members change a ring.** -/
theorem ring_scaled {idx' : List UInt32} (stack stack' : Nat → StackCell) (hk : 1 ≤ k)
    (hlt : ∀ v ∈ idx, v.toNat < c.wans.length) (hlt' : ∀ v ∈ idx', v.toNat < c.wans.length)
    (hact : ∃ v ∈ idx, c.activeIdx v = true)
    (hfit : ∀ v ∈ idx, ∀ w, c.wans[v.toNat]? = some w → w.isActive = true → Fits k w)
    (hsame : idx'.filter c.activeIdx = idx.filter c.activeIdx) :
    buildSingleMaglevRing (c.scaleWeights k idx) stack' idx = buildSingleMaglevRing c stack idx ∧
      buildSingleMaglevRing c stack' idx' = buildSingleMaglevRing c stack idx ∧
      buildSingleMaglevRing (c.scaleWeights k idx) stack' idx' = buildSingleMaglevRing c stack idx := by
  have hscale := ring_scaleWeights hk hfit stack stack' hlt hact
  refine ⟨hscale, ring_of_same_eligible hlt hlt' hact hsame, ?_⟩
  have hlen : (c.scaleWeights k idx).wans.length = c.wans.length := List.length_mapIdx
  have hactive : (c.scaleWeights k idx).activeIdx = c.activeIdx := funext (scaleWeights_activeIdx hk hfit)
  rw [← hscale]
  refine ring_of_same_eligible (hlen ▸ hlt) (hlen ▸ hlt') ?_ ?_
  · rw [hactive]
    exact hact
  · rw [hactive]
    exact hsame

end

/-- Two eligible members and one that is DOWN. -/
def twoOfThree : Config :=
  { wans :=
      [{ name := "eth0".toList, enabled := true, state := .healthy, dynamicWeight := 3 },
       { name := "eth1".toList, enabled := true, state := .down, dynamicWeight := 5 },
       { name := "eth2".toList, enabled := true, state := .healthy, dynamicWeight := 1 }] }

theorem twoOfThree_le (hget : twoOfThree.wans[v.toNat]? = some w)
    (hact : w.isActive = true) : w.dynamicWeight.toNat ≤ 3 :=
  (by decide : ∀ w ∈ twoOfThree.wans, w.isActive = true → w.dynamicWeight.toNat ≤ 3) w
    (List.mem_of_getElem? hget) hact

theorem twoOfThree_lt : ∀ v ∈ ([0, 1, 2] : List UInt32), v.toNat < twoOfThree.wans.length := by simp [twoOfThree]

/-- Seven times the weights, and the WAN that is DOWN listed, too. -/
theorem ring_scaled_twoOfThree :
    [0, 1, 2].filter twoOfThree.activeIdx = [0, 2] ∧
      ∀ stack : Nat → StackCell, buildSingleMaglevRing (twoOfThree.scaleWeights 7 [0, 2]) stack [0, 1, 2] =
        buildSingleMaglevRing twoOfThree stack [0, 2] := by
  have hlt : ∀ v ∈ ([0, 2] : List UInt32), v.toNat < twoOfThree.wans.length := by simp [twoOfThree]
  refine ⟨by decide, fun stack => (ring_scaled stack stack (by decide) hlt twoOfThree_lt
    ⟨0, by decide, by decide⟩ ?_ (by decide)).2.2⟩
  intro v _ w hget hact
  have hle := twoOfThree_le hget hact
  show 7 * w.dynamicWeight.toNat < 2 ^ 31
  omega

/-! ## Exact proportions -/

section
variable {c : Config} {idx : List UInt32} {maxWeight : Nat}

/-- The contenders at the start line. -/
theorem race_contenders (hnodup : idx.Nodup) (hlt : ∀ v ∈ idx, v.toNat < c.wans.length)
    (hheavy : HeaviestWeight c idx maxWeight) (hmax : maxWeight < 2 ^ 31)
    (hprobe : ∀ v ∈ idx, ∀ w, c.wans[v.toNat]? = some w → w.isActive = true →
      maglevOffset w.name + 65536 * maglevSkip w.name < 2 ^ 32) :
    Race emptySlot (2 ^ 32) maxWeight 0 ((idx.filter c.activeIdx).map c.contender)
      ⟨Vector.replicate maglevRingSize emptySlot, 0, false⟩ := by
  have hfree : ∀ x : UInt32, x ≠ emptySlot → (Vector.replicate maglevRingSize emptySlot).count x = 0 := by
    intro x hx
    rw [Vector.count_replicate, if_neg (by simpa using fun h => hx h.symm)]
  have howner : ∀ v, (c.contender v).owner = v := by
    intro v
    unfold Config.contender maglevMember
    split <;> rfl
  refine
    { room := by omega
      pos := hheavy.pos
      owners := ?_
      distinct := ?_
      weights := ?_
      racing := ?_
      counts := by rw [filled_replicate, Finset.card_empty]
      paid := ?_ }
  · intro m hm
    obtain ⟨v, hv, w, -, -, rfl⟩ := of_mem_contenders hm
    exact c.ne_emptySlot (hlt v hv)
  · rw [List.map_map, show Member.owner ∘ c.contender = id from funext howner, List.map_id]
    exact hnodup.filter _
  · intro m hm
    obtain ⟨v, hv, w, hget, hact, rfl⟩ := of_mem_contenders hm
    have hpos : 0 < w.dynamicWeight.toNat := ((WanConfig.isActive_iff w).mp hact).2
    exact ⟨hpos.ne', hheavy.largest v hv w hget hact⟩
  · intro m hm
    obtain ⟨v, hv, w, hget, hact, rfl⟩ := of_mem_contenders hm
    refine ⟨maglevProbe_injOn_of_lt (maglevSkip_pos _) (maglevSkip_lt _) (Nat.le_refl _) ?_,
      fun j hj => absurd hj (Nat.not_lt_zero j)⟩
    intro j hj
    have hfit := hprobe v hv w hget hact
    have hle : j * maglevSkip w.name ≤ 65536 * maglevSkip w.name := Nat.mul_le_mul_right _ (Nat.le_of_lt_succ hj)
    omega
  · intro m hm
    obtain ⟨v, hv, w, -, -, rfl⟩ := of_mem_contenders hm
    refine ⟨by rw [Nat.zero_mul, Nat.zero_mod], ?_⟩
    rw [Nat.zero_mul, Nat.zero_div]
    exact hfree v (c.ne_emptySlot (hlt v hv))

/-- **The ring is shared out in exact proportion to the weights.** -/
theorem ring_proportional (stack : Nat → StackCell) (hnodup : idx.Nodup) (hlt : ∀ v ∈ idx, v.toNat < c.wans.length)
    (hheavy : HeaviestWeight c idx maxWeight) (hmax : maxWeight < 2 ^ 31)
    (hprobe : ∀ v ∈ idx, ∀ w, c.wans[v.toNat]? = some w → w.isActive = true →
      maglevOffset w.name + 65536 * maglevSkip w.name < 2 ^ 32) :
    ∃ K, 1 ≤ K ∧
      (∀ v ∈ idx, ∀ w, c.wans[v.toNat]? = some w → w.isActive = true →
        (buildSingleMaglevRing c stack idx).count v = (K - 1) * w.dynamicWeight.toNat / maxWeight ∨
          (buildSingleMaglevRing c stack idx).count v = K * w.dynamicWeight.toNat / maxWeight) ∧
      ∀ v, ¬ (v ∈ idx ∧ c.activeIdx v = true) → (buildSingleMaglevRing c stack idx).count v = 0 := by
  obtain ⟨first, -, hring⟩ := buildSingleMaglevRing_eq_contenders stack hlt hheavy
  obtain ⟨r, hshares⟩ := fillLoop_shares 0 (race_contenders hnodup hlt hheavy hmax hprobe)
    hheavy.contenders.1 (show 0 < maglevRingSize by decide)
  rw [← hring] at hshares
  refine ⟨r + 1, Nat.succ_pos r, ?_, ?_⟩
  · intro v hv w hget hact
    have hshare := hshares _ (List.mem_map_of_mem (mem_eligible hv hget hact))
    rw [contender_eq hget hact] at hshare
    exact hshare
  · intro v hv
    rw [Vector.count_eq_zero]
    intro hin
    obtain ⟨i, hi, rfl⟩ := Vector.mem_iff_getElem.mp hin
    obtain ⟨u, hu, w, hget, hact, -⟩ := hheavy.attained
    exact hv (buildSingleMaglevRing_sound hlt ⟨u, hu, (c.activeIdx_iff u).mpr ⟨w, hget, hact⟩⟩ ⟨i, hi⟩)

end

theorem twoOfThree_probes : ∀ w ∈ twoOfThree.wans, maglevOffset w.name + 65536 * maglevSkip w.name < 2 ^ 32 := by
  decide

theorem ring_proportional_twoOfThree :
    ∃ K, 1 ≤ K ∧
      ((buildSingleMaglevRing twoOfThree (fun _ => ⟨0, 0, 0, 0⟩) [0, 1, 2]).count 2 = (K - 1) * 1 / 3 ∨
        (buildSingleMaglevRing twoOfThree (fun _ => ⟨0, 0, 0, 0⟩) [0, 1, 2]).count 2 = K * 1 / 3) ∧
      (buildSingleMaglevRing twoOfThree (fun _ => ⟨0, 0, 0, 0⟩) [0, 1, 2]).count 1 = 0 := by
  obtain ⟨K, hK, heligible, hothers⟩ := ring_proportional (fun _ => ⟨0, 0, 0, 0⟩) (by decide) twoOfThree_lt
    (⟨⟨0, by decide, _, rfl, by decide, by decide⟩, fun v _ w => twoOfThree_le⟩ : HeaviestWeight twoOfThree [0, 1, 2] 3)
    (by decide) fun v _ w hget _ => twoOfThree_probes w (List.mem_of_getElem? hget)
  exact ⟨K, hK, heligible 2 (by decide) _ rfl (by decide), hothers 1 (by decide)⟩

end FluxWAN
