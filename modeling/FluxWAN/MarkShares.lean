/-
  Who gets which part of the packets (`src/net_apply.c`: the mark rules of PREROUTING and of a list's subchain).

  The rule of the i-th eligible WAN takes `w_i / (w_i + … + w_k)` of the packets that reach it, so the part it
  gets in the end is `w_i / T`: the denominators telescope.  Probabilities are printed with four decimals.  Every
  reading within 1/20000 of the exact quotient moves each WAN's part by at most `k / 20000` (`marks_dealt_out`),
  because the errors of the rules before it add up and those after it do not matter.

  The induction is along the distribution loop (`dealtOut_weightedRules`): in front of a chain that deals out the
  rest of the weight, one more rule adds its own error once.
-/
import FluxWAN.NetApply
import Mathlib.Algebra.BigOperators.Ring.List
import Mathlib.Algebra.Order.Ring.Abs
import Mathlib.Tactic.Linarith
import Mathlib.Tactic.FieldSimp
import Mathlib.Tactic.Ring

namespace FluxWAN

open CString Netfilter

variable {q : ℚ} {cands : List Candidate} {bs : List Branch} {i : Nat} {c : Config}

/-! ## What is promised -/

/-- What the kernel may read of the printed probabilities. -/
def Reads (read : Rule CStr → ℚ) (rs : List (Rule CStr)) : Prop :=
  ∀ r ∈ rs, ∀ w rem : UInt32, r.probability = some (w, rem) →
    0 ≤ read r ∧ read r ≤ 1 ∧ |read r - w.toNat / rem.toNat| ≤ 1 / 20000

/-- The total weight of some WANs, given by index and weight. -/
def sumWeights (shares : List (Nat × UInt32)) : Nat := (shares.map fun s => s.2.toNat).sum

/-- Every packet gets exactly one mark, of one of the WANs, and each WAN gets its share up to the readings. -/
structure DealtOut (shares : List (Nat × UInt32)) (bs : List Branch) : Prop where
  one_mark : ∀ b ∈ bs, ∃ s ∈ shares, b.marks = [fwmark s.1] ∧ b.mark = fwmark s.1
  total : (bs.map Branch.prob).sum = 1
  share : ∀ s ∈ shares, |probOf bs (fwmark s.1) - s.2.toNat / sumWeights shares| ≤ shares.length / 20000

/-! ## One rule -/

section
variable (read : Rule CStr → ℚ) (enter : CStr → UInt32 → List Branch) {p : Packet CStr} {inIface : Option CStr}
  {tail : List (Rule CStr)}

/-- The packet comes in where the rules look. -/
def ComesFrom (inIface : Option CStr) (p : Packet CStr) : Prop := ∀ i, inIface = some i → i = p.inIface

theorem markRule_matches (hfrom : ComesFrom inIface p) (q : Option (UInt32 × UInt32)) (wan : Nat) :
    (markRule inIface q wan).matchesPacket p 0 = true := by
  cases inIface with
  | none => rfl
  | some i => simp [markRule, Rule.matchesPacket, hfrom i rfl]

/-- The last rule takes what is left. -/
theorem run_markRule_last (hfrom : ComesFrom inIface p)
    (htail : ∀ mark, run read enter p mark tail = [⟨1, [], mark⟩]) (wan : Nat) :
    run read enter p 0 (markRule inIface none wan :: tail) = [⟨1, [fwmark wan], fwmark wan⟩] := by
  rw [run, if_pos (markRule_matches hfrom none wan)]
  show (run read enter p (fwmark wan) tail).map _ = _
  rw [htail]
  simp [Branch.andThen]

/-- Another rule takes its part and leaves the rest to the rules behind it. -/
theorem run_markRule (hfrom : ComesFrom inIface p)
    (htail : ∀ mark, run read enter p mark tail = [⟨1, [], mark⟩]) (hne : fwmark wan ≠ 0)
    (q : UInt32 × UInt32) (hrs : ∀ r ∈ rs, r.marked = some false) :
    run read enter p 0 (markRule inIface (some q) wan :: (rs ++ tail)) =
      ⟨read (markRule inIface (some q) wan), [fwmark wan], fwmark wan⟩ ::
        (run read enter p 0 (rs ++ tail)).map (Branch.scale (1 - read (markRule inIface (some q) wan))) := by
  rw [run, if_pos (markRule_matches hfrom (some q) wan)]
  show ((run read enter p (fwmark wan) (rs ++ tail)).map _).map _ ++ _ = _
  rw [run_marked read enter p hne tail rs hrs, htail]
  simp [Branch.andThen, Branch.scale]

end

/-! ## The arithmetic of one more rule -/

/-- Errors add up: the new rule's own, and the one of the rules behind it. -/
theorem share_error (hq : |q - q₀| ≤ ε) (hq₀ : 0 ≤ q₀) (hq₁ : q₀ ≤ 1) (hP₀ : 0 ≤ P) (hP₁ : P ≤ 1)
    (hs : |P - s| ≤ δ) : |(1 - q) * P - (1 - q₀) * s| ≤ ε + δ := by
  have hsplit : (1 - q) * P - (1 - q₀) * s = (q₀ - q) * P + (1 - q₀) * (P - s) := by ring
  have hε : 0 ≤ ε := (abs_nonneg _).trans hq
  have hδ : 0 ≤ δ := (abs_nonneg _).trans hs
  have hown : |(q₀ - q) * P| ≤ ε := by
    rw [abs_mul, abs_sub_comm, abs_of_nonneg hP₀]
    calc |q - q₀| * P ≤ ε * 1 := mul_le_mul hq hP₁ hP₀ hε
      _ = ε := mul_one ε
  have hrest : |(1 - q₀) * (P - s)| ≤ δ := by
    rw [abs_mul, abs_of_nonneg (by linarith : 0 ≤ 1 - q₀)]
    calc (1 - q₀) * |P - s| ≤ 1 * δ := mul_le_mul (by linarith) hs (abs_nonneg _) zero_le_one
      _ = δ := one_mul δ
  calc |(1 - q) * P - (1 - q₀) * s| = |(q₀ - q) * P + (1 - q₀) * (P - s)| := by rw [hsplit]
    _ ≤ |(q₀ - q) * P| + |(1 - q₀) * (P - s)| := abs_add_le _ _
    _ ≤ ε + δ := add_le_add hown hrest

/-- The denominators telescope. -/
theorem share_telescopes {w rest s : ℚ} (hw : 0 < w) (hrest : 0 < rest) :
    s / (w + rest) = (1 - w / (w + rest)) * (s / rest) := by
  have hne : w + rest ≠ 0 := by linarith
  field_simp
  ring

/-! ## The distribution loop -/

/-- What the loop relies on: its own test for the end is right where it fires, weights are positive, marks differ. -/
structure Deal (cands : List Candidate) : Prop where
  ends : ∀ pre x post, cands = pre ++ x :: post → post ≠ [] → x.last = false
  weights : ∀ x ∈ cands, 0 < x.weight.toNat
  nonzero : ∀ x ∈ cands, fwmark x.wan ≠ 0
  marks : (cands.map fun x => fwmark x.wan).Nodup

theorem Deal.tail (h : Deal (x :: cands)) : Deal cands where
  ends pre y post heq := h.ends (x :: pre) y post (by rw [heq]; rfl)
  weights y hy := h.weights y (List.mem_cons_of_mem x hy)
  nonzero y hy := h.nonzero y (List.mem_cons_of_mem x hy)
  marks := (List.nodup_cons.mp h.marks).2

theorem weightedRules_marked : ∀ remaining : UInt32,
    ∀ r ∈ weightedRules inIface remaining cands, r.marked = some false := by
  induction cands with
  | nil => exact fun _ r hr => absurd hr List.not_mem_nil
  | cons x cands ih =>
    intro remaining
    rw [weightedRules]
    split
    · exact List.forall_mem_cons.mpr ⟨rfl, ih remaining⟩
    · exact List.forall_mem_cons.mpr ⟨rfl, ih _⟩

theorem sumWeights_cons (s : Nat × UInt32) : sumWeights (s :: shares) = s.2.toNat + sumWeights shares := by
  simp [sumWeights]

theorem sumWeights_pos (h : Deal cands) (hne : cands ≠ []) :
    0 < sumWeights (cands.map Candidate.share) := by
  obtain ⟨x, cands, rfl⟩ := List.exists_cons_of_ne_nil hne
  have hx := h.weights x List.mem_cons_self
  rw [List.map_cons, sumWeights_cons]
  exact Nat.add_pos_left hx _

theorem probOf_cons (b : Branch) : probOf (b :: bs) v = (if b.mark = v then b.prob else 0) + probOf bs v := by
  by_cases hv : b.mark = v <;> simp [probOf, hv]

theorem sum_scale (bs : List Branch) :
    ((bs.map (Branch.scale q)).map Branch.prob).sum = q * (bs.map Branch.prob).sum := by
  rw [List.map_map, ← List.sum_map_mul_left]
  rfl

theorem probOf_eq_zero (h : ∀ b ∈ bs, b.mark ≠ v) : probOf bs v = 0 := by
  unfold probOf
  rw [List.filter_eq_nil_iff.mpr fun b hb => by simpa using h b hb]
  rfl

/-- In front of rules that deal out the rest, one more rule. -/
theorem dealtOut_cons {shares : List (Nat × UInt32)} (h : DealtOut shares bs)
    (hprob : ∀ v, 0 ≤ probOf bs v ∧ probOf bs v ≤ 1) (hpos : 0 < sumWeights shares) {x : Nat × UInt32}
    (hx : 0 < x.2.toNat) (hfresh : ∀ s ∈ shares, fwmark s.1 ≠ fwmark x.1)
    (hq : |q - x.2.toNat / sumWeights (x :: shares)| ≤ 1 / 20000) :
    DealtOut (x :: shares) (⟨q, [fwmark x.1], fwmark x.1⟩ :: bs.map (Branch.scale (1 - q))) := by
  have hsum : ((sumWeights (x :: shares) : Nat) : ℚ) = x.2.toNat + sumWeights shares := by
    rw [sumWeights_cons]
    push_cast
    rfl
  have hx' : (0 : ℚ) < x.2.toNat := by exact_mod_cast hx
  have hpos' : (0 : ℚ) < sumWeights shares := by exact_mod_cast hpos
  constructor
  · intro b hb
    rcases List.mem_cons.mp hb with rfl | hb
    · exact ⟨x, List.mem_cons_self, rfl, rfl⟩
    · obtain ⟨b', hb', rfl⟩ := List.mem_map.mp hb
      obtain ⟨s, hs, hmarks, hmark⟩ := h.one_mark b' hb'
      exact ⟨s, List.mem_cons_of_mem x hs, hmarks, hmark⟩
  · rw [List.map_cons, List.sum_cons, sum_scale, h.total]
    ring
  · intro s hs
    rw [probOf_cons, probOf_scale]
    rcases List.mem_cons.mp hs with rfl | hs
    · -- its own part: the rules behind it do not set its mark
      have hzero : probOf bs (fwmark s.1) = 0 := by
        refine probOf_eq_zero fun b hb => ?_
        obtain ⟨s', hs', -, hmark⟩ := h.one_mark b hb
        rw [hmark]
        exact hfresh s' hs'
      rw [if_pos rfl, hzero, mul_zero, add_zero]
      refine hq.trans ?_
      rw [List.length_cons]
      push_cast
      have hlen : (0 : ℚ) ≤ shares.length := Nat.cast_nonneg _
      linarith
    · -- a part of what it leaves
      have hq₀ : (0 : ℚ) ≤ x.2.toNat / sumWeights (x :: shares) :=
        div_nonneg (Nat.cast_nonneg _) (Nat.cast_nonneg _)
      have hq₁ : (x.2.toNat : ℚ) / sumWeights (x :: shares) ≤ 1 := by
        rw [hsum]
        exact div_le_one_of_le₀ (by linarith) (by linarith)
      have herror := share_error hq hq₀ hq₁ (hprob (fwmark s.1)).1 (hprob (fwmark s.1)).2 (h.share s hs)
      rw [if_neg (fun heq => hfresh s hs heq.symm), zero_add]
      rw [hsum] at herror ⊢
      rw [share_telescopes hx' hpos', List.length_cons]
      refine herror.trans (le_of_eq ?_)
      push_cast
      ring

theorem probOf_cons_bounds (hprob : ∀ v, 0 ≤ probOf bs v ∧ probOf bs v ≤ 1) (hq₀ : 0 ≤ q)
    (hq₁ : q ≤ 1) (mark v : UInt32) :
    0 ≤ probOf (⟨q, marks, mark⟩ :: bs.map (Branch.scale (1 - q))) v ∧
      probOf (⟨q, marks, mark⟩ :: bs.map (Branch.scale (1 - q))) v ≤ 1 := by
  obtain ⟨hP₀, hP₁⟩ := hprob v
  have hrest₀ : 0 ≤ (1 - q) * probOf bs v := mul_nonneg (by linarith) hP₀
  have hrest₁ : (1 - q) * probOf bs v ≤ 1 - q := mul_le_of_le_one_right (by linarith) hP₁
  rw [probOf_cons, probOf_scale]
  by_cases hv : mark = v
  · rw [if_pos hv]
    exact ⟨by linarith, by linarith⟩
  · rw [if_neg hv]
    exact ⟨by linarith, by linarith⟩

/-- The last rule. -/
theorem dealtOut_last (hx : 0 < x.2.toNat) : DealtOut [x] [⟨1, [fwmark x.1], fwmark x.1⟩] := by
  have hx' : ((x.2.toNat : Nat) : ℚ) ≠ 0 := by exact_mod_cast hx.ne'
  refine ⟨fun b hb => ⟨x, List.mem_cons_self, ?_⟩, by simp, fun s hs => ?_⟩
  · rw [List.mem_singleton.mp hb]
    exact ⟨rfl, rfl⟩
  · rw [List.mem_singleton.mp hs]
    simp [probOf, sumWeights, div_self hx']

section
variable {read : Rule CStr → ℚ} {enter : CStr → UInt32 → List Branch} {p : Packet CStr} {inIface : Option CStr}
  {tail : List (Rule CStr)}

/-- **The distribution loop deals packets out by weight.** -/
theorem dealtOut_weightedRules (hfrom : ComesFrom inIface p)
    (htail : ∀ mark, run read enter p mark tail = [⟨1, [], mark⟩]) (cands : List Candidate) :
    ∀ remaining : UInt32, Deal cands → cands ≠ [] → remaining.toNat = sumWeights (cands.map Candidate.share) →
      Reads read (weightedRules inIface remaining cands) →
        DealtOut (cands.map Candidate.share) (run read enter p 0 (weightedRules inIface remaining cands ++ tail)) ∧
          ∀ v, 0 ≤ probOf (run read enter p 0 (weightedRules inIface remaining cands ++ tail)) v ∧
            probOf (run read enter p 0 (weightedRules inIface remaining cands ++ tail)) v ≤ 1 := by
  induction cands with
  | nil => exact fun _ _ hne => absurd rfl hne
  | cons x cands ih =>
    intro remaining h _ hrem hreads
    have hx := h.weights x List.mem_cons_self
    rw [List.map_cons, sumWeights_cons] at hrem
    by_cases hcands : cands = []
    · -- the last candidate: all that remains is its own weight
      subst hcands
      have hlast : remaining = x.weight := UInt32.toNat_inj.mp (by simpa [sumWeights, Candidate.share] using hrem)
      have hrun : run read enter p 0 (weightedRules inIface remaining [x] ++ tail) =
          [⟨1, [fwmark x.wan], fwmark x.wan⟩] := by
        rw [weightedRules, if_pos (.inr hlast)]
        exact run_markRule_last read enter hfrom htail x.wan
      rw [hrun]
      exact ⟨dealtOut_last hx, fun v => by by_cases hv : fwmark x.wan = v <;> simp [probOf, hv]⟩
    · have hrest := sumWeights_pos h.tail hcands
      have hmore : ¬ (x.last = true ∨ remaining = x.weight) := by
        rintro (hlast | heq)
        · exact absurd (h.ends [] x cands rfl hcands) (by rw [hlast]; decide)
        · rw [heq] at hrem
          simp only [Candidate.share] at hrem hrest
          omega
      have hle : x.weight ≤ remaining := UInt32.le_iff_toNat_le.mpr (by rw [hrem]; exact Nat.le_add_right _ _)
      have hrem' : (remaining - x.weight).toNat = sumWeights (cands.map Candidate.share) := by
        rw [UInt32.toNat_sub_of_le _ _ hle, hrem]
        exact Nat.add_sub_cancel_left _ _
      rw [weightedRules, if_neg hmore] at hreads ⊢
      obtain ⟨hread, hreads'⟩ := List.forall_mem_cons.mp hreads
      obtain ⟨hq₀, hq₁, hq⟩ := hread x.weight remaining rfl
      obtain ⟨hdealt, hprob⟩ := ih (remaining - x.weight) h.tail hcands hrem' hreads'
      rw [List.cons_append, run_markRule read enter hfrom htail (h.nonzero x List.mem_cons_self) _
        (weightedRules_marked _)]
      refine ⟨dealtOut_cons (x := x.share) hdealt hprob hrest hx ?_ ?_, probOf_cons_bounds hprob hq₀ hq₁ _⟩
      · intro s hs hsame
        obtain ⟨y, hy, rfl⟩ := List.mem_map.mp hs
        exact (List.nodup_cons.mp h.marks).1 (List.mem_map.mpr ⟨y, hy, hsame⟩)
      · rw [sumWeights_cons, ← hrem]
        exact hq

end

/-! ## The two chains -/

theorem fwmark_toNat (h : i < maxWans) : (fwmark i).toNat = 0x101 + i := by
  have h' : i < 256 := h
  unfold fwmark
  rw [UInt32.toNat_ofNat_of_lt' (show 0x100 + i + 1 < 4294967296 by omega)]
  omega

theorem fwmark_ne_zero (h : i < maxWans) : fwmark i ≠ 0 := by
  intro hzero
  have hval := fwmark_toNat h
  rw [hzero] at hval
  have hzero' : (0 : UInt32).toNat = 0 := rfl
  omega

theorem fwmark_inj (hi : i < maxWans) (hj : j < maxWans) (h : fwmark i = fwmark j) : i = j := by
  have hi' := fwmark_toNat hi
  rw [h, fwmark_toNat hj] at hi'
  omega

theorem totalWeight_toNat (h : sumWeights (cands.map Candidate.share) < 2 ^ 32) :
    (totalWeight cands).toNat = sumWeights (cands.map Candidate.share) := by
  have hfold : ∀ (cands : List Candidate) (total : UInt32),
      total.toNat + sumWeights (cands.map Candidate.share) < 2 ^ 32 →
        (cands.foldl (fun total cand => total + cand.weight) total).toNat =
          total.toNat + sumWeights (cands.map Candidate.share) := by
    intro cands
    induction cands with
    | nil => exact fun total _ => by simp [sumWeights]
    | cons x cands ih =>
      intro total hlt
      rw [List.map_cons, sumWeights_cons] at hlt ⊢
      have hadd : (total + x.weight).toNat = total.toNat + x.share.2.toNat := by
        rw [UInt32.toNat_add]
        exact Nat.mod_eq_of_lt (by simp only [Candidate.share] at hlt ⊢; omega)
      rw [List.foldl_cons, ih _ (by omega), hadd, Nat.add_assoc]
  have := hfold cands 0 (by simpa using h)
  simpa [totalWeight] using this

/-- Distinct WANs of the table with positive weights can be dealt to. -/
theorem deal_of_nodup (hends : ∀ pre x post, cands = pre ++ x :: post → post ≠ [] → x.last = false)
    (hweights : ∀ x ∈ cands, 0 < x.weight.toNat) (hlt : ∀ x ∈ cands, x.wan < maxWans)
    (hnodup : (cands.map Candidate.wan).Nodup) : Deal cands where
  ends := hends
  weights := hweights
  nonzero x hx := fwmark_ne_zero (hlt x hx)
  marks := by
    have hmap : cands.map (fun x => fwmark x.wan) = (cands.map Candidate.wan).map fwmark := by
      rw [List.map_map]
      rfl
    rw [hmap]
    refine hnodup.map_on fun i hi j hj => ?_
    obtain ⟨x, hx, rfl⟩ := List.mem_map.mp hi
    obtain ⟨y, hy, rfl⟩ := List.mem_map.mp hj
    exact fwmark_inj (hlt x hx) (hlt y hy)

/-- The WANs of the main loop, by index and weight. -/
def Config.markShares (c : Config) : List (Nat × UInt32) :=
  (c.wans.zipIdx.filter fun p => p.1.isMarkable).map fun p => (p.2, p.1.dynamicWeight)

theorem isMarkable_weight {w : WanConfig} (h : w.isMarkable = true) : 0 < w.dynamicWeight.toNat := by
  simp only [WanConfig.isMarkable, Bool.and_eq_true, decide_eq_true_eq] at h
  exact UInt32.lt_iff_toNat_lt.mp h.2

theorem markCandidates_share (c : Config) : c.markCandidates.map Candidate.share = c.markShares := by
  rw [Config.markCandidates, Config.markShares, List.map_map]
  rfl

theorem mem_markCandidates {x : Candidate} (hx : x ∈ c.markCandidates) :
    ∃ w, c.wans[x.wan]? = some w ∧ w.isMarkable = true ∧ x.weight = w.dynamicWeight ∧
      x.last = decide (x.wan = c.wans.length - 1) := by
  obtain ⟨⟨w, i⟩, hp, rfl⟩ := List.mem_map.mp hx
  obtain ⟨hmem, hmark⟩ := List.mem_filter.mp hp
  exact ⟨w, List.mem_zipIdx_iff_getElem?.mp hmem, hmark, rfl, rfl⟩

/-- The candidates come in the order of the table. -/
theorem markCandidates_sorted (c : Config) : (c.markCandidates.map Candidate.wan).Pairwise (· < ·) := by
  have hmap : c.markCandidates.map Candidate.wan = (c.wans.zipIdx.filter fun p => p.1.isMarkable).map Prod.snd := by
    rw [Config.markCandidates, List.map_map]
    rfl
  have hsorted : (c.wans.zipIdx.map Prod.snd).Pairwise (· < ·) := by
    rw [List.zipIdx_map_snd]
    exact List.pairwise_lt_range'
  rw [hmap]
  exact hsorted.sublist (List.filter_sublist.map Prod.snd)

theorem deal_markCandidates (c : Config) : Deal c.markCandidates := by
  have hlt : ∀ x ∈ c.markCandidates, x.wan < c.wans.length := by
    intro x hx
    obtain ⟨w, hget, -⟩ := mem_markCandidates hx
    exact (List.getElem?_eq_some_iff.mp hget).1
  refine deal_of_nodup ?_ ?_ (fun x hx => (hlt x hx).trans_le c.wans_le) ((markCandidates_sorted c).imp Nat.ne_of_lt)
  · intro pre x post heq hpost
    obtain ⟨y, post, rfl⟩ := List.exists_cons_of_ne_nil hpost
    have hsorted := markCandidates_sorted c
    rw [heq, List.map_append, List.pairwise_append] at hsorted
    have hxy : x.wan < y.wan := (List.pairwise_cons.mp hsorted.2.1).1 _ List.mem_cons_self
    have hy : y.wan < c.wans.length := hlt y (by rw [heq]; simp)
    obtain ⟨w, -, -, -, hlast⟩ := mem_markCandidates (show x ∈ c.markCandidates by rw [heq]; simp)
    rw [hlast]
    exact decide_eq_false (by omega)
  · intro x hx
    obtain ⟨w, -, hmark, hweight, -⟩ := mem_markCandidates hx
    rw [hweight]
    exact isMarkable_weight hmark

theorem activeMembers_nodup {grp : WanGroup} (h : grp.memberIndices.Nodup) :
    ((c.activeMembers grp).map Prod.fst).Nodup := by
  rw [Config.activeMembers, List.map_filterMap]
  refine h.filterMap fun v v' i hv hv' => ?_
  have key : ∀ u : UInt32, i ∈ Option.map Prod.fst ((c.wans[u.toNat]?).bind fun w =>
      if w.isMarkable then some (u.toNat, w.dynamicWeight) else none) → i = u.toNat := by
    intro u hu
    obtain ⟨m, hm, rfl⟩ := Option.map_eq_some_iff.mp hu
    obtain ⟨w, -, hw⟩ := Option.bind_eq_some_iff.mp hm
    split at hw
    · rw [← Option.some.inj hw]
    · cases hw
  exact UInt32.toNat_inj.mp ((key v hv).symm.trans (key v' hv'))

theorem deal_memberCandidates {grp : WanGroup} (h : grp.memberIndices.Nodup) :
    Deal (memberCandidates (c.activeMembers grp)) := by
  have hshare : ∀ x ∈ memberCandidates (c.activeMembers grp), x.share ∈ c.activeMembers grp := by
    intro x hx
    rw [← memberCandidates_share (c.activeMembers grp)]
    exact List.mem_map_of_mem hx
  have hmem : ∀ x ∈ memberCandidates (c.activeMembers grp), x.wan < maxWans ∧ 0 < x.weight.toNat := by
    intro x hx
    obtain ⟨v, -, w, hget, hmark, heq⟩ := mem_activeMembers (hshare x hx)
    obtain ⟨hwan, hweight⟩ := Prod.mk.inj heq
    rw [hwan, hweight]
    exact ⟨(List.getElem?_eq_some_iff.mp hget).1.trans_le c.wans_le, isMarkable_weight hmark⟩
  refine deal_of_nodup ?_ (fun x hx => (hmem x hx).2) (fun x hx => (hmem x hx).1) ?_
  · intro pre x post heq hpost
    have hlen := congrArg List.length heq
    rw [memberCandidates, List.length_mapIdx, List.length_append, List.length_cons] at hlen
    have hget : (memberCandidates (c.activeMembers grp))[pre.length]? = some x := by
      rw [heq]
      simp
    rw [memberCandidates, List.getElem?_mapIdx] at hget
    obtain ⟨m, -, rfl⟩ := Option.map_eq_some_iff.mp hget
    have hpos := List.length_pos_iff.mpr hpost
    exact decide_eq_false (by omega)
  · have hmap : (memberCandidates (c.activeMembers grp)).map Candidate.wan = (c.activeMembers grp).map Prod.fst := by
      conv_rhs => rw [← memberCandidates_share (c.activeMembers grp), List.map_map]
      rfl
    rw [hmap]
    exact activeMembers_nodup h

/-- **Packets are dealt out by weight**, in PREROUTING and in the subchain of a list that targets a group. -/
theorem marks_dealt_out (c : Config) (enter : CStr → UInt32 → List Branch) (p : Packet CStr) :
    (0 < sumWeights c.markShares → sumWeights c.markShares < 2 ^ 32 → p.inIface = c.lan.name →
      ∀ read, Reads read (markRules c) → DealtOut c.markShares (run read enter p 0 (markRules c))) ∧
    ∀ (al : AddressList) (members : List (Nat × UInt32)), steering c al = .balanced members →
      (∀ grp, c.groups.find? al.targetsGroup = some grp → grp.memberIndices.Nodup) → sumWeights members < 2 ^ 32 →
        ∀ read, Reads read (subchainRules members) → DealtOut members (run read enter p 0 (subchainRules members)) := by
  constructor
  · intro hpos hlt hfrom read hreads
    rw [← markCandidates_share] at hpos hlt ⊢
    have htotal := totalWeight_toNat hlt
    have hrules : markRules c = weightedRules (some c.lan.name) (totalWeight c.markCandidates) c.markCandidates :=
      if_pos (UInt32.lt_iff_toNat_lt.mpr (by rw [htotal]; exact hpos))
    have hne : c.markCandidates ≠ [] := by
      intro hempty
      rw [hempty] at hpos
      exact absurd hpos (by decide)
    rw [hrules] at hreads
    rw [hrules, ← List.append_nil (weightedRules _ _ _)]
    refine (dealtOut_weightedRules ?_ (fun _ => rfl) _ _ (deal_markCandidates c) hne htotal hreads).1
    intro i hi
    rw [← Option.some.inj hi, hfrom]
  · intro al members hsteer hnodup hlt read hreads
    obtain ⟨-, grp, hfind, rfl, hne⟩ := steering_balanced hsteer
    have hshare := memberCandidates_share (c.activeMembers grp)
    have htotal : (totalWeight (memberCandidates (c.activeMembers grp))).toNat = _ :=
      totalWeight_toNat (by rw [hshare]; exact hlt)
    have hne' : memberCandidates (c.activeMembers grp) ≠ [] := by
      intro hempty
      rw [hempty] at hshare
      exact hne hshare.symm
    have hfrom : ComesFrom none p := fun i hi => absurd hi (by simp)
    -- saving the mark leaves it as it is
    have hsave : ∀ mark, run read enter p mark [{ target := .saveMark }] = [⟨1, [], mark⟩] := fun _ => rfl
    have hreads' : Reads read (weightedRules none _ (memberCandidates (c.activeMembers grp))) :=
      fun r hr => hreads r (List.mem_append_left _ hr)
    have hdealt := (dealtOut_weightedRules hfrom hsave _ _ (deal_memberCandidates (hnodup grp hfind)) hne' htotal
      hreads').1
    rw [hshare] at hdealt
    exact hdealt

/-- The exact quotient as a reading. -/
def exactRead (r : Rule CStr) : ℚ := r.probability.elim 1 fun q => q.1.toNat / q.2.toNat

theorem reads_exactRead (h : ∀ r ∈ rs, r.probability.all fun q => q.1 ≤ q.2) : Reads exactRead rs := by
  intro r hr w rem hprob
  have hle : w ≤ rem := by simpa [hprob] using h r hr
  have hread : exactRead r = w.toNat / rem.toNat := by rw [exactRead, hprob]; rfl
  rw [hread, sub_self, abs_zero]
  refine ⟨div_nonneg (Nat.cast_nonneg _) (Nat.cast_nonneg _), div_le_one_of_le₀ ?_ (Nat.cast_nonneg _), by norm_num⟩
  exact_mod_cast UInt32.le_iff_toNat_le.mp hle

theorem one_lt_maxGroupMembers : 1 < maxGroupMembers := by decide
theorem two_le_maxGroupMembers : 2 ≤ maxGroupMembers := by decide

/-- Two lines, three to one, alone and as a group. -/
def threeToOne : Config :=
  { lan := { name := "br-lan".toList }
    wans :=
      [{ enabled := true, state := .healthy, dynamicWeight := 300 },
       { enabled := true, state := .draining, dynamicWeight := 100 }]
    groups :=
      [{ id := 7, wanMemberIndices := (Vector.replicate _ 0).set 1 1 one_lt_maxGroupMembers, wanCount := 2
         wanCount_le := two_le_maxGroupMembers }] }

theorem marks_dealt_out_threeToOne :
    (threeToOne.markShares = [(0, 300), (1, 100)] ∧ steering threeToOne { targetId := 7 } = .balanced [(0, 300), (1, 100)]) ∧
      DealtOut threeToOne.markShares
        (run exactRead (fun _ _ => []) ⟨"br-lan".toList, fun _ => false⟩ 0 (markRules threeToOne)) ∧
      DealtOut [(0, 300), (1, 100)]
        (run exactRead (fun _ _ => []) ⟨"br-lan".toList, fun _ => false⟩ 0 (subchainRules [(0, 300), (1, 100)])) := by
  obtain ⟨hmain, hlist⟩ := marks_dealt_out threeToOne (fun _ _ => []) ⟨"br-lan".toList, fun _ => false⟩
  refine ⟨⟨rfl, rfl⟩, ?_, ?_⟩
  · exact hmain (by decide) (by decide) rfl exactRead (reads_exactRead (by decide))
  · refine hlist { targetId := 7 } _ rfl ?_ (by decide) exactRead (reads_exactRead (by decide))
    intro grp hfind
    rw [← Option.some.inj hfind]
    decide

end FluxWAN
