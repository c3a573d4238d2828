/-
  The order of versions (`compare_semver`).

  A text with at least two numbers, the first at most 1000, is a release; every other text counts as older than
  whatever it is compared with.  So two texts that are no releases are each newer than the other.

  1. **Rank** — releases by their three numbers, everything else below them.
  2. **Meaning** — the sign of `compareSemver` is the order of the ranks, unless neither text is a release
     (`Comparable.pos_iff`, `Comparable.neg_iff`).
  3. **Range** — the result is a difference of two numbers, which an `int` has to hold (`Near`).

  `semver_consistent_iff` puts them together for any three texts.
-/
import Mathlib
import FluxWAN.Web.Handlers
import FluxWAN.Lib.Numerals

namespace FluxWAN.Web

open CString

variable {a b : CStr} {p q : List Int}

/-- The text behind `v` and `V`. -/
def stripped (v : CStr) : CStr := v.dropWhile fun c => c = 'v' || c = 'V'

/-- The numbers that are read from a version. -/
def numbers (v : CStr) : List Int := scanVersion (stripped v)

/-- At least two numbers, and no time stamp. -/
def isRelease (p : List Int) : Bool := p.getD 0 0 ≤ 1000 && 2 ≤ p.length

/-- The difference where two versions differ first; numbers that are missing are zero. -/
def firstGap (p q : List Int) : Int :=
  if p.getD 0 0 ≠ q.getD 0 0 then p.getD 0 0 - q.getD 0 0
  else if p.getD 1 0 ≠ q.getD 1 0 then p.getD 1 0 - q.getD 1 0
  else p.getD 2 0 - q.getD 2 0

theorem compareSemver_eq (a b : CStr) : compareSemver a b = if stripped a = stripped b then 0
    else if isRelease (numbers b) then
      if isRelease (numbers a) then firstGap (numbers a) (numbers b) else -1
    else 1 := by
  have hnot : ∀ p : List Int, (p.getD 0 0 > 1000 ∨ p.length < 2) ↔ ¬ isRelease p = true := by
    intro p
    rw [isRelease, Bool.and_eq_true, decide_eq_true_eq, decide_eq_true_eq]
    omega
  show (if stripped a = stripped b then 0
    else if (numbers b).getD 0 0 > 1000 ∨ (numbers b).length < 2 then 1
    else if (numbers a).getD 0 0 > 1000 ∨ (numbers a).length < 2 then -1
    else firstGap (numbers a) (numbers b)) = _
  simp only [hnot, ite_not]

/-! ## Ranks -/

/-- Releases by their numbers, and everything else below them. -/
def rank (p : List Int) : WithBot (Int ×ₗ Int ×ₗ Int) :=
  if isRelease p then ((toLex (p.getD 0 0, toLex (p.getD 1 0, p.getD 2 0)) : Int ×ₗ Int ×ₗ Int) : WithBot _) else ⊥

theorem firstGap_pos_iff (p q : List Int) : 0 < firstGap p q ↔
    toLex (q.getD 0 0, toLex (q.getD 1 0, q.getD 2 0)) < toLex (p.getD 0 0, toLex (p.getD 1 0, p.getD 2 0)) := by
  simp only [firstGap, Prod.Lex.toLex_lt_toLex]
  split_ifs <;> omega

theorem firstGap_comm : firstGap p q = -firstGap q p := by
  unfold firstGap
  split_ifs <;> omega

/-- Two texts that can be compared: the same, or one of them is a release. -/
def Comparable (a b : CStr) : Prop := stripped a ≠ stripped b → isRelease (numbers a) ∨ isRelease (numbers b)

theorem Comparable.symm (h : Comparable a b) : Comparable b a := fun hne => (h (Ne.symm hne)).symm

theorem Comparable.swap (h : Comparable a b) : compareSemver b a = -compareSemver a b := by
  rw [compareSemver_eq, compareSemver_eq, firstGap_comm]
  by_cases heq : stripped a = stripped b
  · rw [if_pos heq, if_pos heq.symm]
    rfl
  · rw [if_neg heq, if_neg (Ne.symm heq)]
    rcases h heq with hr | hr
    · rw [if_pos hr, if_pos hr]
      split_ifs <;> rfl
    · rw [if_pos hr, if_pos hr]
      split_ifs <;> rfl

/-- **The sign is the order of the ranks.** -/
theorem Comparable.pos_iff (h : Comparable a b) : 0 < compareSemver a b ↔ rank (numbers b) < rank (numbers a) := by
  rw [compareSemver_eq]
  by_cases heq : stripped a = stripped b
  · rw [if_pos heq, numbers, numbers, heq]
    exact iff_of_false (by decide) (lt_irrefl _)
  · rw [if_neg heq]
    by_cases hb : isRelease (numbers b) = true
    · by_cases ha : isRelease (numbers a) = true
      · rw [if_pos hb, if_pos ha, firstGap_pos_iff, rank, rank, if_pos ha, if_pos hb, WithBot.coe_lt_coe]
      · rw [if_pos hb, if_neg ha, rank, rank, if_neg ha]
        exact iff_of_false (by decide) not_lt_bot
    · rw [if_neg hb, rank, rank, if_neg hb, if_pos ((h heq).resolve_right hb)]
      exact iff_of_true (by decide) (WithBot.bot_lt_coe _)

theorem Comparable.neg_iff (h : Comparable a b) : compareSemver a b < 0 ↔ rank (numbers a) < rank (numbers b) := by
  rw [← h.symm.pos_iff, h.swap]
  omega

/-! ## Results that are an `int` -/

/-- Where two versions differ first, they are less than 2^31 apart. -/
def Near (p q : List Int) : Prop :=
  ∀ i < 3, (∀ j < i, p.getD j 0 = q.getD j 0) → -2 ^ 31 < p.getD i 0 - q.getD i 0 ∧ p.getD i 0 - q.getD i 0 < 2 ^ 31

theorem near_iff : Near p q ↔ -2 ^ 31 < firstGap p q ∧ firstGap p q < 2 ^ 31 := by
  simp only [Near, Nat.forall_lt_succ_right, Nat.not_lt_zero, false_implies, forall_const, true_and, firstGap]
  split_ifs <;> omega

/-! ## Three texts -/

/-- What an updater relies on for these texts: every result is an `int`, and together they are an order. -/
structure Consistent (vs : List CStr) : Prop where
  int : ∀ a ∈ vs, ∀ b ∈ vs, -2 ^ 31 ≤ compareSemver a b ∧ compareSemver a b < 2 ^ 31
  antisymm : ∀ a ∈ vs, ∀ b ∈ vs, 0 < compareSemver a b ↔ compareSemver b a < 0
  trans : ∀ a ∈ vs, ∀ b ∈ vs, ∀ c ∈ vs, 0 < compareSemver a b → 0 < compareSemver b c → 0 < compareSemver a c
  leTrans : ∀ a ∈ vs, ∀ b ∈ vs, ∀ c ∈ vs, 0 ≤ compareSemver a b → 0 ≤ compareSemver b c → 0 ≤ compareSemver a c

/-- Two texts that can be compared, with an `int` for a result. -/
def InOrder (a b : CStr) : Prop :=
  Comparable a b ∧ (isRelease (numbers a) → isRelease (numbers b) → Near (numbers a) (numbers b))

theorem InOrder.int (h : InOrder a b) : -2 ^ 31 ≤ compareSemver a b ∧ compareSemver a b < 2 ^ 31 := by
  rw [compareSemver_eq]
  split_ifs with heq hb ha
  · decide
  · have hnear := near_iff.mp (h.2 ha hb)
    omega
  · decide
  · decide

theorem consistent_iff : Consistent vs ↔ ∀ a ∈ vs, ∀ b ∈ vs, InOrder a b := by
  constructor
  · intro h a ha b hb
    constructor
    · intro hne
      by_contra hnone
      obtain ⟨hna, hnb⟩ := not_or.mp hnone
      have hboth := h.antisymm a ha b hb
      rw [compareSemver_eq, if_neg hne, if_neg hnb, compareSemver_eq, if_neg (Ne.symm hne), if_neg hna] at hboth
      exact absurd hboth (by decide)
    · intro hra hrb
      rw [near_iff]
      by_cases heq : stripped a = stripped b
      · rw [show numbers a = numbers b from congrArg scanVersion heq]
        simp [firstGap]
      · -- the difference fits both ways
        have hab := h.int a ha b hb
        have hba := h.int b hb a ha
        rw [compareSemver_eq, if_neg heq, if_pos hrb, if_pos hra] at hab
        rw [compareSemver_eq, if_neg (Ne.symm heq), if_pos hra, if_pos hrb, firstGap_comm] at hba
        omega
  · intro h
    have hle : ∀ a ∈ vs, ∀ b ∈ vs, 0 ≤ compareSemver a b ↔ rank (numbers b) ≤ rank (numbers a) := by
      intro a ha b hb
      rw [← not_lt, (h a ha b hb).1.neg_iff, not_lt]
    refine ⟨fun a ha b hb => (h a ha b hb).int, fun a ha b hb => ?_, fun a ha b hb c hc => ?_, fun a ha b hb c hc => ?_⟩
    · rw [(h a ha b hb).1.pos_iff, (h b hb a ha).1.neg_iff]
    · rw [(h a ha b hb).1.pos_iff, (h b hb c hc).1.pos_iff, (h a ha c hc).1.pos_iff]
      exact fun hab hbc => hbc.trans hab
    · rw [hle a ha b hb, hle b hb c hc, hle a ha c hc]
      exact fun hab hbc => hbc.trans hab

/-! ## Dotted versions -/

/-- Digits that stand for a number up to 1000. -/
structure Writes (ds : CStr) (n : Nat) : Prop where
  ne_nil : ds ≠ []
  digits : ∀ c ∈ ds, c.isDigit = true
  value : Nat.ofDigitChars 10 ds 0 = n
  le : n ≤ 1000

/-- A version `x.y.z`, with or without a `v` in front. -/
def Dotted (v : CStr) (x y z : Nat) : Prop :=
  ∃ front xs ys zs, (front = [] ∨ front = ['v']) ∧ v = front ++ (xs ++ '.' :: (ys ++ '.' :: zs)) ∧
    Writes xs x ∧ Writes ys y ∧ Writes zs z

theorem Writes.scanInt (h : Writes ds n) (hr : NumberEnds r) : scanInt (ds ++ r) = some ((n : Int), r) := by
  have hbound := h.le
  have hatoi : atoi (ds ++ r) = n := by
    rw [atoi, strtol_digits h.ne_nil h.digits hr, h.value, Int.min_eq_right (by omega)]
    exact Int.bmod_eq_of_le (by omega) (by omega)
  have hrest : (ds ++ r).dropWhile Char.isDigit = r := by
    rw [List.dropWhile_append_of_pos h.digits]
    cases r with
    | nil => rfl
    | cons c r => rw [List.dropWhile_cons_of_neg (by rw [hr c rfl]; decide)]
  have hsome : ¬ ((ds ++ r).takeWhile Char.isDigit).isEmpty = true := by
    rw [List.takeWhile_append_of_pos h.digits, List.isEmpty_iff, List.append_eq_nil_iff]
    exact fun hnil => h.ne_nil hnil.1
  obtain ⟨c, t, hcons, hspace, hminus, hplus⟩ := digits_open h.ne_nil h.digits r
  rw [hcons] at hatoi hrest hsome ⊢
  unfold Web.scanInt
  rw [List.dropWhile_cons_of_neg (by rw [hspace]; decide)]
  dsimp only
  split
  · rename_i heq; exact absurd (List.cons.inj heq).1 hminus
  · rename_i heq; exact absurd (List.cons.inj heq).1 hplus
  · rw [if_neg hsome, hatoi, hrest]

theorem numbers_of_dotted (h : Dotted v x y z) : numbers v = [(x : Int), y, z] := by
  obtain ⟨front, xs, ys, zs, hfront, rfl, hx, hy, hz⟩ := h
  have hdot : ∀ r, NumberEnds ('.' :: r) := fun r => numberEnds_cons rfl
  have hstrip : stripped (front ++ (xs ++ '.' :: (ys ++ '.' :: zs))) = xs ++ '.' :: (ys ++ '.' :: zs) := by
    obtain ⟨c, xs, rfl⟩ := List.exists_cons_of_ne_nil hx.ne_nil
    have hc := hx.digits c List.mem_cons_self
    have hv := ne_of_isDigit hc (show 'v'.isDigit = false from rfl)
    have hV := ne_of_isDigit hc (show 'V'.isDigit = false from rfl)
    rcases hfront with rfl | rfl <;> simp [stripped, hv, hV]
  have hlast : scanInt zs = some ((z : Int), []) := by
    have h := hz.scanInt (show NumberEnds [] from fun c hc => by cases hc)
    rwa [List.append_nil] at h
  rw [numbers, hstrip]
  simp only [scanVersion, hx.scanInt (hdot _), hy.scanInt (hdot _), hlast]

theorem isRelease_of_dotted (h : Dotted v x y z) : isRelease (numbers v) = true := by
  rw [numbers_of_dotted h]
  obtain ⟨_, _, _, _, _, _, hx, _⟩ := h
  simpa [isRelease] using Int.ofNat_le.mpr hx.le

/-- **The order of versions**, for every three texts: consistent exactly if any two of them that differ include a
    release, and any two releases are less than 2^31 apart where they differ first.  Dotted versions are in
    lexicographic order. -/
theorem semver_consistent_iff (a b c : CStr) :
    (Consistent [a, b, c] ↔ ∀ v ∈ [a, b, c], ∀ w ∈ [a, b, c], InOrder v w) ∧
    ∀ (v w : CStr) (x y z x' y' z' : Nat), Dotted v x y z → Dotted w x' y' z' →
      (0 < compareSemver v w ↔ toLex (x', toLex (y', z')) < toLex (x, toLex (y, z))) ∧
      (compareSemver v w < 0 ↔ toLex (x, toLex (y, z)) < toLex (x', toLex (y', z'))) := by
  refine ⟨consistent_iff, fun v w x y z x' y' z' hv hw => ?_⟩
  have hcomp : Comparable v w := fun _ => .inl (isRelease_of_dotted hv)
  rw [hcomp.pos_iff, hcomp.neg_iff, rank, rank, if_pos (isRelease_of_dotted hv),
    if_pos (isRelease_of_dotted hw), WithBot.coe_lt_coe, WithBot.coe_lt_coe, numbers_of_dotted hv, numbers_of_dotted hw]
  simp only [Prod.Lex.toLex_lt_toLex, List.getD_cons_zero, List.getD_cons_succ]
  constructor <;> omega

/-- Two builds, each newer than the other. -/
theorem builds_each_newer : ¬ (0 < compareSemver "20261002_152512".toList "20261003_091500".toList ↔
    compareSemver "20261003_091500".toList "20261002_152512".toList < 0) := by
  decide +kernel

end FluxWAN.Web
