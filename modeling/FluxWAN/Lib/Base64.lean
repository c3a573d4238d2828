/-
  Base64 without its characters.

  Three bytes are four digits below 64; one or two bytes at the end are two or three digits, the last of which has
  unused bits.  `toDigits` leaves them zero, `ofDigits` does not look at them.

  * `ofDigits_toDigits` — every text of bytes is read back;
  * `toDigits_ofDigits` — and so is every `Canonical` list of digits, one whose unused bits are zero;
  * `length_toDigits`, `length_ofDigits` — what the lengths say about each other.

  Characters, padding and what a decoder skips are not here: they differ from program to program.
-/
import Mathlib.Data.Nat.Bits
import Mathlib.Data.List.Basic

namespace FluxWAN.Base64

/-- The digits of a text of bytes. -/
def toDigits : List UInt8 → List Nat
  | a :: b :: c :: s =>
    a.toNat / 4 :: (a.toNat % 4 * 16 + b.toNat / 16) :: (b.toNat % 16 * 4 + c.toNat / 64) :: c.toNat % 64 ::
      toDigits s
  | [a, b] => [a.toNat / 4, a.toNat % 4 * 16 + b.toNat / 16, b.toNat % 16 * 4]
  | [a] => [a.toNat / 4, a.toNat % 4 * 16]
  | [] => []

/-- The bytes of a list of digits; bits that make no byte are dropped. -/
def ofDigits : List Nat → List UInt8
  | d₀ :: d₁ :: d₂ :: d₃ :: ds =>
    UInt8.ofNat (d₀ * 4 + d₁ / 16) :: UInt8.ofNat (d₁ % 16 * 16 + d₂ / 4) :: UInt8.ofNat (d₂ % 4 * 64 + d₃) ::
      ofDigits ds
  | [d₀, d₁, d₂] => [UInt8.ofNat (d₀ * 4 + d₁ / 16), UInt8.ofNat (d₁ % 16 * 16 + d₂ / 4)]
  | [d₀, d₁] => [UInt8.ofNat (d₀ * 4 + d₁ / 16)]
  | [_] | [] => []

/-- The unused bits are zero, and there is no single digit left over. -/
def Canonical : List Nat → Prop
  | _ :: _ :: _ :: _ :: ds => Canonical ds
  | [_, _, d₂] => d₂ % 4 = 0
  | [_, d₁] => d₁ % 16 = 0
  | [_] => False
  | [] => True

theorem toDigits_lt : ∀ d ∈ toDigits s, d < 64 := by
  induction s using toDigits.induct with
  | case1 a b c s ih =>
    have ha := a.toNat_lt
    have hb := b.toNat_lt
    have hc := c.toNat_lt
    simp only [toDigits, List.forall_mem_cons]
    exact ⟨by omega, by omega, by omega, by omega, ih⟩
  | case2 a b =>
    have ha := a.toNat_lt
    have hb := b.toNat_lt
    simp only [toDigits, List.forall_mem_cons]
    exact ⟨by omega, by omega, by omega, by simp⟩
  | case3 a =>
    have ha := a.toNat_lt
    simp only [toDigits, List.forall_mem_cons]
    exact ⟨by omega, by omega, by simp⟩
  | case4 => simp [toDigits]

theorem length_toDigits (s : List UInt8) : (toDigits s).length = (4 * s.length + 2) / 3 := by
  induction s using toDigits.induct with
  | case1 a b c s ih =>
    simp only [toDigits, List.length_cons, ih]
    omega
  | case2 | case3 | case4 => simp [toDigits]

theorem length_ofDigits (ds : List Nat) : (ofDigits ds).length = 3 * ds.length / 4 := by
  induction ds using ofDigits.induct with
  | case1 d₀ d₁ d₂ d₃ ds ih =>
    simp only [ofDigits, List.length_cons, ih]
    omega
  | case2 | case3 | case4 | case5 => simp [ofDigits]

/-- The first `n` bytes are those of the digits that `n` bytes have. -/
theorem take_ofDigits (ds : List Nat) (h : (4 * n + 2) / 3 ≤ ds.length) :
    (ofDigits ds).take n = ofDigits (ds.take ((4 * n + 2) / 3)) := by
  induction ds using ofDigits.induct generalizing n with
  | case1 d₀ d₁ d₂ d₃ ds ih =>
    match n with
    | 0 | 1 | 2 => rfl
    | n + 3 =>
      have hn : (4 * (n + 3) + 2) / 3 = (4 * n + 2) / 3 + 4 := by omega
      rw [hn] at h ⊢
      rw [ofDigits, List.take_succ_cons, List.take_succ_cons, List.take_succ_cons, ih (Nat.le_of_add_le_add_right h)]
      rfl
  | case2 d₀ d₁ d₂ =>
    match n with
    | 0 | 1 | 2 => rfl
    | n + 3 => exact absurd h (by simp only [List.length_cons, List.length_nil]; omega)
  | case3 d₀ d₁ =>
    match n with
    | 0 | 1 => rfl
    | n + 2 => exact absurd h (by simp only [List.length_cons, List.length_nil]; omega)
  | case4 d =>
    match n with
    | 0 => rfl
    | n + 1 => exact absurd h (by simp only [List.length_cons, List.length_nil]; omega)
  | case5 => exact List.take_nil.trans (by rw [List.take_nil]; rfl)

theorem ofNat_eq_of_toNat {a : UInt8} (h : n = a.toNat) : UInt8.ofNat n = a := by
  rw [h, UInt8.ofNat_toNat]

theorem ofDigits_toDigits (s : List UInt8) : ofDigits (toDigits s) = s := by
  induction s using toDigits.induct with
  | case1 a b c s ih =>
    have ha := a.toNat_lt
    have hb := b.toNat_lt
    have hc := c.toNat_lt
    rw [toDigits, ofDigits, ih, ofNat_eq_of_toNat (a := a) (by omega), ofNat_eq_of_toNat (a := b) (by omega),
      ofNat_eq_of_toNat (a := c) (by omega)]
  | case2 a b =>
    have ha := a.toNat_lt
    have hb := b.toNat_lt
    rw [toDigits, ofDigits, ofNat_eq_of_toNat (a := a) (by omega), ofNat_eq_of_toNat (a := b) (by omega)]
  | case3 a =>
    have ha := a.toNat_lt
    rw [toDigits, ofDigits, ofNat_eq_of_toNat (a := a) (by omega)]
  | case4 => rfl

theorem toDigits_ofDigits (hlt : ∀ d ∈ ds, d < 64) (h : Canonical ds) : toDigits (ofDigits ds) = ds := by
  have hbyte : ∀ {n : Nat}, n < 256 → (UInt8.ofNat n).toNat = n := fun hn => UInt8.toNat_ofNat_of_lt' hn
  induction ds using ofDigits.induct with
  | case1 d₀ d₁ d₂ d₃ ds ih =>
    simp only [List.forall_mem_cons] at hlt
    obtain ⟨h₀, h₁, h₂, h₃, hlt⟩ := hlt
    rw [ofDigits, toDigits, ih hlt h, hbyte (by omega), hbyte (by omega), hbyte (by omega)]
    refine List.cons_eq_cons.mpr ⟨by omega, List.cons_eq_cons.mpr ⟨by omega, ?_⟩⟩
    exact List.cons_eq_cons.mpr ⟨by omega, List.cons_eq_cons.mpr ⟨by omega, rfl⟩⟩
  | case2 d₀ d₁ d₂ =>
    simp only [List.forall_mem_cons] at hlt
    obtain ⟨h₀, h₁, h₂, -⟩ := hlt
    have hunused : d₂ % 4 = 0 := h
    rw [ofDigits, toDigits, hbyte (by omega), hbyte (by omega)]
    refine List.cons_eq_cons.mpr ⟨by omega, List.cons_eq_cons.mpr ⟨by omega, ?_⟩⟩
    exact List.cons_eq_cons.mpr ⟨by omega, rfl⟩
  | case3 d₀ d₁ =>
    simp only [List.forall_mem_cons] at hlt
    obtain ⟨h₀, h₁, -⟩ := hlt
    have hunused : d₁ % 16 = 0 := h
    rw [ofDigits, toDigits, hbyte (by omega)]
    exact List.cons_eq_cons.mpr ⟨by omega, List.cons_eq_cons.mpr ⟨by omega, rfl⟩⟩
  | case4 => exact h.elim
  | case5 => rfl

/-- A last digit 0 has no bits at all. -/
theorem canonical_concat_zero : ∀ {ds : List Nat}, ds.length % 4 ≠ 0 → Canonical (ds ++ [0])
  | [], h => absurd rfl h
  | [_], _ | [_, _], _ => rfl
  | [_, _, _], _ => trivial
  | _ :: _ :: _ :: _ :: ds, h => @canonical_concat_zero ds fun h0 => h (by
      rw [List.length_cons, List.length_cons, List.length_cons, List.length_cons]
      omega)

end FluxWAN.Base64
