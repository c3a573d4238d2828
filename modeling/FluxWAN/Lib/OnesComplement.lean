/-
  Internet checksums.

  The checksum of a byte string is taken over its 16-bit words, first byte high, an odd last byte followed
  by a zero.  The words are added, and what is carried out of the 16 bits is added at the low end again until
  nothing is carried (`endAround`).  A string that includes its checksum is accepted if this gives 0xffff
  (`Verifies`).

  A program on a little-endian host adds the words as it loads them, first byte LOW.  That is allowed because
  16 bits with an end-around carry are the numbers modulo 65535, where swapping the bytes of a word is
  multiplication by 256, a unit.  `verifies_iff` says so, and it is the only lemma about `Verifies` that is
  needed: the sum in host order is not 0 and divisible by 65535.  The two zeros of one's-complement numbers are the
  reason for the first half: a string of zeros alone has a sum of 0 and not of 0xffff, and is refused.
-/
import FluxWAN.Lib.Slices

namespace FluxWAN.OnesComplement

open Bytes

/-- The sum of the 16-bit words, in network order. -/
def wordsSum : List UInt8 → Nat
  | [] => 0
  | [a] => 256 * a.toNat
  | a :: b :: rest => 256 * a.toNat + b.toNat + wordsSum rest

/-- The carries added at the low end, until there are none. -/
def endAround (n : Nat) : Nat := if n < 65536 then n else endAround (n % 65536 + n / 65536)
termination_by n
decreasing_by omega

/-- The receiver's test. -/
def Verifies (bytes : List UInt8) : Prop := endAround (wordsSum bytes) = 0xffff

/-- The sum of the words as a little-endian host loads them. -/
def hostSum : List UInt8 → Nat
  | [] => 0
  | [a] => a.toNat
  | a :: b :: rest => a.toNat + 256 * b.toNat + hostSum rest

/-- Adding the carries changes a sum by multiples of 65535, and keeps it from becoming 0. -/
theorem endAround_eq_iff (n : Nat) : endAround n = 0xffff ↔ 0 < n ∧ n % 65535 = 0 := by
  fun_induction endAround n with
  | case1 n h => omega
  | case2 n h ih => rw [ih]; omega

/-- Swapping the bytes of all words multiplies their sum by 256. -/
theorem wordsSum_mod (bytes : List UInt8) :
    wordsSum bytes % 65535 = 256 * hostSum bytes % 65535 := by
  induction bytes using wordsSum.induct with
  | case1 => rfl
  | case2 a => rfl
  | case3 a b rest ih =>
    simp only [wordsSum, hostSum]
    omega

theorem wordsSum_eq_zero_iff (bytes : List UInt8) : wordsSum bytes = 0 ↔ hostSum bytes = 0 := by
  induction bytes using wordsSum.induct with
  | case1 => rfl
  | case2 a =>
    simp only [wordsSum, hostSum]
    omega
  | case3 a b rest ih =>
    simp only [wordsSum, hostSum]
    omega

/-- **Byte order does not matter.** -/
theorem verifies_iff (bytes : List UInt8) :
    Verifies bytes ↔ 0 < hostSum bytes ∧ hostSum bytes % 65535 = 0 := by
  have hmod := wordsSum_mod bytes
  have hzero := wordsSum_eq_zero_iff bytes
  rw [Verifies, endAround_eq_iff]
  omega

instance (bytes : List UInt8) : Decidable (Verifies bytes) :=
  decidable_of_iff _ (verifies_iff bytes).symm

/-! ## Sums of parts -/

/-- Parts are added up, as long as words are not cut. -/
theorem hostSum_append {front : List UInt8} (h : front.length % 2 = 0) :
    hostSum (front ++ rest) = hostSum front + hostSum rest := by
  induction front using hostSum.induct with
  | case1 => simp [hostSum]
  | case2 a => simp at h
  | case3 a b front ih =>
    have hrest : front.length % 2 = 0 := by
      simp only [List.length_cons] at h
      omega
    simp only [List.cons_append, hostSum, ih hrest]
    omega

/-- Only zeros sum up to 0. -/
theorem hostSum_eq_zero_iff (bytes : List UInt8) : hostSum bytes = 0 ↔ ∀ b ∈ bytes, b = 0 := by
  induction bytes using hostSum.induct with
  | case1 => simp [hostSum]
  | case2 a =>
    rw [List.forall_mem_singleton, ← UInt8.toNat_inj, UInt8.toNat_zero, hostSum]
  | case3 a b rest ih =>
    rw [List.forall_mem_cons, List.forall_mem_cons, ← ih, ← UInt8.toNat_inj, ← UInt8.toNat_inj,
      UInt8.toNat_zero, hostSum]
    omega

theorem hostSum_pos (hb : b ∈ bytes) (hne : b ≠ 0) : 0 < hostSum bytes :=
  Nat.pos_of_ne_zero fun h => hne ((hostSum_eq_zero_iff bytes).mp h b hb)

@[simp] theorem hostSum_bytes16 (x : UInt16) : hostSum (bytes16 x) = x.toNat := by
  have hx := x.toNat_lt
  simp only [bytes16, hostSum, UInt16.toNat_toUInt8, UInt16.toNat_shiftRight, Nat.shiftRight_eq_div_pow,
    UInt16.toNat_ofNat, Nat.reduceMod, Nat.reducePow]
  omega

/-- A 32-bit number counts as its two halves. -/
def halves (x : UInt32) : Nat := x.toNat % 65536 + x.toNat / 65536

@[simp] theorem hostSum_bytes32 (x : UInt32) : hostSum (bytes32 x) = halves x := by
  have hx := x.toNat_lt
  simp only [bytes32, hostSum, halves, UInt32.toNat_toUInt8, UInt32.toNat_shiftRight,
    Nat.shiftRight_eq_div_pow, UInt32.toNat_ofNat, Nat.reduceMod, Nat.reducePow]
  omega

/-- A slice that starts behind whole words is added to them. -/
theorem hostSum_slice_add {buf : List UInt8} (n : Nat) (h : i + m ≤ buf.length) (hm : m % 2 = 0) :
    hostSum (slice buf i (m + n)) = hostSum (slice buf i m) + hostSum (slice buf (i + m) n) := by
  rw [slice_add, hostSum_append (by rw [length_slice h, hm])]

end FluxWAN.OnesComplement
