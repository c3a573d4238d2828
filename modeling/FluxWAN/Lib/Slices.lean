/-
  Slices of byte buffers, and what loads and stores do to them.

  A program that patches a packet is described by a few slices: those it writes, by what is in them, and
  the others, which stay.  `slice_store_self` and `slice_store_of_outside` are the two rules for that; a
  buffer is put together again by `slice_add`, and a word is loaded from the slice that holds its bytes.
-/
import Mathlib.Tactic.IntervalCases
import FluxWAN.Lib.Bytes

namespace FluxWAN.Bytes

/-! ## Loads as numbers -/

theorem toNat_le16 (buf : List UInt8) (i : Nat) :
    (le16 buf i).toNat = (byteAt buf i).toNat + 256 * (byteAt buf (i + 1)).toNat := by
  have hlo := (byteAt buf i).toNat_lt
  have hhi := (byteAt buf (i + 1)).toNat_lt
  have hshift : ((byteAt buf (i + 1)).toUInt16 <<< 8).toNat = 2 ^ 8 * (byteAt buf (i + 1)).toNat := by
    rw [UInt16.toNat_shiftLeft, UInt8.toNat_toUInt16, Nat.shiftLeft_eq, Nat.mul_comm]
    exact Nat.mod_eq_of_lt (show 2 ^ 8 * (byteAt buf (i + 1)).toNat < 2 ^ 16 by omega)
  rw [le16, UInt16.toNat_or, UInt8.toNat_toUInt16, hshift, Nat.or_comm,
    ← Nat.two_pow_add_eq_or_of_lt (i := 8) hlo, Nat.add_comm]

/-- One byte more in a load. -/
theorem toNat_shiftLeft_or (x : UInt32) (b : UInt8) (h : x.toNat < 2 ^ 24) :
    (x <<< 8 ||| b.toUInt32).toNat = 256 * x.toNat + b.toNat := by
  have hb := b.toNat_lt
  have hshift : (x <<< 8).toNat = 2 ^ 8 * x.toNat := by
    rw [UInt32.toNat_shiftLeft, Nat.shiftLeft_eq, Nat.mul_comm]
    exact Nat.mod_eq_of_lt (show 2 ^ 8 * x.toNat < 2 ^ 32 by omega)
  rw [UInt32.toNat_or, UInt8.toNat_toUInt32, hshift, ← Nat.two_pow_add_eq_or_of_lt (i := 8) hb]

theorem toNat_le32 (buf : List UInt8) (i : Nat) :
    (le32 buf i).toNat = (byteAt buf i).toNat + 256 * ((byteAt buf (i + 1)).toNat +
      256 * ((byteAt buf (i + 2)).toNat + 256 * (byteAt buf (i + 3)).toNat)) := by
  have h₀ := (byteAt buf i).toNat_lt
  have h₁ := (byteAt buf (i + 1)).toNat_lt
  have h₂ := (byteAt buf (i + 2)).toNat_lt
  have h₃ := (byteAt buf (i + 3)).toNat_lt
  simp only [le32, show List.range 4 = [0, 1, 2, 3] from rfl, List.foldr_cons, List.foldr_nil, Nat.add_zero]
  have e₃ := toNat_shiftLeft_or 0 (byteAt buf (i + 3)) (by decide)
  have e₂ := toNat_shiftLeft_or _ (byteAt buf (i + 2)) (by rw [e₃]; simp; omega)
  have e₁ := toNat_shiftLeft_or _ (byteAt buf (i + 1)) (by rw [e₂, e₃]; simp; omega)
  rw [toNat_shiftLeft_or _ _ (by rw [e₁, e₂, e₃]; simp; omega), e₁, e₂, e₃, UInt32.toNat_zero]
  omega

/-- A word is loaded from where its bytes are. -/
theorem le32_of_bytes (h : ∀ k < 4, byteAt buf (i + k) = byteAt (bytes32 x) k) : le32 buf i = x := by
  have hx := x.toNat_lt
  have h₀ : byteAt buf i = x.toUInt8 := h 0 (by decide)
  have h₁ : byteAt buf (i + 1) = (x >>> 8).toUInt8 := h 1 (by decide)
  have h₂ : byteAt buf (i + 2) = (x >>> 16).toUInt8 := h 2 (by decide)
  have h₃ : byteAt buf (i + 3) = (x >>> 24).toUInt8 := h 3 (by decide)
  rw [← UInt32.toNat_inj, toNat_le32, h₀, h₁, h₂, h₃]
  simp only [UInt32.toNat_toUInt8, UInt32.toNat_shiftRight, Nat.shiftRight_eq_div_pow, UInt32.toNat_ofNat,
    Nat.reduceMod, Nat.reducePow]
  omega

theorem le16_of_bytes (h : ∀ k < 2, byteAt buf (i + k) = byteAt (bytes16 x) k) : le16 buf i = x := by
  have hx := x.toNat_lt
  have h₀ : byteAt buf i = x.toUInt8 := h 0 (by decide)
  have h₁ : byteAt buf (i + 1) = (x >>> 8).toUInt8 := h 1 (by decide)
  rw [← UInt16.toNat_inj, toNat_le16, h₀, h₁]
  simp only [UInt16.toNat_toUInt8, UInt16.toNat_shiftRight, Nat.shiftRight_eq_div_pow, UInt16.toNat_ofNat,
    Nat.reduceMod, Nat.reducePow]
  omega

/-! ## Slices -/

/-- The `n` bytes from offset `i` on. -/
def slice (buf : List UInt8) (i n : Nat) : List UInt8 := (buf.drop i).take n

section
variable {buf new : List UInt8} {i j n : Nat}

theorem length_slice (h : i + n ≤ buf.length) : (slice buf i n).length = n := by
  rw [slice, List.length_take, List.length_drop]
  omega

theorem slice_add (buf : List UInt8) (i m n : Nat) :
    slice buf i (m + n) = slice buf i m ++ slice buf (i + m) n := by
  rw [slice, slice, slice, List.take_add, List.drop_drop]

/-- The bytes of a slice are those of the buffer. -/
theorem byteAt_slice (h : k < n) : byteAt (slice buf i n) k = byteAt buf (i + k) := by
  simp only [byteAt, slice, List.getD_eq_getElem?_getD, List.getElem?_take_of_lt h, List.getElem?_drop]

end

/-- Bytes of a slice one by one. -/
theorem slice_succ {buf : List UInt8} (h : i < buf.length) :
    slice buf i (n + 1) = byteAt buf i :: slice buf (i + 1) n := by
  rw [Nat.add_comm, slice_add]
  simp only [slice, List.take_one, List.head?_drop, byteAt, List.getD_eq_getElem?_getD,
    List.getElem?_eq_getElem h, Option.toList_some, Option.getD_some, List.singleton_append]

/-- A byte that a slice keeps. -/
theorem byteAt_of_slice (h : slice buf j 1 = slice buf' k 1) : byteAt buf j = byteAt buf' k := by
  have hzero := congrArg (byteAt · 0) h
  simpa only [byteAt_slice Nat.zero_lt_one, Nat.add_zero] using hzero

/-! ## Words -/

/-- The bytes of a loaded word are those of the frame. -/
theorem slice_four {buf : List UInt8} (h : i + 4 ≤ buf.length) : slice buf i 4 = bytes32 (le32 buf i) := by
  have h₀ := (byteAt buf i).toNat_lt
  have h₁ := (byteAt buf (i + 1)).toNat_lt
  have h₂ := (byteAt buf (i + 2)).toNat_lt
  have h₃ := (byteAt buf (i + 3)).toNat_lt
  rw [slice_succ (by omega), slice_succ (by omega), slice_succ (by omega), slice_succ (by omega), bytes32]
  simp only [slice, List.take_zero, List.cons.injEq, and_true, ← UInt8.toNat_inj, UInt32.toNat_toUInt8,
    UInt32.toNat_shiftRight, Nat.shiftRight_eq_div_pow, UInt32.toNat_ofNat, Nat.reduceMod, Nat.reducePow,
    toNat_le32, Nat.add_assoc, Nat.reduceAdd]
  omega

theorem slice_two {buf : List UInt8} (h : i + 2 ≤ buf.length) : slice buf i 2 = bytes16 (le16 buf i) := by
  have h₀ := (byteAt buf i).toNat_lt
  have h₁ := (byteAt buf (i + 1)).toNat_lt
  rw [slice_succ (by omega), slice_succ (by omega), bytes16]
  simp only [slice, List.take_zero, List.cons.injEq, and_true, ← UInt8.toNat_inj, UInt16.toNat_toUInt8,
    UInt16.toNat_shiftRight, Nat.shiftRight_eq_div_pow, UInt16.toNat_ofNat, Nat.reduceMod, Nat.reducePow, toNat_le16]
  omega

theorem le32_of_slice (h : slice buf i 4 = bytes32 x) : le32 buf i = x :=
  le32_of_bytes fun k hk => by rw [← h, byteAt_slice hk]

theorem le16_of_slice (h : slice buf i 2 = bytes16 x) : le16 buf i = x :=
  le16_of_bytes fun k hk => by rw [← h, byteAt_slice hk]

/-- A word stored in network order, as it is read. -/
theorem be16_of_htons (h : slice buf i 2 = bytes16 (htons x)) : be16 buf i = x := by
  have hbyte : ∀ k < 2, byteAt buf (i + k) = byteAt (bytes16 (htons x)) k := by
    intro k hk
    rw [← h, byteAt_slice hk]
  have h₀ : byteAt buf i = byteAt (bytes16 (htons x)) 0 := hbyte 0 (by decide)
  rw [be16, h₀, hbyte 1 (by decide)]
  apply UInt16.toBitVec_inj.mp
  refine BitVec.eq_of_getLsbD_eq fun j hj => ?_
  simp only [byteAt, bytes16, htons, List.getD_cons_zero, List.getD_cons_succ, UInt16.toBitVec_or,
    UInt16.toBitVec_shiftLeft, UInt16.toBitVec_shiftRight, UInt8.toBitVec_toUInt16, UInt16.toBitVec_toUInt8,
    BitVec.getLsbD_or]
  interval_cases j <;> simp

/-! ## Stores -/

section
variable {buf new : List UInt8} {i j n : Nat}

/-- A store does not show in a slice beside it … -/
theorem slice_store_of_outside (h : i + new.length ≤ buf.length)
    (hj : j + n ≤ i ∨ i + new.length ≤ j) : slice (store buf i new) j n = slice buf j n := by
  rcases hj with hj | hj
  · have hfront : (store buf i new).take (j + n) = buf.take (j + n) := by
      rw [store, List.append_assoc, List.take_append_of_le_length (by rw [List.length_take]; omega),
        List.take_take, Nat.min_eq_left hj]
    rw [slice, slice, List.take_drop, List.take_drop, hfront]
  · rw [slice, drop_store h hj, slice]

/-- … and is the slice at its own place. -/
theorem slice_store_self (h : i ≤ buf.length) : slice (store buf i new) i new.length = new := by
  have hfront : (buf.take i).length = i := by rw [List.length_take]; omega
  rw [slice, store, List.append_assoc, List.drop_append_of_le_length (Nat.le_of_eq hfront.symm),
    List.drop_of_length_le (Nat.le_of_eq hfront), List.nil_append, List.take_left]

end

/-- Part of what is stored. -/
theorem slice_store_of_inside {buf new : List UInt8} (h : i ≤ buf.length)
    (hk : k + n ≤ new.length) : slice (store buf i new) (i + k) n = slice new k n := by
  have hfront : (buf.take i).length = i := by rw [List.length_take]; omega
  have hdrop : (store buf i new).drop (i + k) = new.drop k ++ buf.drop (i + new.length) := by
    rw [store, List.append_assoc, ← List.drop_drop, List.drop_append_of_le_length (Nat.le_of_eq hfront.symm),
      List.drop_of_length_le (Nat.le_of_eq hfront), List.nil_append, List.drop_append_of_le_length (by omega)]
  rw [slice, hdrop, List.take_append_of_le_length (by rw [List.length_drop]; omega), slice]

/-- Storing a word, seen by slices. -/
theorem slice_store_bytes16 {buf : List UInt8} (x : UInt16) (h : i + 2 ≤ buf.length) :
    slice (store buf i (bytes16 x)) i 2 = bytes16 x :=
  slice_store_self (by omega)

theorem slice_store_bytes16_of_outside {buf : List UInt8} (x : UInt16)
    (h : i + 2 ≤ buf.length) (hj : j + n ≤ i ∨ i + 2 ≤ j) :
    slice (store buf i (bytes16 x)) j n = slice buf j n :=
  slice_store_of_outside h hj

theorem length_store_bytes16 {buf : List UInt8} (x : UInt16) (h : i + 2 ≤ buf.length) :
    (store buf i (bytes16 x)).length = buf.length :=
  length_store h

/-- Storing what is there. -/
theorem store_slice {buf : List UInt8} (h : i + n ≤ buf.length) : store buf i (slice buf i n) = buf := by
  have hdrop : buf.drop i = slice buf i n ++ buf.drop (i + n) := by
    rw [slice, ← List.drop_drop, List.take_append_drop]
  rw [store, length_slice h, List.append_assoc, ← hdrop, List.take_append_drop]

/-- Two stores that meet. -/
theorem store_append (buf front rest : List UInt8) (h : i + front.length ≤ buf.length) :
    store buf i (front ++ rest) = store (store buf i front) (i + front.length) rest := by
  have hfront : (buf.take i ++ front).length = i + front.length := by
    rw [List.length_append, List.length_take]
    omega
  have htake : (store buf i front).take (i + front.length) = buf.take i ++ front := by
    rw [store, List.take_append_of_le_length (by omega), List.take_of_length_le (by omega)]
  have hdrop : (store buf i front).drop (i + front.length + rest.length) = buf.drop (i + (front ++ rest).length) := by
    rw [store, List.drop_append, List.drop_of_length_le (by omega), List.nil_append, hfront, List.drop_drop]
    congr 1
    rw [List.length_append]
    omega
  rw [store, store, htake, hdrop]
  simp only [List.append_assoc]

/-! ## Two parts

  In front of the seam everything is at its place, behind it at its distance from the seam. -/

theorem slice_append_left {front rest : List UInt8} (h : j + n ≤ front.length) :
    slice (front ++ rest) j n = slice front j n := by
  rw [slice, List.drop_append_of_le_length (by omega), List.take_append_of_le_length (by rw [List.length_drop]; omega),
    slice]

theorem store_append_left {front rest new : List UInt8} (h : j + new.length ≤ front.length) :
    store (front ++ rest) j new = store front j new ++ rest := by
  rw [store, List.take_append_of_le_length (by omega), List.drop_append_of_le_length h, store]
  simp only [List.append_assoc]

section
variable {front rest : List UInt8} (k : Nat)

theorem byteAt_behind : byteAt (front ++ rest) (front.length + k) = byteAt rest k := by
  simp only [byteAt, List.getD_eq_getElem?_getD, List.getElem?_append_right (Nat.le_add_right _ _),
    Nat.add_sub_cancel_left]

theorem le16_behind : le16 (front ++ rest) (front.length + k) = le16 rest k := by
  simp only [le16, Nat.add_assoc, byteAt_behind]

theorem le32_behind : le32 (front ++ rest) (front.length + k) = le32 rest k := by
  simp only [le32, Nat.add_assoc, byteAt_behind]

theorem slice_behind (n : Nat) : slice (front ++ rest) (front.length + k) n = slice rest k n := by
  rw [slice, List.drop_length_add_append, slice]

theorem store_behind (new : List UInt8) :
    store (front ++ rest) (front.length + k) new = front ++ store rest k new := by
  rw [store, List.take_length_add_append, Nat.add_assoc, List.drop_length_add_append, store]
  simp only [List.append_assoc]

end

end FluxWAN.Bytes
