/-
  Loads and stores in byte buffers.

  A buffer is the list of its bytes.  Loads are total — past the end they read 0 — because the modelled
  programs check bounds before they load; the checks themselves are part of the models.  `le…` are the
  loads a little-endian host makes through a struct pointer, `be…` the same fields after `ntoh…`.
-/
import Mathlib.Algebra.Group.Int.Defs
import Mathlib.Algebra.Group.Nat.Defs
import Mathlib.Data.Fintype.Card

namespace FluxWAN.Bytes

def byteAt (buf : List UInt8) (i : Nat) : UInt8 := buf.getD i 0

def le16 (buf : List UInt8) (i : Nat) : UInt16 :=
  (byteAt buf i).toUInt16 ||| (byteAt buf (i + 1)).toUInt16 <<< 8

def be16 (buf : List UInt8) (i : Nat) : UInt16 :=
  (byteAt buf i).toUInt16 <<< 8 ||| (byteAt buf (i + 1)).toUInt16

def le32 (buf : List UInt8) (i : Nat) : UInt32 :=
  (List.range 4).foldr (fun k acc => acc <<< 8 ||| (byteAt buf (i + k)).toUInt32) 0

def le64 (buf : List UInt8) (i : Nat) : UInt64 :=
  (List.range 8).foldr (fun k acc => acc <<< 8 ||| (byteAt buf (i + k)).toUInt64) 0

def bytes16 (x : UInt16) : List UInt8 := [x.toUInt8, (x >>> 8).toUInt8]

def bytes32 (x : UInt32) : List UInt8 :=
  [x.toUInt8, (x >>> 8).toUInt8, (x >>> 16).toUInt8, (x >>> 24).toUInt8]

/-- Overwrite from position `i` on. -/
def store (buf : List UInt8) (i : Nat) (new : List UInt8) : List UInt8 :=
  buf.take i ++ new ++ buf.drop (i + new.length)

section
variable {buf new : List UInt8} {i : Nat}

/-- A store that fits keeps the length, … -/
theorem length_store (h : i + new.length ≤ buf.length) : (store buf i new).length = buf.length := by
  simp only [store, List.length_append, List.length_take, List.length_drop]
  omega

/-- … leaves the bytes outside its range … -/
theorem byteAt_store_of_outside (h : i + new.length ≤ buf.length)
    (hj : j < i ∨ i + new.length ≤ j) : byteAt (store buf i new) j = byteAt buf j := by
  unfold byteAt store
  rcases hj with hj | hj <;> grind

/-- … and puts the new ones in their place. -/
theorem byteAt_store_of_inside (h : i + new.length ≤ buf.length) (hk : k < new.length) :
    byteAt (store buf i new) (i + k) = byteAt new k := by
  unfold byteAt store
  grind

/-- What lies behind a store is unchanged. -/
theorem drop_store (h : i + new.length ≤ buf.length) (hn : i + new.length ≤ n) :
    (store buf i new).drop n = buf.drop n := by
  have hfront : (buf.take i ++ new).length = i + new.length := by
    rw [List.length_append, List.length_take]
    omega
  rw [store, List.drop_append, List.drop_of_length_le (by omega), List.nil_append, hfront, List.drop_drop]
  congr 1
  omega

end

/-- `htons` on a little-endian host. -/
def htons (x : UInt16) : UInt16 := x <<< 8 ||| x >>> 8

/-- A fact about bytes can be decided on the 256 of them. -/
theorem forall_byte {p : UInt8 → Prop} (h : ∀ n : Fin 256, p (UInt8.ofNat n)) (b : UInt8) : p b := by
  have := h ⟨b.toNat, b.toNat_lt⟩
  simpa using this

end FluxWAN.Bytes
