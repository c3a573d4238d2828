/-
  A ring of `n` cells, written round and round.

  The `k`-th write goes to cell `k % n`, so the cells hold the last `n` values written, and what they held at
  first where fewer have been written.  Seen from the oldest cell on, the ring IS that list (`Records`); seen as
  the array a program scans, it is a permutation of it (`Records.perm`), and a scan that counts or adds cannot
  tell the two apart.
-/
import Mathlib.Algebra.Group.Int.Defs
import Mathlib.Algebra.Group.Nat.Defs
import Mathlib.Data.Fintype.Card
import Mathlib.Data.List.Rotate

namespace FluxWAN.RingBuffer

variable {α : Type} {n : Nat}

/-- The last `n` values written, oldest first. -/
def latest (n : Nat) (xs : List α) : List α := xs.drop (xs.length - n)

/-- The contents of `n` cells that held `pad` before `xs` was written, oldest first. -/
def contents (n : Nat) (pad : α) (xs : List α) : List α := (List.replicate n pad ++ xs).drop xs.length

/-- The ring holds what writing `xs` over `pad` leaves. -/
def Records (v : Vector α n) (pad : α) (xs : List α) : Prop := v.toList.rotate xs.length = contents n pad xs

section
variable {pad x : α} {xs : List α}

theorem contents_eq : contents n pad xs = List.replicate (n - xs.length) pad ++ latest n xs := by
  unfold contents latest
  rw [List.drop_append, List.drop_replicate, List.length_replicate]

theorem length_latest : (latest n xs).length = min n xs.length := by
  unfold latest
  rw [List.length_drop]
  omega

theorem latest_map {β : Type} (f : α → β) : latest n (xs.map f) = (latest n xs).map f := by
  unfold latest
  rw [List.length_map, List.map_drop]

/-- One more write pushes the oldest value out. -/
theorem contents_append_singleton (hn : 0 < n) : contents n pad (xs ++ [x]) = (contents n pad xs).tail ++ [x] := by
  unfold contents
  have hlen : xs.length + 1 ≤ (List.replicate n pad ++ xs).length := by
    rw [List.length_append, List.length_replicate]
    omega
  rw [List.tail_drop, ← List.append_assoc, List.length_append, List.length_singleton,
    List.drop_append_of_le_length hlen]

/-- Seen from the cell after it, the cell just written comes last. -/
theorem rotate_set (l : List α) (m : Nat) (x : α) (hl : 0 < l.length) :
    (l.set (m % l.length) x).rotate (m + 1) = (l.rotate m).tail ++ [x] := by
  have hj : m % l.length < l.length := Nat.mod_lt m hl
  have hold : l.rotate m = l.drop (m % l.length) ++ l.take (m % l.length) := by
    rw [← List.rotate_mod, List.rotate_eq_drop_append_take hj.le]
  have hnew : (l.set (m % l.length) x).rotate m = x :: (l.drop (m % l.length + 1) ++ l.take (m % l.length)) := by
    rw [← List.rotate_mod, List.length_set, List.rotate_eq_drop_append_take (by rw [List.length_set]; exact hj.le),
      List.drop_eq_getElem_cons (by rw [List.length_set]; exact hj), List.getElem_set_self,
      List.drop_set_of_lt (Nat.lt_succ_self _), List.take_set_of_le (Nat.le_refl _), List.cons_append]
  rw [← List.rotate_rotate, hnew, List.rotate_cons_succ, List.rotate_zero, hold, List.drop_eq_getElem_cons hj,
    List.cons_append, List.tail_cons]

end

theorem records_replicate (pad : α) : Records (Vector.replicate n pad) pad [] := by
  unfold Records contents
  rw [List.length_nil, List.rotate_zero, List.append_nil, List.drop_zero, Vector.toList_replicate]

section
variable {v : Vector α n} {pad : α} {xs : List α}

/-- The write at the cursor is the next value. -/
theorem Records.write (h : Records v pad xs) {i : Fin n} (hi : i.val = xs.length % n) (x : α) :
    Records (v.set i x i.isLt) pad (xs ++ [x]) := by
  have hn : 0 < n := i.pos
  unfold Records at h ⊢
  have hlen : v.toList.length = n := Vector.length_toList
  have hset : (v.set i x i.isLt).toList = v.toList.set (xs.length % v.toList.length) x := by
    rw [hlen, ← hi]
    exact Vector.toList_set ..
  rw [contents_append_singleton hn, ← h, hset, List.length_append, List.length_singleton]
  exact rotate_set v.toList xs.length x (by rw [hlen]; exact hn)

/-- The cell at the cursor is the oldest. -/
theorem Records.oldest (h : Records v pad xs) {i : Fin n} (hi : i.val = xs.length % n) :
    contents n pad xs = v.get i :: (contents n pad xs).tail := by
  unfold Records at h
  have hlen : v.toList.length = n := Vector.length_toList
  have hj : i.val < v.toList.length := by rw [hlen]; exact i.isLt
  rw [← h, ← List.rotate_mod, hlen, ← hi, List.rotate_eq_drop_append_take hj.le, List.drop_eq_getElem_cons hj,
    List.cons_append, List.tail_cons]
  rfl

/-- A scan over the cells meets the recorded values, in some order. -/
theorem Records.perm (h : Records v pad xs) : v.toList.Perm (contents n pad xs) := by
  unfold Records at h
  rw [← h]
  exact (List.rotate_perm _ _).symm

/-- A scan that skips the initial value sees only what was written. -/
theorem Records.filter_perm (h : Records v pad xs) (hp : p pad = false) :
    (v.toList.filter p).Perm ((latest n xs).filter p) := by
  have hfilter := h.perm.filter p
  rwa [contents_eq, List.filter_append, List.filter_replicate_of_neg (by simp [hp]), List.nil_append] at hfilter

theorem Records.countP (h : Records v pad xs) (hp : p pad = false) : v.toList.countP p = (latest n xs).countP p := by
  rw [List.countP_eq_length_filter, List.countP_eq_length_filter]
  exact (h.filter_perm hp).length_eq

end

end FluxWAN.RingBuffer
