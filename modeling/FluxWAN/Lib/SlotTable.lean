/-
  Partially filled slot tables.

  A consistent-hash ring is built by CLAIMING vacant slots of a fixed-size table one at a time until
  none is left.  Everything such a construction has to say about the table itself is here, for an
  arbitrary slot type and an arbitrary table size:

  * `filled v t`  — the set of slots of `t` that no longer hold the vacancy marker `v`;
  * a claim adds exactly the claimed slot (`filled_set`, `card_filled_set`);
  * a table with as many filled slots as slots has no vacancy left (`ne_of_card_filled`);
  * `FilledBy`    — every filled slot holds a value of a given kind, kept by claims and by the
                    final sweep `fillVacant` that hands all remaining vacancies to one value;
  * `Kept`        — one table extends another: no claimed slot is ever handed out again.
-/
import Mathlib.Data.Fintype.Card
import Mathlib.Data.Vector.Basic

namespace FluxWAN.SlotTable

variable {α : Type} {n : Nat}

/-! ## The filled slots -/

/-- The slots of `t` that do not hold the vacancy marker. -/
def filled [DecidableEq α] (vacant : α) (t : Vector α n) : Finset (Fin n) :=
  Finset.univ.filter fun i => t[i] ≠ vacant

@[simp] theorem mem_filled [DecidableEq α] {vacant : α} {t : Vector α n} {i : Fin n} :
    i ∈ filled vacant t ↔ t[i] ≠ vacant := by
  simp [filled]

/-- A fresh table has no filled slot. -/
@[simp] theorem filled_replicate [DecidableEq α] (vacant : α) :
    filled vacant (Vector.replicate n vacant) = ∅ := by
  ext i; simp

/-- Reading a table after one slot was written. -/
theorem getElem_set_fin (t : Vector α n) (i j : Fin n) (x : α) :
    (t.set i x)[j] = if i = j then x else t[j] := by
  show (t.set i.val x i.isLt)[j.val] = _
  rw [Vector.getElem_set]
  simp [Fin.ext_iff]

/-- A claim fills the claimed slot and no other. -/
theorem filled_set [DecidableEq α] {vacant x : α} {t : Vector α n} {i : Fin n}
    (hx : x ≠ vacant) :
    filled vacant (t.set i x) = insert i (filled vacant t) := by
  ext j
  rw [mem_filled, getElem_set_fin, Finset.mem_insert, mem_filled]
  by_cases h : i = j
  · subst h; simp [hx]
  · rw [if_neg h]
    exact ⟨Or.inr, fun hj => hj.resolve_left (fun e => h e.symm)⟩

/-- Claiming a VACANT slot raises the number of filled slots by one. -/
theorem card_filled_set [DecidableEq α] {vacant x : α} {t : Vector α n} {i : Fin n}
    (hx : x ≠ vacant) (hi : t[i] = vacant) :
    (filled vacant (t.set i x)).card = (filled vacant t).card + 1 := by
  rw [filled_set hx, Finset.card_insert_of_notMem]
  rw [mem_filled]; exact fun h => h hi

theorem card_filled_le [DecidableEq α] (vacant : α) (t : Vector α n) : (filled vacant t).card ≤ n := by
  simpa using Finset.card_le_univ (filled vacant t)

/-- As many filled slots as slots: nothing is vacant. -/
theorem ne_of_card_filled [DecidableEq α] {vacant : α} {t : Vector α n}
    (h : (filled vacant t).card = n) (i : Fin n) : t[i] ≠ vacant := by
  have huniv : filled vacant t = Finset.univ := by
    rw [← Finset.card_eq_iff_eq_univ, h, Fintype.card_fin]
  rw [← mem_filled, huniv]; exact Finset.mem_univ i

/-! ## What the filled slots hold -/

/-- Every filled slot holds a value with the property `P`. -/
def FilledBy (vacant : α) (P : α → Prop) (t : Vector α n) : Prop :=
  ∀ i : Fin n, t[i] ≠ vacant → P t[i]

theorem FilledBy.replicate (vacant : α) (P : α → Prop) :
    FilledBy vacant P (Vector.replicate n vacant) := by
  intro i hi; simp at hi

theorem FilledBy.set {vacant x : α} {P : α → Prop} {t : Vector α n} (h : FilledBy vacant P t)
    (hx : P x) (i : Fin n) : FilledBy vacant P (t.set i x) := by
  intro j hj
  rw [getElem_set_fin] at hj ⊢
  by_cases hij : i = j
  · rw [if_pos hij]; exact hx
  · rw [if_neg hij] at hj ⊢; exact h j hj

/-- Hand every remaining vacancy to `x`. -/
def fillVacant [DecidableEq α] (vacant x : α) (t : Vector α n) : Vector α n :=
  t.map fun y => if y = vacant then x else y

theorem getElem_fillVacant [DecidableEq α] (vacant x : α) (t : Vector α n) (i : Fin n) :
    (fillVacant vacant x t)[i] = if t[i] = vacant then x else t[i] := by
  simp [fillVacant]

/-- After the sweep EVERY slot has the property, not only the ones filled before it. -/
theorem FilledBy.fillVacant [DecidableEq α] {vacant x : α} {P : α → Prop} {t : Vector α n}
    (h : FilledBy vacant P t) (hx : P x) (i : Fin n) :
    P (SlotTable.fillVacant vacant x t)[i] := by
  rw [getElem_fillVacant]
  split
  · exact hx
  · rename_i hi; exact h i hi

/-! ## Claimed slots stay claimed -/

/-- `t'` extends `t`: a slot filled in `t` holds the same value in `t'`. -/
def Kept (vacant : α) (t t' : Vector α n) : Prop :=
  ∀ i : Fin n, t[i] ≠ vacant → t'[i] = t[i]

theorem Kept.refl (vacant : α) (t : Vector α n) : Kept vacant t t := fun _ _ => rfl

theorem Kept.trans (h : Kept vacant t t') (h' : Kept vacant t' t'') : Kept vacant t t'' := by
  intro i hi
  have h1 := h i hi
  rw [h' i (by rw [h1]; exact hi), h1]

theorem Kept.set {vacant : α} {t : Vector α n} {i : Fin n} (hi : t[i] = vacant) (x : α) :
    Kept vacant t (t.set i x) := by
  intro j hj
  rw [getElem_set_fin, if_neg]
  rintro rfl; exact hj hi

theorem Kept.fillVacant [DecidableEq α] (vacant x : α) (t : Vector α n) :
    Kept vacant t (SlotTable.fillVacant vacant x t) := by
  intro i hi; rw [getElem_fillVacant, if_neg hi]

end FluxWAN.SlotTable
