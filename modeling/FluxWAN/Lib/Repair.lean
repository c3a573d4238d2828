/-
  Making the values of a list distinct in ONE pass: a value that is not allowed, or already taken by an
  element before it, is replaced by a value computed from its position.

  The replacement is not checked against the values already taken.  `nodup_repair_iff` says when the pass
  does its job: no replaced element gets a value that the INPUT has at an earlier position.  Clashes with
  later elements do no harm, since those are then replaced themselves.
-/
import Mathlib.Data.Fintype.Card
import Mathlib.Data.List.Infix

namespace FluxWAN.Repair

variable {α : Type}

/-- The value an element ends up with, after the elements `done`. -/
def repairOne [DecidableEq α] (bad : α → Bool) (fresh : Nat → α) (done : List α) (x : α) : α :=
  if x ∈ done ∨ bad x = true then fresh done.length else x

/-- The whole pass, left to right. -/
def repair [DecidableEq α] (bad : α → Bool) (fresh : Nat → α) (xs : List α) : List α :=
  xs.foldl (fun done x => done ++ [repairOne bad fresh done x]) []

/-- Element `i` gets replaced: it is not allowed, it occurs before, or it is what an earlier element was
    replaced by. -/
inductive Replaced (bad : α → Bool) (fresh : Nat → α) (xs : List α) : Nat → Prop
  | bad {i : Nat} {x : α} : xs[i]? = some x → bad x = true → Replaced bad fresh xs i
  | seen {i : Nat} {x : α} : xs[i]? = some x → x ∈ xs.take i → Replaced bad fresh xs i
  | clash {i k : Nat} : xs[i]? = some (fresh k) → k < i → Replaced bad fresh xs k →
      Replaced bad fresh xs i

section
variable {bad : α → Bool} {fresh : Nat → α} {xs : List α}

theorem Replaced.lt (h : Replaced bad fresh xs i) : i < xs.length := by
  cases h with
  | bad hi _ => exact (List.getElem?_eq_some_iff.mp hi).1
  | seen hi _ => exact (List.getElem?_eq_some_iff.mp hi).1
  | clash hi _ _ => exact (List.getElem?_eq_some_iff.mp hi).1

/-- What happens to an element depends on the ones up to it. -/
theorem replaced_append_iff (hi : i < xs.length) : Replaced bad fresh (xs ++ ys) i ↔ Replaced bad fresh xs i := by
  constructor
  · intro h
    induction h with
    | bad hget hbad => exact .bad (List.getElem?_append_left hi ▸ hget) hbad
    | seen hget hmem =>
      exact .seen (List.getElem?_append_left hi ▸ hget) (List.take_append_of_le_length hi.le ▸ hmem)
    | clash hget hk _ ih => exact .clash (List.getElem?_append_left hi ▸ hget) hk (ih (hk.trans hi))
  · intro h
    induction h with
    | bad hget hbad => exact .bad ((List.getElem?_append_left hi).trans hget) hbad
    | seen hget hmem =>
      exact .seen ((List.getElem?_append_left hi).trans hget)
        ((List.take_append_of_le_length hi.le).symm ▸ hmem)
    | clash hget hk _ ih => exact .clash ((List.getElem?_append_left hi).trans hget) hk (ih (hk.trans hi))

theorem replaced_last_iff :
    Replaced bad fresh (xs ++ [x]) xs.length ↔
      bad x = true ∨ x ∈ xs ∨ ∃ k < xs.length, Replaced bad fresh xs k ∧ x = fresh k := by
  have hlast : ∀ y, (xs ++ [x])[xs.length]? = some y ↔ x = y := fun y => by simp
  constructor
  · intro h
    cases h with
    | bad hget hbad => exact .inl ((hlast _).mp hget ▸ hbad)
    | seen hget hmem =>
      rw [List.take_left] at hmem
      exact .inr (.inl ((hlast _).mp hget ▸ hmem))
    | clash hget hk hrep => exact .inr (.inr ⟨_, hk, (replaced_append_iff hk).mp hrep, (hlast _).mp hget⟩)
  · rintro (hbad | hmem | ⟨k, hk, hrep, hx⟩)
    · exact .bad ((hlast x).mpr rfl) hbad
    · refine .seen ((hlast x).mpr rfl) ?_
      rwa [List.take_left]
    · exact .clash ((hlast _).mpr hx) hk ((replaced_append_iff hk).mpr hrep)

variable [DecidableEq α]

theorem repair_append_one (x : α) :
    repair bad fresh (xs ++ [x]) = repair bad fresh xs ++ [repairOne bad fresh (repair bad fresh xs) x] := by
  rw [repair, List.foldl_append]
  rfl

theorem length_repair (xs : List α) : (repair bad fresh xs).length = xs.length := by
  induction xs using List.reverseRecOn with
  | nil => rfl
  | append_singleton xs x ih => rw [repair_append_one, List.length_append, ih, List.length_append]; rfl

/-- The values taken so far: those of the input, and the replacements. -/
theorem mem_repair_iff :
    y ∈ repair bad fresh xs ↔
      (y ∈ xs ∧ bad y = false) ∨ ∃ k < xs.length, Replaced bad fresh xs k ∧ y = fresh k := by
  induction xs using List.reverseRecOn generalizing y with
  | nil => simp [repair]
  | append_singleton xs x ih =>
    have hrep : Replaced bad fresh (xs ++ [x]) xs.length ↔
        x ∈ repair bad fresh xs ∨ bad x = true := by
      rw [replaced_last_iff, ih]
      cases hb : bad x <;> simp
    have hold : (∃ k < (xs ++ [x]).length, Replaced bad fresh (xs ++ [x]) k ∧ y = fresh k) ↔
        (∃ k < xs.length, Replaced bad fresh xs k ∧ y = fresh k) ∨
          (Replaced bad fresh (xs ++ [x]) xs.length ∧ y = fresh xs.length) := by
      rw [List.length_append, List.length_singleton]
      constructor
      · rintro ⟨k, hk, hr, hy⟩
        rcases Nat.lt_succ_iff_lt_or_eq.mp hk with hlt | heq
        · exact .inl ⟨k, hlt, (replaced_append_iff hlt).mp hr, hy⟩
        · exact .inr ⟨heq ▸ hr, heq ▸ hy⟩
      · rintro (⟨k, hk, hr, hy⟩ | ⟨hr, hy⟩)
        · exact ⟨k, by omega, (replaced_append_iff hk).mpr hr, hy⟩
        · exact ⟨xs.length, by omega, hr, hy⟩
    rw [repair_append_one, List.mem_append, List.mem_singleton, hold, hrep, repairOne, length_repair,
      List.mem_append, List.mem_singleton, ih]
    split
    · rename_i h
      -- a replaced value of the input is either not allowed or taken already
      constructor
      · rintro (hy | hy)
        · rcases hy with ⟨hy, hb⟩ | hy
          · exact .inl ⟨.inl hy, hb⟩
          · exact .inr (.inl hy)
        · exact .inr (.inr ⟨h, hy⟩)
      · rintro (⟨hy | hy, hb⟩ | hy | ⟨_, hy⟩)
        · exact .inl (.inl ⟨hy, hb⟩)
        · subst hy
          rcases h with h | h
          · exact .inl (ih.mp h)
          · rw [h] at hb; cases hb
        · exact .inl (.inr hy)
        · exact .inr hy
    · rename_i h
      have hb : bad x = false := Bool.eq_false_iff.mpr fun hx => h (.inr hx)
      constructor
      · rintro (hy | hy)
        · rcases hy with ⟨hy, hb⟩ | hy
          · exact .inl ⟨.inl hy, hb⟩
          · exact .inr (.inl hy)
        · exact .inl ⟨.inr hy, hy ▸ hb⟩
      · rintro (⟨hy | hy, hb⟩ | hy | ⟨hr, _⟩)
        · exact .inl (.inl ⟨hy, hb⟩)
        · exact .inr hy
        · exact .inl (.inr hy)
        · exact absurd hr h

theorem replaced_last_iff_mem : Replaced bad fresh (xs ++ [x]) xs.length ↔ x ∈ repair bad fresh xs ∨ bad x = true := by
  rw [replaced_last_iff, mem_repair_iff]
  cases hb : bad x <;> simp

/-- The pass makes the values distinct exactly when no replacement is a value the input has before. -/
theorem nodup_repair_iff (hbad : ∀ i < xs.length, bad (fresh i) = false)
    (hinj : ∀ i < xs.length, ∀ j < xs.length, fresh i = fresh j → i = j) :
    (repair bad fresh xs).Nodup ↔ ∀ i, Replaced bad fresh xs i → fresh i ∉ xs.take i := by
  induction xs using List.reverseRecOn with
  | nil => exact ⟨fun _ i h => absurd h.lt (Nat.not_lt_zero i), fun _ => List.nodup_nil⟩
  | append_singleton xs x ih =>
    have hlen : (xs ++ [x]).length = xs.length + 1 := by rw [List.length_append]; rfl
    have ih := ih (fun i hi => hbad i (by omega)) fun i hi j hj => hinj i (by omega) j (by omega)
    -- the new value is free unless it is a replacement that the input has
    have hnew : repairOne bad fresh (repair bad fresh xs) x ∉ repair bad fresh xs ↔
        (Replaced bad fresh (xs ++ [x]) xs.length → fresh xs.length ∉ xs) := by
      rw [repairOne, length_repair, replaced_last_iff_mem]
      split
      · rename_i h
        have hmem : fresh xs.length ∈ repair bad fresh xs ↔ fresh xs.length ∈ xs := by
          rw [mem_repair_iff]
          constructor
          · rintro (⟨hm, _⟩ | ⟨k, hk, _, heq⟩)
            · exact hm
            · have := hinj xs.length (by omega) k (by omega) heq
              omega
          · exact fun hm => .inl ⟨hm, hbad _ (by omega)⟩
        rw [hmem]
        exact ⟨fun hn _ => hn, fun hn => hn h⟩
      · rename_i h
        exact ⟨fun _ hr => absurd hr h, fun _ hm => h (.inl hm)⟩
    rw [repair_append_one, List.nodup_append_comm, List.singleton_append, List.nodup_cons, hnew, ih]
    constructor
    · rintro ⟨hlast, hold⟩ i hi
      have hlt := hi.lt
      rcases Nat.lt_succ_iff_lt_or_eq.mp (hlen ▸ hlt) with h | h
      · rw [List.take_append_of_le_length h.le]
        exact hold i ((replaced_append_iff h).mp hi)
      · rw [h, List.take_left]
        exact hlast (h ▸ hi)
    · intro hall
      refine ⟨fun hr => ?_, fun i hi => ?_⟩
      · have := hall _ hr
        rwa [List.take_left] at this
      · have := hall i ((replaced_append_iff hi.lt).mpr hi)
        rwa [List.take_append_of_le_length hi.lt.le] at this

end

end FluxWAN.Repair
