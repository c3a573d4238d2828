/-
  Tables of records that are found by a key.

  A C program that keeps records in an array and looks them up by name has three ways to write: change the
  first record with the name in place (`alter`), append a record if there is room (`upsert`, which alters
  first), and close the gap of a deleted one (`remove`).

  1. **Data** — a `List R`, with `key : R → K`; nothing says that keys are distinct.
  2. **Meaning** — `lookup`, the partial function from keys to records that a linear search computes.
  3. **Laws** — every write is `Function.update` under `lookup` (`lookup_alter`, `lookup_upsert`,
     `lookup_remove`), keeps distinct keys distinct (`Distinct.…`), and leaves the sublist of the records
     with other keys as it was, in content and order (`others_…`).
-/
import Mathlib.Algebra.Group.Int.Defs
import Mathlib.Algebra.Group.Nat.Defs
import Mathlib.Data.Fintype.Card
import Mathlib.Logic.Function.Basic

namespace FluxWAN.KeyedTable

variable {K R : Type} [DecidableEq K] (key : R → K)

/-- The record that a linear search finds. -/
def lookup (t : List R) (k : K) : Option R := t.find? fun r => key r = k

/-- Change the first record with the key; none if there is none. -/
def alter (k : K) (f : R → R) : List R → Option (List R)
  | [] => none
  | r :: t => if key r = k then some (f r :: t) else (alter k f t).map (r :: ·)

/-- Overwrite the record with this key, or append; none if the table is full. -/
def upsert (cap : Nat) (r : R) (t : List R) : Option (List R) :=
  match alter key (key r) (fun _ => r) t with
  | some t' => some t'
  | none => if t.length < cap then some (t ++ [r]) else none

/-- Delete the first record with the key. -/
def remove (k : K) : List R → List R
  | [] => []
  | r :: t => if key r = k then t else r :: remove k t

/-- No two records have the same key. -/
def Distinct (t : List R) : Prop := (t.map key).Nodup

instance (t : List R) : Decidable (Distinct key t) := inferInstanceAs (Decidable (List.Nodup _))

/-- The records with other keys, in order. -/
def others (k : K) (t : List R) : List R := t.filter fun r => key r ≠ k

section
variable {key} {k k' : K} {f : R → R} {r : R} {t t' : List R} {cap : Nat}

theorem lookup_cons : lookup key (r :: t) k = if key r = k then some r else lookup key t k := by
  unfold lookup
  by_cases h : key r = k <;> simp [h]

theorem others_cons :
    others key k (r :: t) = if key r = k then others key k t else r :: others key k t := by
  unfold others
  by_cases h : key r = k <;> simp [h]

theorem lookup_eq_none_iff : lookup key t k = none ↔ k ∉ t.map key := by
  simp [lookup, List.find?_eq_none]

theorem mem_of_lookup (h : lookup key t k = some r) : r ∈ t := List.mem_of_find?_eq_some h

theorem key_of_lookup (h : lookup key t k = some r) : key r = k := by
  have := List.find?_some h
  simpa using this

/-! ## Altering -/

theorem alter_eq_none_iff : alter key k f t = none ↔ k ∉ t.map key := by
  induction t with
  | nil => simp [alter]
  | cons r t ih =>
    rw [alter, List.map_cons, List.mem_cons, not_or]
    by_cases h : key r = k
    · simp [h]
    · rw [if_neg h, Option.map_eq_none_iff, ih]
      exact ⟨fun hk => ⟨Ne.symm h, hk⟩, And.right⟩

/-- The record changed is the first with the key. -/
theorem alter_cases (h : alter key k f t = some t') :
    ∃ a r b, t = a ++ r :: b ∧ t' = a ++ f r :: b ∧ key r = k ∧ k ∉ a.map key := by
  induction t generalizing t' with
  | nil => cases h
  | cons r t ih =>
    rw [alter] at h
    split at h
    case isTrue hr => exact ⟨[], r, t, rfl, (Option.some.inj h).symm, hr, List.not_mem_nil⟩
    case isFalse hr =>
      obtain ⟨t₁, ht₁, rfl⟩ := Option.map_eq_some_iff.mp h
      obtain ⟨a, x, b, rfl, rfl, hx, ha⟩ := ih ht₁
      exact ⟨r :: a, x, b, rfl, rfl, hx, by simp [Ne.symm hr, ha]⟩

theorem map_key_alter (hf : ∀ r, key r = k → key (f r) = k) (h : alter key k f t = some t') :
    t'.map key = t.map key := by
  obtain ⟨a, r, b, rfl, rfl, hr, -⟩ := alter_cases h
  simp [hf r hr, hr]

theorem length_alter (h : alter key k f t = some t') : t'.length = t.length := by
  obtain ⟨a, r, b, rfl, rfl, -⟩ := alter_cases h
  simp

/-- Every record afterwards was there, or is the image of one that was. -/
theorem mem_alter (h : alter key k f t = some t') (hx : x ∈ t') : (∃ r ∈ t, f r = x) ∨ x ∈ t := by
  obtain ⟨a, r, b, rfl, rfl, -⟩ := alter_cases h
  simp only [List.mem_append, List.mem_cons] at hx ⊢
  rcases hx with hx | rfl | hx
  · exact .inr (.inl hx)
  · exact .inl ⟨r, .inr (.inl rfl), rfl⟩
  · exact .inr (.inr (.inr hx))

theorem others_alter (hf : ∀ r, key r = k → key (f r) = k) (h : alter key k f t = some t') :
    others key k t' = others key k t := by
  obtain ⟨a, r, b, rfl, rfl, hr, -⟩ := alter_cases h
  simp [others, hf r hr, hr]

theorem lookup_append_cons {a b : List R} (ha : k ∉ a.map key) (hr : key r = k) :
    lookup key (a ++ r :: b) k' = if k' = k then some r else lookup key (a ++ b) k' := by
  have hnone : a.find? (fun x => key x = k) = none := lookup_eq_none_iff.mpr ha
  by_cases hk : k' = k
  · simp [lookup, hk, hnone, hr]
  · simp [lookup, hk, hr, Ne.symm hk]

theorem lookup_alter (hf : ∀ r, key r = k → key (f r) = k) (h : alter key k f t = some t') :
    lookup key t' = Function.update (lookup key t) k ((lookup key t k).map f) := by
  obtain ⟨a, r, b, rfl, rfl, hr, ha⟩ := alter_cases h
  funext k'
  rw [lookup_append_cons ha (hf r hr), lookup_append_cons ha hr, if_pos rfl]
  by_cases hk : k' = k
  · rw [if_pos hk, hk, Function.update_self, Option.map_some]
  · rw [if_neg hk, Function.update_of_ne hk, lookup_append_cons ha hr, if_neg hk]

theorem Distinct.alter (h : Distinct key t) (hf : ∀ r, key r = k → key (f r) = k)
    (ht' : alter key k f t = some t') : Distinct key t' := by
  rw [Distinct, map_key_alter hf ht']
  exact h

/-! ## Renaming: altering the key itself -/

section
variable {k₁ : K} (hf : ∀ r, key r = k → key (f r) = k₁) (hd : Distinct key t) (h : alter key k f t = some t')
include hf hd h

/-- The keys around the one that goes, which is not among them. -/
theorem keys_rename : ∃ a b, t.map key = a ++ k :: b ∧ t'.map key = a ++ k₁ :: b ∧ k ∉ a ++ b ∧ (a ++ b).Nodup := by
  obtain ⟨a, r, b, rfl, rfl, hr, -⟩ := alter_cases h
  rw [Distinct, List.map_append, List.map_cons, List.nodup_middle, hr, List.nodup_cons] at hd
  exact ⟨a.map key, b.map key, by simp [hr], by simp [hf r hr], hd⟩

/-- The old key goes, the new one comes. -/
theorem mem_keys_rename : k' ∈ t'.map key ↔ k' = k₁ ∨ k' ∈ t.map key ∧ k' ≠ k := by
  obtain ⟨a, b, ht, ht', hk, -⟩ := keys_rename hf hd h
  have hne : k' ∈ a ++ b → k' ≠ k := fun hmem heq => hk (heq ▸ hmem)
  rw [ht, ht', List.mem_append, List.mem_append, List.mem_cons, List.mem_cons]
  rw [List.mem_append] at hne
  tauto

/-- A rename keeps keys distinct exactly when the new one is free, or the old one. -/
theorem distinct_rename_iff : Distinct key t' ↔ k₁ = k ∨ k₁ ∉ t.map key := by
  obtain ⟨a, b, ht, ht', hk, hnodup⟩ := keys_rename hf hd h
  have hmem : k₁ ∈ a ++ k :: b ↔ k₁ = k ∨ k₁ ∈ a ++ b := by
    simp only [List.mem_append, List.mem_cons]
    tauto
  rw [Distinct, ht', ht, List.nodup_middle, List.nodup_cons, hmem, and_iff_left hnodup]
  by_cases heq : k₁ = k
  · simp only [heq, hk, not_false_eq_true, true_or]
  · simp only [heq, false_or]

end

/-! ## Inserting -/

/-- An upsert overwrites the record in place or appends. -/
theorem upsert_cases (h : upsert key cap r t = some t') :
    alter key (key r) (fun _ => r) t = some t' ∨
      key r ∉ t.map key ∧ t.length < cap ∧ t' = t ++ [r] := by
  unfold upsert at h
  rcases halt : KeyedTable.alter key (key r) (fun _ => r) t with _ | t₁
  · rw [halt] at h
    split_ifs at h with hcap
    exact .inr ⟨alter_eq_none_iff.mp halt, hcap, (Option.some.inj h).symm⟩
  · rw [halt] at h
    exact .inl h

theorem upsert_eq_none_iff : upsert key cap r t = none ↔ key r ∉ t.map key ∧ cap ≤ t.length := by
  unfold upsert
  rcases halt : KeyedTable.alter key (key r) (fun _ => r) t with _ | t₁
  · have hmem := alter_eq_none_iff.mp halt
    simp [hmem]
  · have hmem : key r ∈ t.map key := by
      by_contra hmem
      rw [alter_eq_none_iff.mpr hmem] at halt
      exact nomatch halt
    simp [hmem]

theorem length_upsert_le (h : upsert key cap r t = some t') (ht : t.length ≤ cap) : t'.length ≤ cap := by
  rcases upsert_cases h with halt | ⟨-, hlt, rfl⟩
  · rw [length_alter halt]
    exact ht
  · rw [List.length_append, List.length_singleton]
    omega

theorem mem_upsert (h : upsert key cap r t = some t') (hx : x ∈ t') : x = r ∨ x ∈ t := by
  rcases upsert_cases h with halt | ⟨-, -, rfl⟩
  · rcases mem_alter halt hx with ⟨-, -, hr⟩ | hx
    · exact .inl hr.symm
    · exact .inr hx
  · rcases List.mem_append.mp hx with hx | hx
    · exact .inr hx
    · exact .inl (List.mem_singleton.mp hx)

theorem others_upsert (h : upsert key cap r t = some t') : others key (key r) t' = others key (key r) t := by
  rcases upsert_cases h with halt | ⟨-, -, rfl⟩
  · exact others_alter (fun _ _ => rfl) halt
  · simp [others]

theorem Distinct.upsert (h : Distinct key t) (ht' : upsert key cap r t = some t') : Distinct key t' := by
  rcases upsert_cases ht' with halt | ⟨hmem, -, rfl⟩
  · exact h.alter (fun _ _ => rfl) halt
  · rw [Distinct, List.map_append, List.map_singleton]
    exact List.nodup_append.mpr ⟨h, List.nodup_singleton _, by
      intro a ha b hb
      obtain rfl := List.mem_singleton.mp hb
      exact fun hab => hmem (hab ▸ ha)⟩

theorem lookup_upsert (h : upsert key cap r t = some t') :
    lookup key t' = Function.update (lookup key t) (key r) (some r) := by
  rcases upsert_cases h with halt | ⟨hmem, -, rfl⟩
  · rw [lookup_alter (fun _ _ => rfl) halt]
    rcases hlook : lookup key t (key r) with _ | r₀
    · rw [alter_eq_none_iff.mpr (lookup_eq_none_iff.mp hlook)] at halt
      exact nomatch halt
    · rfl
  · funext k'
    by_cases hk : k' = key r
    · subst hk
      have hnone := lookup_eq_none_iff.mpr hmem
      rw [Function.update_self, lookup, List.find?_append]
      simp [show List.find? (fun x => decide (key x = key r)) t = none from hnone]
    · rw [Function.update_of_ne hk, lookup, List.find?_append]
      simp [lookup, Ne.symm hk]

/-- The keys after an upsert. -/
theorem mem_keys_upsert (h : upsert key cap r t = some t') :
    k ∈ t'.map key ↔ k = key r ∨ k ∈ t.map key := by
  rw [← not_iff_not, not_or, ← lookup_eq_none_iff, lookup_upsert h, ← lookup_eq_none_iff]
  by_cases hk : k = key r
  · simp [hk]
  · simp [hk]

/-! ## Deleting -/

theorem remove_sublist : (remove key k t).Sublist t := by
  induction t with
  | nil => exact List.Sublist.refl _
  | cons r t ih =>
    rw [remove]
    split
    · exact List.sublist_cons_self r t
    · exact ih.cons_cons r

theorem remove_of_not_mem (h : k ∉ t.map key) : remove key k t = t := by
  induction t with
  | nil => rfl
  | cons r t ih =>
    obtain ⟨hr, ht⟩ := List.ne_and_not_mem_of_not_mem_cons h
    rw [remove, if_neg (Ne.symm hr), ih ht]

theorem length_remove_lt (h : k ∈ t.map key) : (remove key k t).length < t.length := by
  induction t with
  | nil => cases h
  | cons r t ih =>
    rw [remove]
    split
    case isTrue => exact Nat.lt_succ_self _
    case isFalse hr =>
      rw [List.map_cons, List.mem_cons] at h
      exact Nat.succ_lt_succ (ih (h.resolve_left (Ne.symm hr)))

theorem others_remove : others key k (remove key k t) = others key k t := by
  induction t with
  | nil => rfl
  | cons r t ih =>
    rw [remove]
    split
    case isTrue hr => rw [others_cons, if_pos hr]
    case isFalse hr => rw [others_cons, others_cons, ih]

theorem Distinct.remove (h : Distinct key t) : Distinct key (remove key k t) :=
  List.Nodup.sublist (remove_sublist.map key) h

theorem lookup_remove (h : Distinct key t) :
    lookup key (remove key k t) = Function.update (lookup key t) k none := by
  induction t with
  | nil =>
    funext k'
    by_cases hk : k' = k <;> simp [KeyedTable.remove, lookup, hk]
  | cons r t ih =>
    obtain ⟨hr, ht⟩ := List.nodup_cons.mp h
    funext k'
    rw [KeyedTable.remove]
    split
    case isTrue hk =>
      subst hk
      by_cases hk' : k' = key r
      · subst hk'
        rw [Function.update_self]
        exact lookup_eq_none_iff.mpr hr
      · rw [Function.update_of_ne hk', lookup_cons, if_neg (Ne.symm hk')]
    case isFalse hk =>
      rw [lookup_cons, ih ht]
      by_cases hk' : k' = k
      · subst hk'
        rw [if_neg hk, Function.update_self, Function.update_self]
      · rw [Function.update_of_ne hk', Function.update_of_ne hk', lookup_cons]

end

end FluxWAN.KeyedTable
