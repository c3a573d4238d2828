/-
  `BPF_MAP_TYPE_HASH`: at most `cap` entries, one per key.

  An update of a present key overwrites its value; an update of a new key adds an entry if there is room, and
  fails without an effect if the map is full.  A program that writes through the pointer of a lookup updates a
  present key.
-/
import FluxWAN.Lib.KeyedTable

namespace FluxWAN.BpfMap

/-- The entries, in no particular order. -/
abbrev Hash (K V : Type) := List (K × V)

namespace Hash

variable {K V : Type} [DecidableEq K]

def lookup (m : Hash K V) (k : K) : Option V := (KeyedTable.lookup Prod.fst m k).map Prod.snd

/-- `bpf_map_update_elem` with `BPF_ANY`, its return code ignored. -/
def update (cap : Nat) (m : Hash K V) (k : K) (v : V) : Hash K V :=
  (KeyedTable.upsert Prod.fst cap (k, v) m).getD m

section
variable {cap : Nat} {m : Hash K V} {k : K} {v : V}

theorem lookup_eq_none_iff : m.lookup k = none ↔ k ∉ m.map Prod.fst := by
  rw [lookup, Option.map_eq_none_iff, KeyedTable.lookup_eq_none_iff]

theorem mem_keys_of_lookup (h : m.lookup k = some v) : k ∈ m.map Prod.fst := by
  by_contra hk
  exact nomatch h.symm.trans (lookup_eq_none_iff.mpr hk)

/-- An update succeeds if the key is there or the map has room. -/
theorem upsert_of_room (h : k ∈ m.map Prod.fst ∨ m.length < cap) :
    KeyedTable.upsert Prod.fst cap (k, v) m = some (m.update cap k v) := by
  unfold update
  rcases hups : KeyedTable.upsert Prod.fst cap (k, v) m with _ | m'
  · obtain ⟨hk, hfull⟩ := KeyedTable.upsert_eq_none_iff.mp hups
    rcases h with h | h
    · exact absurd h hk
    · omega
  · rfl

theorem lookup_update (h : k ∈ m.map Prod.fst ∨ m.length < cap) :
    (m.update cap k v).lookup = Function.update m.lookup k (some v) := by
  have hups := upsert_of_room (v := v) h
  funext k'
  unfold lookup
  rw [KeyedTable.lookup_upsert hups]
  by_cases hk : k' = k
  · subst hk
    simp
  · rw [Function.update_of_ne hk, Function.update_of_ne hk]

/-- A full map takes no new key. -/
theorem update_of_full (hk : k ∉ m.map Prod.fst) (hfull : cap ≤ m.length) : m.update cap k v = m := by
  rw [update, KeyedTable.upsert_eq_none_iff.mpr ⟨hk, hfull⟩]
  rfl

/-- Other keys are never touched. -/
theorem lookup_update_of_ne (hk : k' ≠ k) : (m.update cap k v).lookup k' = m.lookup k' := by
  by_cases h : k ∈ m.map Prod.fst ∨ m.length < cap
  · rw [lookup_update h, Function.update_of_ne hk]
  · obtain ⟨hmem, hroom⟩ := not_or.mp h
    rw [update_of_full hmem (not_lt.mp hroom)]

/-- What is found after an update was there before or is the new value. -/
theorem lookup_update_cases (h : (m.update cap k v).lookup k' = some x) : (k' = k ∧ x = v) ∨ m.lookup k' = some x := by
  by_cases hk : k' = k
  · subst hk
    by_cases hroom : k' ∈ m.map Prod.fst ∨ m.length < cap
    · rw [lookup_update hroom, Function.update_self] at h
      exact .inl ⟨rfl, (Option.some.inj h).symm⟩
    · obtain ⟨hmem, hfull⟩ := not_or.mp hroom
      rw [update_of_full hmem (not_lt.mp hfull)] at h
      exact .inr h
  · rw [lookup_update_of_ne hk] at h
    exact .inr h

/-- The keys after an update are among the old ones and the new one. -/
theorem mem_keys_update (h : k' ∈ (m.update cap k v).map Prod.fst) : k' = k ∨ k' ∈ m.map Prod.fst := by
  by_cases hroom : k ∈ m.map Prod.fst ∨ m.length < cap
  · exact (KeyedTable.mem_keys_upsert (upsert_of_room (v := v) hroom)).mp h
  · obtain ⟨hmem, hfull⟩ := not_or.mp hroom
    rw [update_of_full hmem (not_lt.mp hfull)] at h
    exact .inr h

/-- The keys in order: an update appends a new key if there is room, and changes nothing else. -/
theorem keys_update : (m.update cap k v).map Prod.fst =
    if k ∉ m.map Prod.fst ∧ m.length < cap then m.map Prod.fst ++ [k] else m.map Prod.fst := by
  by_cases hmem : k ∈ m.map Prod.fst
  · have hups : KeyedTable.upsert Prod.fst cap (k, v) m = some (m.update cap k v) := upsert_of_room (.inl hmem)
    rw [if_neg fun h => h.1 hmem]
    rcases KeyedTable.upsert_cases hups with halt | ⟨habs, -, -⟩
    · exact KeyedTable.map_key_alter (fun _ _ => rfl) halt
    · exact absurd hmem habs
  · by_cases hroom : m.length < cap
    · have hups : KeyedTable.upsert Prod.fst cap (k, v) m = some (m.update cap k v) := upsert_of_room (.inr hroom)
      rw [if_pos ⟨hmem, hroom⟩]
      rcases KeyedTable.upsert_cases hups with halt | ⟨-, -, heq⟩
      · have hnone : KeyedTable.alter Prod.fst k (fun _ => (k, v)) m = none :=
          KeyedTable.alter_eq_none_iff.mpr hmem
        exact nomatch hnone.symm.trans halt
      · rw [heq, List.map_append, List.map_singleton]
    · rw [if_neg fun h => hroom h.2, update_of_full hmem (not_lt.mp hroom)]

theorem distinct_update (h : KeyedTable.Distinct Prod.fst m) :
    KeyedTable.Distinct Prod.fst (m.update cap k v) := by
  by_cases hroom : k ∈ m.map Prod.fst ∨ m.length < cap
  · exact h.upsert (upsert_of_room (v := v) hroom)
  · obtain ⟨hmem, hfull⟩ := not_or.mp hroom
    rwa [update_of_full hmem (not_lt.mp hfull)]

end

end Hash

end FluxWAN.BpfMap
