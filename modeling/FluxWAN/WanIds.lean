/-
  Are the ids distinct after a load?  (`src/config.c`: the loop "Ensure unique WAN IDs and routing table
  IDs" of `config_load`.)

  The loop is one left-to-right pass with a replacement from the position, `i + 1` for the id and
  `100 + i + 1` for the table: `Repair.repair`, once for each of the two fields.  The replacement may be the
  id of an EARLIER WAN of the file, and then both keep it: two WANs listed with id 2 leave the loop with
  id 2 and id 2.
-/
import FluxWAN.ConfigLoad
import FluxWAN.Lib.Repair

namespace FluxWAN

open CString Repair

/-- The WANs as the file lists them, with defaults for missing fields, before the loop. -/
def listedWans (json : CStr) : List WanConfig :=
  match findWansArray 0 json with
  | none => []
  | some (arrayStart, arrayEnd) => (objectSlices maxWans arrayStart arrayEnd).mapIdx loadWan

theorem loadWans_eq : loadWans json = (listedWans json).foldl (fun done wi => done ++ [uniqueIds done wi]) [] := by
  unfold loadWans listedWans
  cases findWansArray 0 json <;> rfl

theorem length_listedWans_le (json : CStr) : (listedWans json).length ≤ maxWans := by
  have h := length_loadWans_le json
  rwa [loadWans_eq, length_foldl_append_one, List.length_nil, Nat.zero_add] at h

/-- A field that a pass computes from the same field of the elements before can be followed by itself. -/
theorem map_foldl_append_one {α β γ : Type} {f : List β → α → β} {f' : List γ → γ → γ} {g : β → γ}
    {g' : α → γ} (h : ∀ done x, g (f done x) = f' (done.map g) (g' x)) (xs : List α) :
    ∀ acc : List β, (xs.foldl (fun done x => done ++ [f done x]) acc).map g =
      (xs.map g').foldl (fun done y => done ++ [f' done y]) (acc.map g) := by
  induction xs with
  | nil => intro acc; rfl
  | cons x xs ih =>
    intro acc
    rw [List.foldl_cons, ih, List.map_append, List.map_singleton, h, List.map_cons, List.foldl_cons]

/-! ## The two passes -/

/-- `wi->id = i + 1`. -/
def freshId (i : Nat) : UInt32 := UInt32.ofNat (i + 1)

/-- `wi->table_id = 100 + i + 1`. -/
def freshTableId (i : Nat) : UInt32 := UInt32.ofNat (100 + i + 1)

/-- The duplicate test of the loop. -/
theorem any_or_zero_iff {f : WanConfig → UInt32} {done : List WanConfig} {x : UInt32} :
    (done.any (f · = x) || decide (x = 0)) = true ↔ x ∈ done.map f ∨ decide (x = 0) = true := by
  rw [Bool.or_eq_true, List.any_eq_true, List.mem_map]
  simp only [decide_eq_true_eq]

theorem map_id_loadWans (json : CStr) :
    (loadWans json).map WanConfig.id = repair (· = 0) freshId ((listedWans json).map WanConfig.id) := by
  rw [loadWans_eq]
  refine map_foldl_append_one (fun done wi => ?_) _ []
  rw [repairOne, List.length_map]
  exact if_congr any_or_zero_iff rfl rfl

theorem map_tableId_loadWans (json : CStr) :
    (loadWans json).map WanConfig.tableId = repair (· = 0) freshTableId ((listedWans json).map WanConfig.tableId) := by
  rw [loadWans_eq]
  refine map_foldl_append_one (fun done wi => ?_) _ []
  rw [repairOne, List.length_map]
  exact if_congr any_or_zero_iff rfl rfl

/-- The pass over at most 256 values with replacements `base + i + 1`. -/
theorem nodup_repair_iff_of_le {xs : List UInt32}
    (hfresh : ∀ i < maxWans, (fresh i).toNat = base + i + 1) (hlen : xs.length ≤ maxWans) :
    (repair (· = 0) fresh xs).Nodup ↔ ∀ i, Replaced (· = 0) fresh xs i → fresh i ∉ xs.take i := by
  refine nodup_repair_iff (fun i hi => ?_) fun i hi j hj heq => ?_
  · rw [decide_eq_false_iff_not]
    intro hzero
    have := congrArg UInt32.toNat hzero
    rw [hfresh i (hi.trans_le hlen)] at this
    exact absurd this (Nat.succ_ne_zero _)
  · have := congrArg UInt32.toNat heq
    rw [hfresh i (hi.trans_le hlen), hfresh j (hj.trans_le hlen)] at this
    omega

theorem toNat_freshId (i : Nat) (hi : i < maxWans) : (freshId i).toNat = 0 + i + 1 := by
  have hi : i < 256 := hi
  rw [Nat.zero_add]
  exact UInt32.toNat_ofNat_of_lt' (show i + 1 < 4294967296 by omega)

theorem toNat_freshTableId (i : Nat) (hi : i < maxWans) : (freshTableId i).toNat = 100 + i + 1 := by
  have hi : i < 256 := hi
  exact UInt32.toNat_ofNat_of_lt' (show 100 + i + 1 < 4294967296 by omega)

/-- No WAN whose listed id (or table) is 0 or taken is moved to one that an earlier WAN lists. -/
structure NoLateClash (wans : List WanConfig) : Prop where
  id : ∀ i, Replaced (· = 0) freshId (wans.map WanConfig.id) i →
    freshId i ∉ (wans.map WanConfig.id).take i
  table : ∀ i, Replaced (· = 0) freshTableId (wans.map WanConfig.tableId) i →
    freshTableId i ∉ (wans.map WanConfig.tableId).take i

/-- After a load the ids and the routing tables are distinct exactly when no replacement clashes with an
    earlier entry of the file. -/
theorem configLoad_ids_distinct_iff {file : List Char} {c : Config} (hc : configLoad file = some c) :
    (c.wans.map WanConfig.id).Nodup ∧ (c.wans.map WanConfig.tableId).Nodup ↔
      NoLateClash (listedWans (cstr file)) := by
  have hwans : c.wans = loadWans (cstr file) := by
    unfold configLoad at hc
    split at hc
    · cases hc
    · cases hc
      rfl
  have hlen := length_listedWans_le (cstr file)
  rw [hwans, map_id_loadWans, map_tableId_loadWans, nodup_repair_iff_of_le toNat_freshId (by rwa [List.length_map]),
    nodup_repair_iff_of_le toNat_freshTableId (by rwa [List.length_map])]
  exact ⟨fun h => ⟨h.1, h.2⟩, fun h => ⟨h.id, h.table⟩⟩

/-- Two WANs with the given fields. -/
def twoWanFile (first second : String) : List Char :=
  "\"wans\":[\x7b".toList ++ first.toList ++ "\x7d,\x7b".toList ++ second.toList ++ "\x7d]".toList

/-- Both WANs listed with id 1: the second one moves to id 2. -/
theorem configLoad_ids_distinct_twoWanFile :
    ∃ c, configLoad (twoWanFile "\"id\":1" "\"id\":1") = some c ∧
      (c.wans.map WanConfig.id).Nodup ∧ (c.wans.map WanConfig.tableId).Nodup := by
  obtain ⟨c, hc⟩ : ∃ c, configLoad (twoWanFile "\"id\":1" "\"id\":1") = some c := ⟨_, rfl⟩
  refine ⟨c, hc, (configLoad_ids_distinct_iff hc).mpr ?_⟩
  have hids : (listedWans (cstr (twoWanFile "\"id\":1" "\"id\":1"))).map WanConfig.id = [1, 1] := by
    decide
  have htables : (listedWans (cstr (twoWanFile "\"id\":1" "\"id\":1"))).map WanConfig.tableId = [101, 102] := by
    decide
  refine ⟨fun i hi => ?_, fun i hi => ?_⟩
  · have hlt := hi.lt
    rw [hids] at hlt ⊢
    match i, hlt with
    | 0, _ => decide
    | 1, _ => decide
  · have hlt := hi.lt
    rw [htables] at hlt ⊢
    match i, hlt with
    | 0, _ => decide
    | 1, _ => decide

/-- Both WANs listed with id 2: the second one moves to id 2. -/
theorem configLoad_ids_not_distinct :
    ∃ c, configLoad (twoWanFile "\"id\":2" "\"id\":2") = some c ∧
      ¬ ((c.wans.map WanConfig.id).Nodup ∧ (c.wans.map WanConfig.tableId).Nodup) := by
  refine ⟨_, rfl, fun h => ?_⟩
  have hids : (loadWans (cstr (twoWanFile "\"id\":2" "\"id\":2"))).map WanConfig.id = [2, 2] := by
    decide
  have hnodup : ((loadWans (cstr (twoWanFile "\"id\":2" "\"id\":2"))).map WanConfig.id).Nodup := h.1
  rw [hids] at hnodup
  exact absurd hnodup (by decide)

end FluxWAN
