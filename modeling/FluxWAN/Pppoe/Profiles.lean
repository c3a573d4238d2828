/-
  References from subscribers to profiles.

  A subscriber names its profile; nothing but the operations keeps the name alive.  `Linked` says that
  profile names are distinct and every subscriber's profile exists.

  1. **Exactly** — a rename keeps it if and only if the new name is free, a deletion if and only if nobody
     has the profile (`linked_renameProfile_iff`, `linked_deleteProfile_iff`).  The source checks neither.
  2. **Import** — creates the profiles that its rows name, as long as there is room: `Importing` carries
     the references through the two loops, and a set of all names involved, which is what room is
     counted against (`length_lt_of_subset`).
  3. **Runs** — `linked_run`: the references survive every sequence of operations that are `Careful` when
     their turn comes.
-/
import FluxWAN.Pppoe.Subscribers

namespace FluxWAN.Pppoe

open CString KeyedTable

variable {old : CStr} {all : Finset CStr}

/-! ## References -/

variable (cfg : PppoeServerConfig)

/-- The names of the profiles. -/
def profileNames : List CStr := cfg.profiles.map PppoeProfile.name

/-- Profile names are distinct, and every subscriber has an existing profile. -/
structure Linked : Prop where
  distinct : Distinct PppoeProfile.name cfg.profiles
  resolved : ∀ u ∈ cfg.users, u.profile ∈ profileNames cfg

/-- A row that the import takes. -/
def Accepted (u : PppoeUser) : Prop := u.username ≠ [] ∧ u.password ≠ []

instance (u : PppoeUser) : Decidable (Accepted u) := inferInstanceAs (Decidable (_ ∧ _))

/-- All profile names that play a role in an import: those that are kept, and those that come with it. -/
def importNames (users : List PppoeUser) (profs : List PppoeProfile) (replaceMode : Bool) : Finset CStr :=
  (profileNames (cleared cfg replaceMode profs) ++ ((profs.filter fun p => p.name ≠ []).map PppoeProfile.name ++
      (users.filter Accepted).map PppoeUser.profile)).toFinset

/-- An operation that respects the references: what it assigns exists, what it deletes is not in use, what
    it renames does not collide, and what it imports names a profile for which there is room. -/
def Careful : Op → Prop
  | .setUser _ _ user => user.username ≠ [] → user.profile ∈ profileNames cfg
  | .renewUser _ _ _ newProfile => ∀ p ∈ newProfile, p ≠ [] → copyInto 64 p ∈ profileNames cfg
  | .deleteProfile name => name ≠ [] → ∀ u ∈ cfg.users, u.profile ≠ name
  | .renameProfile old new => old ≠ [] → new ≠ [] → old ∈ profileNames cfg →
      copyInto 64 new = old ∨ copyInto 64 new ∉ profileNames cfg
  | .bulkImport _ users profs replaceMode _ =>
    (∀ u ∈ users, Accepted u → u.profile ≠ []) ∧
      (importNames cfg users profs replaceMode).card ≤ maxPppoeProfiles
  | _ => True

section
variable {cfg} {cfg' : PppoeServerConfig}

/-- Each operation is careful when its turn comes. -/
def CarefulRun : PppoeServerConfig → List Op → Prop
  | _, [] => True
  | cfg, op :: ops => Careful cfg op ∧ CarefulRun (op.apply cfg) ops

instance : ∀ op, Decidable (Careful cfg op)
  | .setUser _ _ _ => inferInstanceAs (Decidable (_ → _))
  | .deleteUser _ => inferInstanceAs (Decidable True)
  | .renewUser _ _ _ newProfile =>
    inferInstanceAs (Decidable (∀ p ∈ newProfile, p ≠ [] → copyInto 64 p ∈ profileNames cfg))
  | .toggleUser _ _ => inferInstanceAs (Decidable True)
  | .setProfile _ => inferInstanceAs (Decidable True)
  | .deleteProfile _ => inferInstanceAs (Decidable (_ → _))
  | .renameProfile _ _ => inferInstanceAs (Decidable (_ → _))
  | .bulkImport _ _ _ _ _ => inferInstanceAs (Decidable (_ ∧ _))

instance decidableCarefulRun : ∀ cfg ops, Decidable (CarefulRun cfg ops)
  | _, [] => inferInstanceAs (Decidable True)
  | cfg, op :: ops =>
    have := decidableCarefulRun (op.apply cfg) ops
    inferInstanceAs (Decidable (_ ∧ _))

/-- Names that stay, and subscribers whose profiles are among them. -/
theorem Linked.of_users (h : Linked cfg) (hprof : cfg'.profiles = cfg.profiles)
    (husers : ∀ u ∈ cfg'.users, u.profile ∈ profileNames cfg) : Linked cfg' := by
  refine ⟨by rw [hprof]; exact h.distinct, ?_⟩
  intro u hu
  rw [profileNames, hprof]
  exact husers u hu

theorem Linked.putUser (h : Linked cfg) {u : PppoeUser} (hu : u.profile ∈ profileNames cfg)
    (hput : putUser cfg u = some cfg') : Linked cfg' := by
  obtain ⟨hups, hprof⟩ := putUser_spec hput
  refine h.of_users hprof fun v hv => ?_
  rcases mem_upsert hups hv with rfl | hv
  · exact hu
  · exact h.resolved v hv

theorem Linked.putProfile (h : Linked cfg) (hput : putProfile cfg p = some cfg') : Linked cfg' := by
  obtain ⟨hups, husers⟩ := putProfile_spec hput
  refine ⟨h.distinct.upsert hups, ?_⟩
  intro u hu
  rw [husers] at hu
  exact (mem_keys_upsert hups).mpr (.inr (h.resolved u hu))

theorem Linked.alterUser (h : Linked cfg)
    (hf : ∀ u ∈ cfg.users, (f u).profile ∈ profileNames cfg) (halt : alterUser cfg name f = some cfg') :
    Linked cfg' := by
  obtain ⟨halt, hprof⟩ := alterUser_spec halt
  refine h.of_users hprof fun v hv => ?_
  rcases mem_alter halt hv with ⟨u, hu, rfl⟩ | hv
  · exact hf u hu
  · exact h.resolved v hv

theorem renamedProfiles_of_not_mem (new : CStr) (h : old ∉ profileNames cfg) :
    renamedProfiles cfg old new = cfg.profiles := by
  rw [renamedProfiles, alter_eq_none_iff.mpr h, Option.getD_none]

/-- A rename of an existing profile, seen by its table. -/
theorem renamedProfiles_spec (new : CStr) (h : old ∈ profileNames cfg) :
    alter PppoeProfile.name old (fun p => { p with name := copyInto 64 new }) cfg.profiles =
      some (renamedProfiles cfg old new) := by
  rcases halt : alter PppoeProfile.name old (fun p => { p with name := copyInto 64 new }) cfg.profiles
    with _ | t
  · exact absurd h (alter_eq_none_iff.mp halt)
  · rw [renamedProfiles, halt, Option.getD_some]

/-- **Renaming** keeps the references exactly when the new name is free. -/
theorem linked_renameProfile_iff (h : Linked cfg) (hold : old ≠ []) (hnew : new ≠ []) :
    Linked ((Op.renameProfile old new).apply cfg) ↔ Careful cfg (.renameProfile old new) := by
  simp only [Op.apply, Op.outcome, renameProfile, hold, hnew, or_self, if_false, Option.map_some,
    Option.getD_some, Careful, ne_eq, not_false_eq_true, true_implies]
  have hf : ∀ p : PppoeProfile, p.name = old →
      ({ p with name := copyInto 64 new } : PppoeProfile).name = copyInto 64 new := fun _ _ => rfl
  by_cases hmem : old ∈ profileNames cfg
  · have hspec := renamedProfiles_spec new hmem
    simp only [hmem, true_implies]
    constructor
    · intro h'
      exact (distinct_rename_iff hf h.distinct hspec).mp h'.distinct
    · intro hfree
      refine ⟨(distinct_rename_iff hf h.distinct hspec).mpr hfree, ?_⟩
      intro v hv
      obtain ⟨u, hu, rfl⟩ := List.mem_map.mp hv
      refine (mem_keys_rename hf h.distinct hspec).mpr ?_
      by_cases huold : u.profile = old
      · exact .inl (by rw [if_pos huold])
      · rw [if_neg huold]
        exact .inr ⟨h.resolved u hu, huold⟩
  · -- no profile has the old name, and by the references no subscriber either
    simp only [hmem, false_implies, iff_true]
    have husers : ∀ u ∈ cfg.users, ¬ u.profile = old := fun u hu heq => hmem (heq ▸ h.resolved u hu)
    have hsame := renamedProfiles_of_not_mem new hmem
    constructor
    · show Distinct PppoeProfile.name (renamedProfiles cfg old new)
      rw [hsame]
      exact h.distinct
    · intro v hv
      obtain ⟨u, hu, rfl⟩ := List.mem_map.mp hv
      show _ ∈ (renamedProfiles cfg old new).map PppoeProfile.name
      rw [if_neg (husers u hu), hsame]
      exact h.resolved u hu

/-- **Deleting** keeps them exactly when nobody has the profile. -/
theorem linked_deleteProfile_iff (h : Linked cfg) (hname : name ≠ []) :
    Linked ((Op.deleteProfile name).apply cfg) ↔ Careful cfg (.deleteProfile name) := by
  simp only [Op.apply, Op.outcome, deleteProfile, hname, if_false, Option.map_some, Option.getD_some,
    Careful, ne_eq, not_false_eq_true, true_implies]
  have hkeys : ∀ k, k ∈ (remove PppoeProfile.name name cfg.profiles).map PppoeProfile.name ↔
      k ∈ profileNames cfg ∧ k ≠ name := by
    intro k
    rw [← not_iff_not, ← lookup_eq_none_iff, lookup_remove h.distinct, profileNames]
    by_cases hk : k = name
    · simp [hk]
    · rw [Function.update_of_ne hk, lookup_eq_none_iff]
      simp [hk]
  constructor
  · intro h' u hu
    exact ((hkeys _).mp (h'.resolved u hu)).2
  · intro hfree
    exact ⟨h.distinct.remove, fun u hu => (hkeys _).mpr ⟨h.resolved u hu, hfree u hu⟩⟩

/-! ## References under import -/

/-- Distinct names out of a set that has more: there is room for one. -/
theorem length_lt_of_subset {names : List CStr} (hd : names.Nodup)
    (hsub : ∀ y ∈ names, y ∈ all) (hx : x ∈ all) (hfree : x ∉ names) : names.length < all.card := by
  rw [← List.toFinset_card_of_nodup hd]
  refine Finset.card_lt_card ⟨fun y hy => hsub y (List.mem_toFinset.mp hy), fun hall => ?_⟩
  exact hfree (List.mem_toFinset.mp (hall hx))

/-- While an import runs: references hold, and names come from the set. -/
structure Importing (all : Finset CStr) (cfg : PppoeServerConfig) : Prop extends Linked cfg where
  names : ∀ y ∈ profileNames cfg, y ∈ all

theorem Importing.importProfile (h : Importing all cfg) {p : PppoeProfile}
    (hp : p.name ≠ [] → p.name ∈ all) : Importing all (importProfile cfg p) := by
  unfold Pppoe.importProfile
  split
  case isTrue => exact h
  case isFalse hname =>
    rcases hput : Pppoe.putProfile cfg p with _ | cfg'
    · exact h
    · refine ⟨h.toLinked.putProfile hput, ?_⟩
      intro y hy
      rcases (mem_keys_upsert (putProfile_spec hput).1).mp hy with rfl | hy
      · exact hp hname
      · exact h.names y hy

/-- The profile of an imported subscriber exists once it is resolved. -/
theorem Importing.resolveProfile (h : Importing all cfg)
    (hall : all.card ≤ maxPppoeProfiles) (now : UInt64) {u : PppoeUser} (hne : u.profile ≠ [])
    (hu : u.profile ∈ all) (hfits : u.profile.length < 64) :
    Importing all (resolveProfile cfg now u).1 ∧
      (resolveProfile cfg now u).2.profile ∈ profileNames (resolveProfile cfg now u).1 := by
  unfold Pppoe.resolveProfile
  rw [if_neg hne]
  split
  case h_1 p hlook =>
    refine ⟨h, ?_⟩
    have hmem : u.profile ∈ profileNames cfg := by
      rw [← key_of_lookup hlook]
      exact List.mem_map_of_mem (mem_of_lookup hlook)
    dsimp only
    split <;> exact hmem
  case h_2 hlook =>
    have hfree : u.profile ∉ profileNames cfg := lookup_eq_none_iff.mp hlook
    have hroom : cfg.profiles.length < maxPppoeProfiles := by
      have hlt := length_lt_of_subset h.distinct h.names hu hfree
      rw [List.length_map] at hlt
      exact Nat.lt_of_lt_of_le hlt hall
    have hname : (autoProfile u.profile).name = u.profile :=
      List.take_of_length_le (Nat.le_sub_one_of_lt hfits)
    unfold appendProfile
    rw [dif_pos hroom]
    dsimp only
    have hnames : ∀ y, y ∈ (cfg.profiles ++ [autoProfile u.profile]).map PppoeProfile.name ↔
        y ∈ profileNames cfg ∨ y = u.profile := by
      intro y
      rw [List.map_append, List.mem_append, List.map_singleton, List.mem_singleton, hname]
      rfl
    refine ⟨⟨⟨?_, ?_⟩, ?_⟩, ?_⟩
    · rw [Distinct, List.map_append, List.map_singleton, hname, List.nodup_append]
      refine ⟨h.distinct, List.nodup_singleton _, ?_⟩
      intro a ha b hb
      obtain rfl := List.mem_singleton.mp hb
      exact fun hab => hfree (hab ▸ ha)
    · exact fun v hv => (hnames _).mpr (.inl (h.resolved v hv))
    · intro y hy
      rcases (hnames y).mp hy with hy | rfl
      · exact h.names y hy
      · exact hu
    · refine (hnames _).mpr (.inr ?_)
      split <;> rfl

theorem Importing.importUser (h : Importing all cfg)
    (hall : all.card ≤ maxPppoeProfiles) (now : UInt64) {nu : PppoeUser}
    (hu : Accepted nu → nu.profile ≠ [] ∧ nu.profile ∈ all) (hfits : nu.profile.length < 64) :
    Importing all (importUser cfg now nu) := by
  unfold Pppoe.importUser
  split
  case isTrue => exact h
  case isFalse hacc =>
    obtain ⟨hne, hmem⟩ := hu (not_or.mp hacc)
    have hprofile : (if nu.createdAt = 0 then { nu with createdAt := now } else nu).profile = nu.profile := by
      split <;> rfl
    dsimp only
    generalize (if nu.createdAt = 0 then { nu with createdAt := now } else nu) = u at hprofile
    obtain ⟨himp, hres⟩ := h.resolveProfile (u := u) hall now (by rw [hprofile]; exact hne)
      (by rw [hprofile]; exact hmem) (by rw [hprofile]; exact hfits)
    rcases hput : Pppoe.putUser (Pppoe.resolveProfile cfg now u).1 (Pppoe.resolveProfile cfg now u).2
      with _ | cfg'
    · exact himp
    · refine ⟨himp.toLinked.putUser hres hput, ?_⟩
      show ∀ y ∈ cfg'.profiles.map PppoeProfile.name, y ∈ all
      rw [(putUser_spec hput).2]
      exact himp.names

theorem Linked.bulkImport (h : Linked cfg) (now : UInt64) (hfits : ∀ u ∈ users, u.profile.length < 64)
    (hnamed : ∀ u ∈ users, Accepted u → u.profile ≠ [])
    (hroom : (importNames cfg users profs replaceMode).card ≤ maxPppoeProfiles) :
    Linked (bulkImport cfg now users profs replaceMode).cfg := by
  have hall : ∀ y, y ∈ importNames cfg users profs replaceMode ↔
      y ∈ profileNames (cleared cfg replaceMode profs) ∨
        (∃ p ∈ profs, p.name ≠ [] ∧ p.name = y) ∨ ∃ u ∈ users, Accepted u ∧ u.profile = y := by
    intro y
    simp [importNames, and_assoc]
  generalize importNames cfg users profs replaceMode = all at hall hroom
  have hcleared : Importing all (cleared cfg replaceMode profs) := by
    refine ⟨?_, fun y hy => (hall y).mpr (.inl hy)⟩
    unfold cleared
    split
    · refine ⟨?_, fun _ hu => absurd hu List.not_mem_nil⟩
      dsimp only
      split
      · exact h.distinct
      · exact List.nodup_nil
    · exact h
  have hprofs : Importing all (profs.foldl Pppoe.importProfile (cleared cfg replaceMode profs)) := by
    refine List.foldlRecOn profs _ hcleared fun c hc p hp => hc.importProfile fun hname => ?_
    exact (hall _).mpr (.inr (.inl ⟨p, hp, hname, rfl⟩))
  have husers : Importing all (Pppoe.bulkImport cfg now users profs replaceMode).cfg := by
    refine List.foldlRecOn users _ hprofs fun c hc u hu => hc.importUser hroom now (fun hacc => ?_) (hfits u hu)
    exact ⟨hnamed u hu hacc, (hall _).mpr (.inr (.inr ⟨u, hu, hacc, rfl⟩))⟩
  exact husers.toLinked

/-- **One careful operation.** -/
theorem Linked.apply (h : Linked cfg) {op : Op} (hop : Careful cfg op) : Linked (op.apply cfg) := by
  refine Op.apply_induct h fun out hout => ?_
  cases op with
  | setUser created now user =>
    obtain ⟨hname, hmap⟩ := Option.ite_none_left_eq_some.mp hout
    obtain ⟨cfg', hput, rfl⟩ := Option.map_eq_some_iff.mp hmap
    refine h.putUser ?_ hput
    rw [completeUser_profile]
    exact hop hname
  | deleteUser name =>
    obtain ⟨-, ⟨⟩⟩ := Option.ite_none_left_eq_some.mp hout
    exact h.of_users rfl fun u hu => h.resolved u (remove_sublist.subset hu)
  | renewUser now name days newProfile =>
    obtain ⟨cfg', halt, rfl⟩ := Option.map_eq_some_iff.mp (Option.ite_none_left_eq_some.mp hout).2
    refine h.alterUser (fun u hu => ?_) halt
    show renewedProfile newProfile u.profile ∈ _
    unfold renewedProfile
    split
    · split_ifs with hchange
      · exact hop _ rfl hchange.1
      · exact h.resolved u hu
    · exact h.resolved u hu
  | toggleUser name enable =>
    obtain ⟨cfg', halt, rfl⟩ := Option.map_eq_some_iff.mp (Option.ite_none_left_eq_some.mp hout).2
    refine h.alterUser ?_ halt
    exact fun u hu => h.resolved u hu
  | setProfile p =>
    obtain ⟨cfg', hput, rfl⟩ := Option.map_eq_some_iff.mp (Option.ite_none_left_eq_some.mp hout).2
    exact h.putProfile hput
  | deleteProfile name =>
    have hlinked := (linked_deleteProfile_iff h (Option.ite_none_left_eq_some.mp hout).1).mpr hop
    rwa [Op.apply, hout] at hlinked
  | renameProfile old new =>
    obtain ⟨hold, hnew⟩ := not_or.mp (Option.ite_none_left_eq_some.mp hout).1
    have hlinked := (linked_renameProfile_iff h hold hnew).mpr hop
    rwa [Op.apply, hout] at hlinked
  | bulkImport now users profs replaceMode fits =>
    obtain rfl := Option.some.inj hout
    exact h.bulkImport now fits hop.1 hop.2

end

/-- **References survive careful edits**, in every state of the run. -/
theorem linked_run (ops : List Op) : ∀ {cfg : PppoeServerConfig}, Linked cfg → CarefulRun cfg ops →
    ∀ done, done <+: ops → Linked (run cfg done) := by
  induction ops with
  | nil =>
    intro cfg h _ done hdone
    rw [List.prefix_nil.mp hdone]
    exact h
  | cons op ops ih =>
    rintro cfg h ⟨hop, hops⟩ done hdone
    cases done with
    | nil => exact h
    | cons op' done =>
      obtain ⟨rfl, hrest⟩ := List.cons_prefix_cons.mp hdone
      exact ih (h.apply hop) hops done hrest

theorem linked_sampleServer : Linked sampleServer := ⟨by decide, by decide⟩

/-- A profile is renamed, an unused one deleted, and a subscriber imported with a new one. -/
def carefulOps : List Op :=
  [.renameProfile "Standard_25M".toList "Basic".toList, .deleteProfile "Ultra_50M".toList,
    .bulkImport 2 [importedUser] [] false importedUser_fits]

theorem linked_run_sample : CarefulRun sampleServer carefulOps ∧ Linked (run sampleServer carefulOps) := by
  have h : CarefulRun sampleServer carefulOps := by decide
  exact ⟨h, linked_run carefulOps linked_sampleServer h carefulOps (List.prefix_refl _)⟩

/-- The default subscriber's profile is deleted; or another is renamed to it. -/
theorem profile_references_lost :
    Linked sampleServer ∧
      ¬ Linked (run sampleServer [.deleteProfile "Standard_25M".toList]) ∧
      ¬ Linked (run sampleServer [.renameProfile "Ultra_50M".toList "Standard_25M".toList]) := by
  refine ⟨linked_sampleServer, fun h => ?_, fun h => ?_⟩
  · exact absurd (h.resolved (defaultUser 0) (by decide)) (by decide)
  · exact absurd h.distinct (by decide)

end FluxWAN.Pppoe
