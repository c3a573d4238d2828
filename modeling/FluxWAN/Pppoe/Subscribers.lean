/-
  Subscribers and profiles of the PPPoE server (`src/pppoe_server.c`).

  Two arrays in the configuration, searched by name: `users` and `profiles`.  Every edit of the web
  interface is one of the operations below; each is written with the writes of `Lib.KeyedTable`, whose laws
  then say what it does.

  1. **Data** — `PppoeServerConfig`, as `config_load` fills it; the capacities of the arrays are fields of it.
  2. **Program** — one function per operation of the source, and `Op.apply` for any of them.
  3. **Map** — `view`, the subscriber table as a partial function from usernames to records.
     `subscribers_refine`: usernames stay distinct, and an operation on one subscriber is `Function.update` at
     its name.

  The references from subscribers to profiles are the subject of `Pppoe.Profiles`.
-/
import FluxWAN.ConfigServices
import FluxWAN.Lib.KeyedTable

namespace FluxWAN.Pppoe

open CString KeyedTable

/-! ## Writes to the two tables -/

variable (cfg : PppoeServerConfig)

/-- Overwrite or append; none if the array is full. -/
def putUser (u : PppoeUser) : Option PppoeServerConfig :=
  match h : upsert PppoeUser.username maxPppoeUsers u cfg.users with
  | some users => some { cfg with users, users_le := length_upsert_le h cfg.users_le }
  | none => none

/-- Change the subscriber of this name; none if there is none. -/
def alterUser (name : CStr) (f : PppoeUser → PppoeUser) : Option PppoeServerConfig :=
  match h : alter PppoeUser.username name f cfg.users with
  | some users => some { cfg with users, users_le := by rw [length_alter h]; exact cfg.users_le }
  | none => none

def dropUser (name : CStr) : PppoeServerConfig :=
  { cfg with
    users := remove PppoeUser.username name cfg.users
    users_le := Nat.le_trans remove_sublist.length_le cfg.users_le }

def putProfile (p : PppoeProfile) : Option PppoeServerConfig :=
  match h : upsert PppoeProfile.name maxPppoeProfiles p cfg.profiles with
  | some profiles => some { cfg with profiles, profiles_le := length_upsert_le h cfg.profiles_le }
  | none => none

def dropProfile (name : CStr) : PppoeServerConfig :=
  { cfg with
    profiles := remove PppoeProfile.name name cfg.profiles
    profiles_le := Nat.le_trans remove_sublist.length_le cfg.profiles_le }

/-- `cfg->profiles[cfg->profile_count++] = p`, if there is room. -/
def appendProfile (p : PppoeProfile) : Option PppoeServerConfig :=
  if h : cfg.profiles.length < maxPppoeProfiles then
    some { cfg with
      profiles := cfg.profiles ++ [p]
      profiles_le := by rw [List.length_append, List.length_singleton]; exact h }
  else none

/-! ## Operations -/

/-- What a successful operation leaves. -/
structure Outcome where
  cfg : PppoeServerConfig
  /-- `write_pppoe_secrets` was called. -/
  secretsWritten : Bool := true
  /-- The subscriber whose sessions are disconnected. -/
  kicked : Option CStr := none

/-- The record that `pppoe_server_set_user` stores: creation time and expiry filled in. -/
def completeUser (created now : UInt64) (u : PppoeUser) : PppoeUser :=
  let u := if u.createdAt = 0 then { u with createdAt := created } else u
  if u.expiresAt = 0 ∧ u.profile ≠ [] then
    match lookup PppoeProfile.name cfg.profiles u.profile with
    | some p =>
      if p.validityDays > 0 then { u with expiresAt := now + p.validityDays.toUInt64 * 86400 } else u
    | none => u
  else u

/-- `pppoe_server_set_user`; none is the return code -1. -/
def setUser (created now : UInt64) (user : PppoeUser) : Option Outcome :=
  if user.username = [] then none
  else
    let u := completeUser cfg created now user
    let changed : Option PppoeUser := (lookup PppoeUser.username cfg.users user.username).filter fun old =>
      old.password ≠ u.password ∨ old.profile ≠ u.profile ∨ old.enabled ≠ u.enabled
    (putUser cfg u).map fun cfg => { cfg, kicked := changed.map fun _ => u.username }

/-- `pppoe_server_delete_user`. -/
def deleteUser (name : CStr) : Option Outcome :=
  if name = [] then none
  else some
    { cfg := dropUser cfg name
      secretsWritten := (lookup PppoeUser.username cfg.users name).isSome }

/-- The profile after a renewal that names one. -/
def renewedProfile (newProfile : Option CStr) (old : CStr) : CStr :=
  match newProfile with
  | some p => if p ≠ [] ∧ old ≠ p then copyInto 64 p else old
  | none => old

/-- The days of a renewal: those asked for, else those of the profile, else 30. -/
def renewalDays (days : UInt32) (profile : CStr) : UInt32 :=
  if days ≠ 0 then days
  else match lookup PppoeProfile.name cfg.profiles profile with
    | some p => if p.validityDays = 0 then 30 else p.validityDays
    | none => 30

/-- The record that `pppoe_server_renew_user` leaves. -/
def renewedUser (now : UInt64) (days : UInt32) (newProfile : Option CStr) (u : PppoeUser) : PppoeUser :=
  let profile := renewedProfile newProfile u.profile
  let addSec := (renewalDays cfg days profile).toUInt64 * 86400
  { u with
    profile
    expiresAt := if u.expiresAt = 0 ∨ now ≥ u.expiresAt then now + addSec else u.expiresAt + addSec
    enabled := true }

/-- `pppoe_server_renew_user`. -/
def renewUser (now : UInt64) (name : CStr) (days : UInt32) (newProfile : Option CStr) : Option Outcome :=
  if name = [] then none
  else
    let changed : Option PppoeUser := (lookup PppoeUser.username cfg.users name).filter fun u =>
      newProfile.any fun p => p ≠ [] ∧ u.profile ≠ p
    (alterUser cfg name (renewedUser cfg now days newProfile)).map fun cfg =>
      { cfg, kicked := changed.map fun _ => name }

/-- `pppoe_server_toggle_user`. -/
def toggleUser (name : CStr) (enable : Bool) : Option Outcome :=
  if name = [] then none
  else (alterUser cfg name fun u => { u with enabled := enable }).map fun cfg =>
    { cfg, kicked := if enable = true then none else some name }

/-- `pppoe_server_set_profile`. -/
def setProfile (p : PppoeProfile) : Option Outcome :=
  if p.name = [] then none else (putProfile cfg p).map fun cfg => { cfg, secretsWritten := false }

/-- `pppoe_server_delete_profile`. -/
def deleteProfile (name : CStr) : Option Outcome :=
  if name = [] then none else some { cfg := dropProfile cfg name, secretsWritten := false }

/-- The first profile of the old name gets the new one, if there is one. -/
def renamedProfiles (old new : CStr) : List PppoeProfile :=
  (alter PppoeProfile.name old (fun p => { p with name := copyInto 64 new }) cfg.profiles).getD cfg.profiles

theorem length_renamedProfiles (old new : CStr) :
    (renamedProfiles cfg old new).length = cfg.profiles.length := by
  unfold renamedProfiles
  rcases h : alter PppoeProfile.name old (fun p => { p with name := copyInto 64 new }) cfg.profiles with _ | t
  · rfl
  · exact length_alter h

/-- `pppoe_server_rename_profile`: the profile, and all subscribers that have it. -/
def renameProfile (old new : CStr) : Option Outcome :=
  if old = [] ∨ new = [] then none
  else some
    { cfg := { cfg with
        profiles := renamedProfiles cfg old new
        profiles_le := by rw [length_renamedProfiles]; exact cfg.profiles_le
        users := cfg.users.map fun u => if u.profile = old then { u with profile := copyInto 64 new } else u
        users_le := by rw [List.length_map]; exact cfg.users_le }
      secretsWritten := false }

/-! ## Import -/

/-- "Process profiles first". -/
def importProfile (p : PppoeProfile) : PppoeServerConfig :=
  if p.name = [] then cfg else (putProfile cfg p).getD cfg

/-- "Auto-created on import". -/
def autoProfile (name : CStr) : PppoeProfile where
  name := copyInto 64 name
  rateDownKbps := 10240
  rateUpKbps := 5120
  validityDays := 30
  description := "Auto-created on import".toList

/-- "Auto-create profile if user has a profile not yet in cfg": the profiles, and the subscriber with the
    expiry that its profile gives. -/
def resolveProfile (now : UInt64) (u : PppoeUser) : PppoeServerConfig × PppoeUser :=
  if u.profile = [] then (cfg, u)
  else match lookup PppoeProfile.name cfg.profiles u.profile with
    | some p =>
      (cfg, if u.expiresAt = 0 ∧ p.validityDays > 0 then
        { u with expiresAt := now + p.validityDays.toUInt64 * 86400 } else u)
    | none => match appendProfile cfg (autoProfile u.profile) with
      | some cfg' => (cfg', if u.expiresAt = 0 then { u with expiresAt := now + 30 * 86400 } else u)
      | none => (cfg, u)

/-- "Process users": rows without name or password are skipped, and new ones once the table is full. -/
def importUser (now : UInt64) (nu : PppoeUser) : PppoeServerConfig :=
  if nu.username = [] ∨ nu.password = [] then cfg
  else
    let u := if nu.createdAt = 0 then { nu with createdAt := now } else nu
    let (cfg', u') := resolveProfile cfg now u
    (putUser cfg' u').getD cfg'

/-- In replace mode the subscribers go, and the profiles if the import brings any. -/
def cleared (replaceMode : Bool) (profs : List PppoeProfile) : PppoeServerConfig :=
  if replaceMode = true then
    { cfg with
      users := []
      users_le := Nat.zero_le _
      profiles := if profs = [] then cfg.profiles else []
      profiles_le := by
        split
        · exact cfg.profiles_le
        · exact Nat.zero_le _ }
  else cfg

/-- `pppoe_server_bulk_import`. -/
def bulkImport (now : UInt64) (users : List PppoeUser) (profs : List PppoeProfile) (replaceMode : Bool) :
    Outcome :=
  { cfg := users.foldl (importUser · now) (profs.foldl importProfile (cleared cfg replaceMode profs)) }

/-- An edit.  The arguments of an import are arrays of structs, whose texts fit their arrays. -/
inductive Op where
  | setUser (created now : UInt64) (user : PppoeUser)
  | deleteUser (name : CStr)
  | renewUser (now : UInt64) (name : CStr) (days : UInt32) (newProfile : Option CStr)
  | toggleUser (name : CStr) (enable : Bool)
  | setProfile (p : PppoeProfile)
  | deleteProfile (name : CStr)
  | renameProfile (old new : CStr)
  | bulkImport (now : UInt64) (users : List PppoeUser) (profs : List PppoeProfile) (replaceMode : Bool)
      (fits : ∀ u ∈ users, u.profile.length < 64)

/-- The operation; none if it fails, which leaves everything as it was. -/
def Op.outcome : Op → Option Outcome
  | .setUser created now user => Pppoe.setUser cfg created now user
  | .deleteUser name => Pppoe.deleteUser cfg name
  | .renewUser now name days newProfile => Pppoe.renewUser cfg now name days newProfile
  | .toggleUser name enable => Pppoe.toggleUser cfg name enable
  | .setProfile p => Pppoe.setProfile cfg p
  | .deleteProfile name => Pppoe.deleteProfile cfg name
  | .renameProfile old new => Pppoe.renameProfile cfg old new
  | .bulkImport now users profs replaceMode _ => some (Pppoe.bulkImport cfg now users profs replaceMode)

def Op.apply (op : Op) : PppoeServerConfig := ((op.outcome cfg).map Outcome.cfg).getD cfg

def run (ops : List Op) : PppoeServerConfig := ops.foldl (fun cfg op => op.apply cfg) cfg

/-! ## What the writes change -/

section
variable {cfg} {cfg' : PppoeServerConfig} {u : PppoeUser} {p : PppoeProfile} {name : CStr}
  {f : PppoeUser → PppoeUser}

theorem putUser_spec (h : putUser cfg u = some cfg') :
    upsert PppoeUser.username maxPppoeUsers u cfg.users = some cfg'.users ∧ cfg'.profiles = cfg.profiles := by
  unfold putUser at h
  split at h
  case h_1 users hups =>
    obtain rfl := Option.some.inj h
    exact ⟨hups, rfl⟩
  case h_2 => cases h

theorem putUser_eq_none (h : putUser cfg u = none) :
    upsert PppoeUser.username maxPppoeUsers u cfg.users = none := by
  unfold putUser at h
  split at h
  case h_1 => cases h
  case h_2 hups => exact hups

theorem alterUser_spec (h : alterUser cfg name f = some cfg') :
    alter PppoeUser.username name f cfg.users = some cfg'.users ∧ cfg'.profiles = cfg.profiles := by
  unfold alterUser at h
  split at h
  case h_1 users halt =>
    obtain rfl := Option.some.inj h
    exact ⟨halt, rfl⟩
  case h_2 => cases h

theorem alterUser_eq_none (h : alterUser cfg name f = none) :
    name ∉ cfg.users.map PppoeUser.username := by
  unfold alterUser at h
  split at h
  case h_1 => cases h
  case h_2 halt => exact alter_eq_none_iff.mp halt

theorem putProfile_spec (h : putProfile cfg p = some cfg') :
    upsert PppoeProfile.name maxPppoeProfiles p cfg.profiles = some cfg'.profiles ∧
      cfg'.users = cfg.users := by
  unfold putProfile at h
  split at h
  case h_1 profiles hups =>
    obtain rfl := Option.some.inj h
    exact ⟨hups, rfl⟩
  case h_2 => cases h

theorem appendProfile_spec (h : appendProfile cfg p = some cfg') :
    cfg'.profiles = cfg.profiles ++ [p] ∧ cfg'.users = cfg.users := by
  unfold appendProfile at h
  split_ifs at h with hlt
  obtain rfl := Option.some.inj h
  exact ⟨rfl, rfl⟩

end

@[simp] theorem completeUser_username (created now : UInt64) (u : PppoeUser) :
    (completeUser cfg created now u).username = u.username := by
  unfold completeUser
  grind

@[simp] theorem completeUser_profile (created now : UInt64) (u : PppoeUser) :
    (completeUser cfg created now u).profile = u.profile := by
  unfold completeUser
  grind

@[simp] theorem renewedUser_username (now : UInt64) (days : UInt32) (newProfile : Option CStr)
    (u : PppoeUser) : (renewedUser cfg now days newProfile u).username = u.username := rfl

/-- Resolving the profile touches neither the subscribers nor the name of the new one. -/
theorem resolveProfile_spec (now : UInt64) (u : PppoeUser) :
    (resolveProfile cfg now u).1.users = cfg.users ∧
      (resolveProfile cfg now u).2.username = u.username := by
  unfold resolveProfile
  split
  · exact ⟨rfl, rfl⟩
  · split
    · exact ⟨rfl, by dsimp only; split <;> rfl⟩
    · split
      case h_1 cfg' happ => exact ⟨(appendProfile_spec happ).2, by dsimp only; split <;> rfl⟩
      case h_2 => exact ⟨rfl, rfl⟩

/-! ## The table as a map -/

/-- Usernames are pairwise distinct. -/
abbrev DistinctUsers : Prop := Distinct PppoeUser.username cfg.users

/-- The subscriber table as a finite map. -/
def view : CStr → Option PppoeUser := lookup PppoeUser.username cfg.users

/-- The subscriber that the operation is about. -/
def Op.subject : Op → Option CStr
  | .setUser _ _ user => some user.username
  | .deleteUser name => some name
  | .renewUser _ name _ _ => some name
  | .toggleUser name _ => some name
  | _ => none

/-- What the operation makes of the record of its subscriber: the operation on the map. -/
def Op.onRecord : Op → Option PppoeUser → Option PppoeUser
  | .setUser created now user, old =>
    if user.username ≠ [] ∧ (old.isSome = true ∨ cfg.users.length < maxPppoeUsers) then
      some (completeUser cfg created now user)
    else old
  | .deleteUser name, old => if name ≠ [] then none else old
  | .renewUser now name days newProfile, old =>
    if name ≠ [] then old.map (renewedUser cfg now days newProfile) else old
  | .toggleUser name enable, old =>
    if name ≠ [] then old.map fun u => { u with enabled := enable } else old
  | _, old => old

section
variable {cfg}

theorem DistinctUsers.importProfile (h : DistinctUsers cfg) (p : PppoeProfile) :
    DistinctUsers (importProfile cfg p) := by
  unfold Pppoe.importProfile
  split
  · exact h
  · rcases hput : putProfile cfg p with _ | cfg'
    · exact h
    · show Distinct _ cfg'.users
      rw [(putProfile_spec hput).2]
      exact h

theorem DistinctUsers.importUser (h : DistinctUsers cfg) (now : UInt64) (nu : PppoeUser) :
    DistinctUsers (importUser cfg now nu) := by
  unfold Pppoe.importUser
  split
  · exact h
  · dsimp only
    generalize (if nu.createdAt = 0 then { nu with createdAt := now } else nu) = u
    have h' : DistinctUsers (resolveProfile cfg now u).1 := by
      rw [DistinctUsers, (resolveProfile_spec cfg now u).1]
      exact h
    rcases hput : putUser (resolveProfile cfg now u).1 (resolveProfile cfg now u).2 with _ | cfg'
    · exact h'
    · exact Distinct.upsert h' (putUser_spec hput).1

theorem DistinctUsers.bulkImport (h : DistinctUsers cfg) (now : UInt64) (users : List PppoeUser)
    (profs : List PppoeProfile) (replaceMode : Bool) :
    DistinctUsers (bulkImport cfg now users profs replaceMode).cfg := by
  have hcleared : DistinctUsers (cleared cfg replaceMode profs) := by
    unfold cleared
    split
    · exact List.nodup_nil
    · exact h
  have hprofs : DistinctUsers (profs.foldl Pppoe.importProfile (cleared cfg replaceMode profs)) :=
    List.foldlRecOn profs _ hcleared fun _ hc p _ => hc.importProfile p
  exact List.foldlRecOn users _ hprofs fun _ hc u _ => hc.importUser now u

/-- From one table to the next: other records stay, in their order, and the map changes at `x` only. -/
structure EditedAt (x : CStr) (f : Option PppoeUser → Option PppoeUser) (cfg cfg' : PppoeServerConfig) :
    Prop where
  rest : others PppoeUser.username x cfg'.users = others PppoeUser.username x cfg.users
  map : view cfg' = Function.update (view cfg) x (f (view cfg x))

theorem EditedAt.same (h : f (view cfg x) = view cfg x) : EditedAt x f cfg cfg :=
  ⟨rfl, by rw [h, Function.update_eq_self]⟩

theorem EditedAt.alterUser {cfg' : PppoeServerConfig} {x : CStr} {f : PppoeUser → PppoeUser}
    (hf : ∀ u, (f u).username = u.username) (h : alterUser cfg x f = some cfg') :
    EditedAt x (Option.map f) cfg cfg' := by
  have halt := (alterUser_spec h).1
  have hkey : ∀ u : PppoeUser, u.username = x → (f u).username = x := fun u hu => (hf u).trans hu
  exact ⟨others_alter hkey halt, lookup_alter hkey halt⟩

/-- A change of the record at `x`, whether or not there is one. -/
theorem EditedAt.alterUser_getD (hf : ∀ u, (f u).username = u.username) :
    EditedAt x (Option.map f) cfg ((Pppoe.alterUser cfg x f).getD cfg) := by
  rcases halt : Pppoe.alterUser cfg x f with _ | cfg'
  · refine EditedAt.same ?_
    rw [show view cfg x = none from lookup_eq_none_iff.mpr (alterUser_eq_none halt), Option.map_none]
  · exact EditedAt.alterUser hf halt

/-- **Operations on one subscriber** are operations on the map. -/
theorem Op.editedAt (h : DistinctUsers cfg) (op : Op) (hx : op.subject = some x) :
    EditedAt x (op.onRecord cfg) cfg (op.apply cfg) := by
  cases op with
  | setUser created now user =>
    obtain rfl := Option.some.inj hx
    simp only [Op.apply, Op.outcome, Pppoe.setUser]
    split
    case isTrue hname => exact EditedAt.same (by simp [Op.onRecord, hname])
    case isFalse hname =>
      rcases hput : putUser cfg (completeUser cfg created now user) with _ | cfg'
      · -- full, and the name is new
        obtain ⟨hnew, hfull⟩ := upsert_eq_none_iff.mp (putUser_eq_none hput)
        rw [completeUser_username] at hnew
        refine EditedAt.same ?_
        have hnone : view cfg user.username = none := lookup_eq_none_iff.mpr hnew
        simp [Op.onRecord, hnone, Nat.not_lt.mpr hfull]
      · have hups := (putUser_spec hput).1
        have hothers := others_upsert hups
        have hview := lookup_upsert hups
        rw [completeUser_username] at hothers hview
        refine ⟨hothers, hview.trans ?_⟩
        have hroom : (view cfg user.username).isSome = true ∨ cfg.users.length < maxPppoeUsers := by
          by_contra hno
          rw [not_or, Bool.not_eq_true, Option.isSome_eq_false_iff, Option.isNone_iff_eq_none] at hno
          have hnone := upsert_eq_none_iff.mpr
            (⟨by rw [completeUser_username]; exact lookup_eq_none_iff.mp hno.1, Nat.not_lt.mp hno.2⟩ :
              (completeUser cfg created now user).username ∉ cfg.users.map PppoeUser.username ∧ _)
          rw [hups] at hnone
          cases hnone
        rw [Op.onRecord, if_pos ⟨hname, hroom⟩]
        rfl
  | deleteUser name =>
    obtain rfl := Option.some.inj hx
    simp only [Op.apply, Op.outcome, Pppoe.deleteUser]
    split
    case isTrue hname => exact EditedAt.same (by simp [Op.onRecord, hname])
    case isFalse hname =>
      refine ⟨others_remove, (lookup_remove h).trans ?_⟩
      rw [Op.onRecord, if_pos hname]
      rfl
  | renewUser now name days newProfile =>
    obtain rfl := Option.some.inj hx
    simp only [Op.apply, Op.outcome, Pppoe.renewUser]
    split
    case isTrue hname => exact EditedAt.same (by simp [Op.onRecord, hname])
    case isFalse hname =>
      have hrec : (Op.renewUser now name days newProfile).onRecord cfg =
          Option.map (renewedUser cfg now days newProfile) := funext fun _ => if_pos hname
      simp only [Option.map_map, Function.comp_def, Option.map_id', hrec]
      exact EditedAt.alterUser_getD fun u => renewedUser_username cfg now days newProfile u
  | toggleUser name enable =>
    obtain rfl := Option.some.inj hx
    simp only [Op.apply, Op.outcome, Pppoe.toggleUser]
    split
    case isTrue hname => exact EditedAt.same (by simp [Op.onRecord, hname])
    case isFalse hname =>
      have hrec : (Op.toggleUser name enable).onRecord cfg =
          Option.map fun u => { u with enabled := enable } := funext fun _ => if_pos hname
      simp only [Option.map_map, Function.comp_def, Option.map_id', hrec]
      exact EditedAt.alterUser_getD fun _ => rfl
  | setProfile p => cases hx
  | deleteProfile name => cases hx
  | renameProfile old new => cases hx
  | bulkImport now users profs replaceMode fits => cases hx

/-- An edit that fails leaves the tables; so only outcomes matter. -/
theorem Op.apply_induct {P : PppoeServerConfig → Prop} {op : Op} (h : P cfg)
    (ho : ∀ out, op.outcome cfg = some out → P out.cfg) : P (op.apply cfg) := by
  unfold Op.apply
  rcases hout : op.outcome cfg with _ | out
  · exact h
  · exact ho out hout

theorem DistinctUsers.alterUser {cfg' : PppoeServerConfig} (h : DistinctUsers cfg) {x : CStr}
    {f : PppoeUser → PppoeUser} (hf : ∀ u, (f u).username = u.username)
    (halt : alterUser cfg x f = some cfg') : DistinctUsers cfg' :=
  Distinct.alter h (fun u hu => (hf u).trans hu) (alterUser_spec halt).1

/-- **No operation duplicates a username.** -/
theorem DistinctUsers.apply (h : DistinctUsers cfg) (op : Op) : DistinctUsers (op.apply cfg) := by
  refine Op.apply_induct h fun out hout => ?_
  cases op with
  | setUser created now user =>
    obtain ⟨cfg', hput, rfl⟩ := Option.map_eq_some_iff.mp (Option.ite_none_left_eq_some.mp hout).2
    exact Distinct.upsert h (putUser_spec hput).1
  | deleteUser name =>
    obtain ⟨-, ⟨⟩⟩ := Option.ite_none_left_eq_some.mp hout
    exact Distinct.remove h
  | renewUser now name days newProfile =>
    obtain ⟨cfg', halt, rfl⟩ := Option.map_eq_some_iff.mp (Option.ite_none_left_eq_some.mp hout).2
    exact h.alterUser (renewedUser_username cfg now days newProfile) halt
  | toggleUser name enable =>
    obtain ⟨cfg', halt, rfl⟩ := Option.map_eq_some_iff.mp (Option.ite_none_left_eq_some.mp hout).2
    refine h.alterUser ?_ halt
    exact fun _ => rfl
  | setProfile p =>
    obtain ⟨cfg', hput, rfl⟩ := Option.map_eq_some_iff.mp (Option.ite_none_left_eq_some.mp hout).2
    show Distinct _ cfg'.users
    rw [(putProfile_spec hput).2]
    exact h
  | deleteProfile name =>
    obtain ⟨-, ⟨⟩⟩ := Option.ite_none_left_eq_some.mp hout
    exact h
  | renameProfile old new =>
    obtain ⟨-, ⟨⟩⟩ := Option.ite_none_left_eq_some.mp hout
    -- profiles are exchanged, names are not
    have hnames : (cfg.users.map fun u => if u.profile = old then { u with profile := copyInto 64 new }
        else u).map PppoeUser.username = cfg.users.map PppoeUser.username := by
      rw [List.map_map]
      refine List.map_congr_left fun u _ => ?_
      simp only [Function.comp]
      split <;> rfl
    show List.Nodup _
    rw [hnames]
    exact h
  | bulkImport now users profs replaceMode fits =>
    obtain rfl := Option.some.inj hout
    exact h.bulkImport now users profs replaceMode

theorem DistinctUsers.run (h : DistinctUsers cfg) (ops : List Op) : DistinctUsers (run cfg ops) :=
  List.foldlRecOn ops _ h fun _ hc op _ => hc.apply op

end

/-- **The subscriber table refines a finite map.**  After any edits usernames are still distinct and at
    most 4096, and whatever edit of one subscriber comes next: the other records and their order stay, and
    the map changes at that name only, as `onRecord` says. -/
theorem subscribers_refine (h : DistinctUsers cfg) (ops : List Op) :
    DistinctUsers (run cfg ops) ∧ (run cfg ops).users.length ≤ 4096 ∧
      ∀ (op : Op) (x : CStr), op.subject = some x →
        others PppoeUser.username x (op.apply (run cfg ops)).users = others PppoeUser.username x (run cfg ops).users ∧
          view (op.apply (run cfg ops)) =
            Function.update (view (run cfg ops)) x (op.onRecord (run cfg ops) (view (run cfg ops) x)) := by
  have hrun := h.run ops
  refine ⟨hrun, (run cfg ops).users_le, ?_⟩
  intro op x hx
  have hedit := op.editedAt hrun hx
  exact ⟨hedit.rest, hedit.map⟩

theorem length_defaultProfiles_le : defaultProfiles.length ≤ maxPppoeProfiles := by decide
theorem one_le_maxPppoeUsers : 1 ≤ maxPppoeUsers := by decide

/-- The table that holds just this subscriber. -/
def oneSubscriber (u : PppoeUser) : PppoeServerConfig where
  users := [u]
  users_le := one_le_maxPppoeUsers

theorem length_defaultUser_le : [defaultUser 0].length ≤ maxPppoeUsers := by decide

/-- A server with the default subscriber and the default profiles. -/
def sampleServer : PppoeServerConfig where
  enabled := true
  profiles := defaultProfiles
  users := [defaultUser 0]
  profiles_le := length_defaultProfiles_le
  users_le := length_defaultUser_le

/-- A subscriber as an import names them. -/
def importedUser : PppoeUser := { username := "b".toList, password := "y".toList, profile := "New".toList }

theorem importedUser_fits : ∀ u ∈ [importedUser], u.profile.length < 64 := by decide

/-- A second subscriber, who gets an import of the same name. -/
def sampleOps : List Op :=
  [.setUser 1 1 { username := "b".toList, password := "x".toList, profile := "Ultra_50M".toList, enabled := true },
    .bulkImport 2 [importedUser] [] false importedUser_fits]

theorem subscribers_refine_sample : DistinctUsers sampleServer ∧ DistinctUsers (run sampleServer sampleOps) ∧
    (run sampleServer sampleOps).users.map PppoeUser.username = ["fluxwan".toList, "b".toList] := by
  have h : DistinctUsers sampleServer := by decide
  exact ⟨h, (subscribers_refine sampleServer h sampleOps).1, by decide⟩

end FluxWAN.Pppoe
