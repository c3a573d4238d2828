/-
  What happens to the end of a subscription (`src/pppoe_server.c`: `pppoe_server_set_user`,
  `pppoe_server_renew_user`, `pppoe_server_bulk_import`; `src/web_server.c`: `POST /api/v1/broadband/users`).

  `expires_at` is 0 for a subscription without end: so say the writer of the secrets and the tick.  The three
  operations that write it read 0 as "not set" instead, and fill it in.

  1. **Operations** — `ExpiryOp`: a renewal, an edit that keeps the end or asks for none, and the import of a record
     that was exported.  The request of the web interface is `UserRequest`, its handler `editUser`.
  2. **Records** — `expiresAt_renewed`, `expiresAt_completed`, `expiresAt_resolved`: the end that each writes.
  3. **Result** — `not_shortened_iff`: which operations shorten no subscription.
-/
import FluxWAN.Pppoe.Subscribers

namespace FluxWAN.Pppoe

open CString KeyedTable

/-! ## Operations -/

/-- The members of a request; `user` holds those that are copied. -/
structure UserRequest where
  oldUsername : CStr := []
  user : PppoeUser
  keepExpiry : Bool := false
  validityDays : Int := -1

/-- The profile of the record: the one asked for, or the standard one. -/
def UserRequest.profile (r : UserRequest) : CStr :=
  if r.user.profile = [] then "Standard_25M".toList else r.user.profile

/-- The record that the handler passes on, while the clock shows `now`. -/
def UserRequest.record (r : UserRequest) (now : UInt64) : PppoeUser :=
  { r.user with
    profile := r.profile
    expiresAt :=
      if !r.keepExpiry && r.validityDays ≥ 0 then
        if r.validityDays = 0 then 0 else now + UInt64.ofInt r.validityDays * 86400
      else r.user.expiresAt }

/-- The request changes the name. -/
def UserRequest.Renames (r : UserRequest) : Prop := r.oldUsername ≠ [] ∧ r.oldUsername ≠ r.user.username

instance (r : UserRequest) : Decidable r.Renames := inferInstanceAs (Decidable (_ ∧ _))

/-- The subscriber it is about. -/
def UserRequest.subject (r : UserRequest) : CStr := if r.oldUsername ≠ [] then r.oldUsername else r.user.username

variable (cfg : PppoeServerConfig)

/-- `POST /api/v1/broadband/users`; the clock is read three times. -/
def editUser (now created now' : UInt64) (r : UserRequest) : PppoeServerConfig :=
  let cfg := if r.Renames then (Op.deleteUser r.oldUsername).apply cfg else cfg
  if r.user.username ≠ [] then (Op.setUser created now' (r.record now)).apply cfg else cfg

/-- The operations that must not shorten a subscription. -/
inductive ExpiryOp where
  | renew (now : UInt64) (days : UInt32) (newProfile : Option CStr)
  | edit (now created now' : UInt64) (r : UserRequest)
  | reimport (now : UInt64) (record : PppoeUser)

/-- The operation is about the subscriber `u`: an edit names it and keeps its end or asks for none, an import brings
    its record. -/
def ExpiryOp.About (u : PppoeUser) : ExpiryOp → Prop
  | .renew .. => True
  | .edit _ _ _ r => r.subject = u.username ∧ r.user.username ≠ [] ∧ (r.keepExpiry = true ∨ r.validityDays = 0)
  | .reimport _ record =>
    record.username = u.username ∧ record.profile = u.profile ∧ record.expiresAt = u.expiresAt

/-- What the operation makes of the configuration, … -/
def ExpiryOp.apply (name : CStr) : ExpiryOp → PppoeServerConfig
  | .renew now days newProfile => (Op.renewUser now name days newProfile).apply cfg
  | .edit now created now' r => editUser cfg now created now' r
  | .reimport now record => importUser cfg now record

/-- … and the name that the subscriber then has. -/
def ExpiryOp.newName (name : CStr) : ExpiryOp → CStr
  | .edit _ _ _ r => r.user.username
  | .renew .. | .reimport .. => name

/-- A new end that is none, or not before the old one. -/
def NotShortened (old new : UInt64) : Prop := new = 0 ∨ old ≠ 0 ∧ old ≤ new

/-! ## When nothing is shortened -/

/-- The days that a profile gives, 0 for no end or no profile. -/
def validityOf (profile : CStr) : UInt32 :=
  ((lookup PppoeProfile.name cfg.profiles profile).map PppoeProfile.validityDays).getD 0

/-- The days that an import fills in: those of the profile, or of the profile it makes. -/
def importDays (profile : CStr) : UInt32 :=
  if profile = [] then 0
  else match lookup PppoeProfile.name cfg.profiles profile with
    | some p => p.validityDays
    | none => if cfg.profiles.length < maxPppoeProfiles then 30 else 0

/-- A sum that overflows 64 bits and yet comes out as no end, or not before the old one. -/
def Wraps (old sum : Nat) : Prop := 2 ^ 64 ≤ sum ∧ (sum % 2 ^ 64 = 0 ∨ old ≠ 0 ∧ old ≤ sum % 2 ^ 64)

/-- An end at `sum` does not shorten a subscription that ends at `old`. -/
def Reaches (old sum : Nat) : Prop := old ≠ 0 ∧ old ≤ sum ∧ sum < 2 ^ 64 ∨ Wraps old sum

/-- The end that an edit asks for. -/
def UserRequest.asked (r : UserRequest) : UInt64 := if r.keepExpiry = true then r.user.expiresAt else 0

/-- The operation shortens nothing.
    * A renewal: the subscription has an end.
    * An edit: it brings an end that is not before the old one; or none, and the profile gives none either or one that
      is not before the old one.
    * An import: the record has an end, or is skipped, or gets none. -/
def ExpiryOp.Keeps (u : PppoeUser) : ExpiryOp → Prop
  | .renew now days newProfile =>
    Reaches u.expiresAt.toNat (max now.toNat u.expiresAt.toNat +
      (renewalDays cfg days (renewedProfile newProfile u.profile)).toNat * 86400)
  | .edit _ _ now' r =>
    if r.asked = 0 then
      validityOf cfg r.profile = 0 ∨
        Reaches u.expiresAt.toNat (now'.toNat + (validityOf cfg r.profile).toNat * 86400)
    else u.expiresAt ≠ 0 ∧ u.expiresAt ≤ r.asked
  | .reimport now record =>
    u.expiresAt ≠ 0 ∨ record.username = [] ∨ record.password = [] ∨ importDays cfg u.profile = 0 ∨
      Wraps 0 (now.toNat + (importDays cfg u.profile).toNat * 86400)

/-! ## Records -/

section
variable {cfg} {u : PppoeUser} {old : UInt64}

theorem toNat_days (d : UInt32) : (d.toUInt64 * 86400).toNat = d.toNat * 86400 := by
  have hd := d.toNat_lt
  rw [UInt64.toNat_mul, UInt32.toNat_toUInt64]
  show d.toNat * 86400 % 2 ^ 64 = _
  omega

/-- An end that is a sum. -/
theorem notShortened_add {base : UInt64} {d : UInt32} (hd : d ≠ 0) :
    NotShortened old (base + d.toUInt64 * 86400) ↔ Reaches old.toNat (base.toNat + d.toNat * 86400) := by
  have hold : old ≠ 0 ↔ old.toNat ≠ 0 := by
    rw [Ne, ← UInt64.toNat_inj]
    rfl
  have hzero : base + d.toUInt64 * 86400 = 0 ↔ (base.toNat + d.toNat * 86400) % 2 ^ 64 = 0 := by
    rw [← UInt64.toNat_inj, UInt64.toNat_add, toNat_days]
    rfl
  have hle : old ≤ base + d.toUInt64 * 86400 ↔ old.toNat ≤ (base.toNat + d.toNat * 86400) % 2 ^ 64 := by
    rw [UInt64.le_iff_toNat_le, UInt64.toNat_add, toNat_days]
  have hpos : 0 < d.toNat := Nat.pos_of_ne_zero fun h => hd (UInt32.toNat_inj.mp h)
  rw [NotShortened, Reaches, Wraps, hold, hzero, hle]
  by_cases hover : base.toNat + d.toNat * 86400 < 2 ^ 64
  · rw [Nat.mod_eq_of_lt hover]
    omega
  · omega

theorem notShortened_refl (old : UInt64) : NotShortened old old := by
  by_cases h : old = 0
  · exact .inl h
  · exact .inr ⟨h, UInt64.le_iff_toNat_le.mpr le_rfl⟩

/-- A renewal gives at least a day. -/
theorem renewalDays_ne_zero (days : UInt32) (profile : CStr) : renewalDays cfg days profile ≠ 0 := by
  unfold renewalDays
  split
  case isTrue h => exact h
  case isFalse =>
    split
    · split
      · decide
      · assumption
    · decide

/-- The later of two times. -/
def later (a b : UInt64) : UInt64 := if b ≤ a then a else b

theorem toNat_later (a b : UInt64) : (later a b).toNat = max a.toNat b.toNat := by
  rw [later]
  split
  case isTrue h =>
    have := UInt64.le_iff_toNat_le.mp h
    omega
  case isFalse h =>
    have := mt UInt64.le_iff_toNat_le.mpr h
    omega

/-- The end that `pppoe_server_renew_user` writes. -/
theorem expiresAt_renewed (now : UInt64) (days : UInt32) (newProfile : Option CStr) :
    (renewedUser cfg now days newProfile u).expiresAt =
      later now u.expiresAt + (renewalDays cfg days (renewedProfile newProfile u.profile)).toUInt64 * 86400 := by
  have hstart : (u.expiresAt = 0 ∨ now ≥ u.expiresAt) ↔ u.expiresAt ≤ now := by
    refine or_iff_right_of_imp fun h => ?_
    rw [h]
    exact UInt64.le_iff_toNat_le.mpr (Nat.zero_le _)
  show (if u.expiresAt = 0 ∨ now ≥ u.expiresAt then now + _ else u.expiresAt + _) = _
  rw [later, if_congr hstart rfl rfl]
  split <;> rfl

/-- The end that `pppoe_server_set_user` writes. -/
theorem expiresAt_completed (created now : UInt64) (hprofile : u.profile ≠ []) :
    (completeUser cfg created now u).expiresAt =
      if u.expiresAt = 0 ∧ validityOf cfg u.profile ≠ 0 then now + (validityOf cfg u.profile).toUInt64 * 86400
      else u.expiresAt := by
  have hpos : ∀ d : UInt32, d > 0 ↔ d ≠ 0 := fun d => UInt32.pos_iff_ne_zero
  rw [completeUser, validityOf]
  -- the creation time, filled in or not, is another field
  generalize hu : (if u.createdAt = 0 then { u with createdAt := created } else u) = u'
  have hsame : u'.expiresAt = u.expiresAt ∧ u'.profile = u.profile := by
    rw [← hu]
    split <;> exact ⟨rfl, rfl⟩
  rw [hsame.1, hsame.2]
  by_cases hend : u.expiresAt = 0
  · rw [if_pos ⟨hend, hprofile⟩]
    rcases lookup PppoeProfile.name cfg.profiles u.profile with _ | p
    · simp [hsame.1]
    · simp only [hpos, Option.map_some, Option.getD_some, hend, true_and]
      split
      · rfl
      · exact hsame.1.trans hend
  · rw [if_neg fun h => hend h.1, if_neg fun h => hend h.1, hsame.1]

/-- The end that `pppoe_server_bulk_import` writes. -/
theorem expiresAt_resolved (now : UInt64) :
    (resolveProfile cfg now u).2.expiresAt =
      if u.expiresAt = 0 ∧ importDays cfg u.profile ≠ 0 then now + (importDays cfg u.profile).toUInt64 * 86400
      else u.expiresAt := by
  have hpos : ∀ d : UInt32, d > 0 ↔ d ≠ 0 := fun d => UInt32.pos_iff_ne_zero
  rw [resolveProfile, importDays]
  by_cases hprofile : u.profile = []
  · simp [hprofile]
  rw [if_neg hprofile, if_neg hprofile]
  rcases lookup PppoeProfile.name cfg.profiles u.profile with _ | p
  · dsimp only
    rw [appendProfile]
    by_cases hroom : cfg.profiles.length < maxPppoeProfiles
    · -- the profile that is made gives 30 days
      rw [dif_pos hroom, if_pos hroom]
      by_cases hend : u.expiresAt = 0
      · have h30 : (30 : UInt32) ≠ 0 := by decide
        dsimp only
        rw [if_pos hend, if_pos ⟨hend, h30⟩]
        rfl
      · dsimp only
        rw [if_neg hend, if_neg fun h => hend h.1]
    · rw [dif_neg hroom, if_neg hroom]
      simp
  · simp only [hpos]
    split <;> rfl

/-! ## Tables -/

theorem view_renewUser (hname : name ≠ []) (hu : view cfg name = some u) (now : UInt64)
    (days : UInt32) (newProfile : Option CStr) :
    view ((Op.renewUser now name days newProfile).apply cfg) name = some (renewedUser cfg now days newProfile u) := by
  simp only [Op.apply, Op.outcome, renewUser, if_neg hname]
  rcases halt : alterUser cfg name (renewedUser cfg now days newProfile) with _ | cfg'
  · rw [view, lookup_eq_none_iff.mpr (alterUser_eq_none halt)] at hu
    cases hu
  · have hview := (EditedAt.alterUser (fun u => renewedUser_username cfg now days newProfile u) halt).map
    show view cfg' name = _
    rw [hview, Function.update_self, hu, Option.map_some]

/-- A record is stored if its name is there already, or if there is room. -/
theorem view_setUser (user : PppoeUser) (hname : user.username ≠ [])
    (hroom : user.username ∈ cfg.users.map PppoeUser.username ∨ cfg.users.length < maxPppoeUsers)
    (created now : UInt64) :
    view ((Op.setUser created now user).apply cfg) user.username = some (completeUser cfg created now user) := by
  simp only [Op.apply, Op.outcome, setUser, if_neg hname]
  rcases hput : putUser cfg (completeUser cfg created now user) with _ | cfg'
  · obtain ⟨hnew, hfull⟩ := upsert_eq_none_iff.mp (putUser_eq_none hput)
    rw [completeUser_username] at hnew
    exact absurd (hroom.resolve_left hnew) (Nat.not_lt.mpr hfull)
  · have hview := lookup_upsert (putUser_spec hput).1
    rw [completeUser_username] at hview
    show lookup _ cfg'.users _ = _
    rw [hview, Function.update_self]

/-- An edit leaves the completed record under the name it gives. -/
theorem view_editUser {r : UserRequest} (hsubject : view cfg r.subject = some u) (hname : r.user.username ≠ [])
    (now created now' : UInt64) :
    view (editUser cfg now created now' r) r.user.username = some (completeUser cfg created now' (r.record now)) := by
  have hthere : r.subject ∈ cfg.users.map PppoeUser.username := by
    by_contra hno
    rw [view, lookup_eq_none_iff.mpr hno] at hsubject
    cases hsubject
  rw [editUser, if_pos hname]
  by_cases hren : r.Renames
  · -- the old record goes first, which makes room
    have hsub : r.subject = r.oldUsername := if_pos hren.1
    have hdel : (Op.deleteUser r.oldUsername).apply cfg = dropUser cfg r.oldUsername := by
      simp [Op.apply, Op.outcome, deleteUser, hren.1]
    have hroom : (dropUser cfg r.oldUsername).users.length < maxPppoeUsers :=
      Nat.lt_of_lt_of_le (length_remove_lt (hsub ▸ hthere)) cfg.users_le
    rw [if_pos hren, hdel]
    exact view_setUser (r.record now) hname (.inr hroom) created now'
  · have hsub : r.subject = r.user.username := by
      rw [UserRequest.subject]
      split
      case isTrue hold => exact Decidable.not_not.mp fun hne => hren ⟨hold, hne⟩
      case isFalse => rfl
    rw [if_neg hren]
    exact view_setUser (r.record now) hname (.inl (hsub ▸ hthere)) created now'

/-- An import leaves the record as it is if it is skipped, and else the one with its profile resolved. -/
theorem view_importUser {record : PppoeUser} (hu : view cfg record.username = some u) (now : UInt64) :
    ∃ u', view (importUser cfg now record) record.username = some u' ∧
      u'.expiresAt = if record.username = [] ∨ record.password = [] then u.expiresAt
        else if record.expiresAt = 0 ∧ importDays cfg record.profile ≠ 0 then
          now + (importDays cfg record.profile).toUInt64 * 86400
        else record.expiresAt := by
  rw [importUser]
  split
  case isTrue => exact ⟨u, hu, rfl⟩
  case isFalse =>
    dsimp only
    generalize hrec : (if record.createdAt = 0 then { record with createdAt := now } else record) = v
    have hsame : v.username = record.username ∧ v.profile = record.profile ∧ v.expiresAt = record.expiresAt := by
      rw [← hrec]
      split <;> exact ⟨rfl, rfl, rfl⟩
    obtain ⟨husers, hname⟩ := resolveProfile_spec cfg now v
    have hend : (resolveProfile cfg now v).2.expiresAt = _ := expiresAt_resolved now
    rw [hsame.2.1, hsame.2.2] at hend
    refine ⟨(resolveProfile cfg now v).2, ?_, hend⟩
    have hkey : (resolveProfile cfg now v).2.username = record.username := hname.trans hsame.1
    rcases hput : putUser (resolveProfile cfg now v).1 (resolveProfile cfg now v).2 with _ | cfg'
    · -- the name is there, so the record is overwritten
      obtain ⟨hnew, -⟩ := upsert_eq_none_iff.mp (putUser_eq_none hput)
      rw [hkey, husers] at hnew
      rw [view, lookup_eq_none_iff.mpr hnew] at hu
      cases hu
    · show lookup _ cfg'.users _ = _
      rw [lookup_upsert (putUser_spec hput).1, hkey, Function.update_self]

end

/-- An edit that keeps the end, or asks for none, passes on the end it asks for. -/
theorem expiresAt_record {r : UserRequest} (h : r.keepExpiry = true ∨ r.validityDays = 0) (now : UInt64) :
    (r.record now).expiresAt = r.asked := by
  show (if !r.keepExpiry && r.validityDays ≥ 0 then _ else _) = _
  rw [UserRequest.asked]
  cases hkeep : r.keepExpiry with
  | true => rfl
  | false =>
    have hdays : r.validityDays = 0 := h.resolve_left (by rw [hkeep]; decide)
    rw [hdays]
    rfl

theorem UserRequest.profile_ne_nil (r : UserRequest) : r.profile ≠ [] := by
  rw [UserRequest.profile]
  split
  case isTrue => decide
  case isFalse h => exact h

/-- **Which operations shorten no subscription.** -/
theorem not_shortened_iff (u : PppoeUser) (hu : view cfg u.username = some u) (hname : u.username ≠ [])
    (op : ExpiryOp) (hop : op.About u) :
    (∃ u', view (op.apply cfg u.username) (op.newName u.username) = some u' ∧
        NotShortened u.expiresAt u'.expiresAt) ↔ op.Keeps cfg u := by
  have hsome : ∀ (v : PppoeUser) (P : PppoeUser → Prop), (∃ u', some v = some u' ∧ P u') ↔ P v := by
    simp
  cases op with
  | renew now days newProfile =>
    show (∃ u', view (Op.apply cfg _) u.username = some u' ∧ _) ↔ Reaches _ _
    rw [view_renewUser hname hu, hsome, expiresAt_renewed, notShortened_add (renewalDays_ne_zero _ _), toNat_later]
  | edit now created now' r =>
    obtain ⟨hsubject, hnew, hkind⟩ := hop
    show (∃ u', view (editUser cfg _ _ _ _) r.user.username = some u' ∧ _) ↔
      if r.asked = 0 then validityOf cfg r.profile = 0 ∨ Reaches _ _ else _
    have hend : (completeUser cfg created now' (r.record now)).expiresAt = _ :=
      expiresAt_completed created now' r.profile_ne_nil
    rw [view_editUser (hsubject ▸ hu) hnew, hsome, hend, expiresAt_record hkind]
    show NotShortened _ (if r.asked = 0 ∧ validityOf cfg r.profile ≠ 0 then _ else _) ↔ _
    by_cases hasked : r.asked = 0
    · rw [if_pos hasked]
      by_cases hdays : validityOf cfg r.profile = 0
      · rw [if_neg fun h => h.2 hdays]
        exact iff_of_true (.inl hasked) (.inl hdays)
      · rw [if_pos ⟨hasked, hdays⟩, or_iff_right hdays]
        exact notShortened_add hdays
    · rw [if_neg fun h => hasked h.1, if_neg hasked]
      exact or_iff_right hasked
  | reimport now record =>
    obtain ⟨hrname, hrprofile, hrend⟩ := hop
    have hu' : view cfg record.username = some u := by rw [hrname, hu]
    obtain ⟨u', hview, hend⟩ := view_importUser hu' now
    show (∃ u', view (importUser cfg now record) u.username = some u' ∧ _) ↔ _ ∨ _
    rw [← hrname, hview, hsome, hend, hrprofile, hrend]
    by_cases hskip : record.username = [] ∨ record.password = []
    · rw [if_pos hskip]
      exact iff_of_true (notShortened_refl _) (.inr (hskip.imp_right .inl))
    · rw [if_neg hskip]
      rw [not_or] at hskip
      rw [or_iff_right hskip.1, or_iff_right hskip.2]
      by_cases hend0 : u.expiresAt = 0
      · rw [or_iff_right (not_not_intro hend0)]
        by_cases hdays : importDays cfg u.profile = 0
        · rw [if_neg fun h => h.2 hdays]
          exact iff_of_true (notShortened_refl _) (.inl hdays)
        · rw [if_pos ⟨hend0, hdays⟩, or_iff_right hdays, notShortened_add hdays, hend0]
          exact or_iff_right fun h => h.1 rfl
      · rw [if_neg fun h => hend0 h.1]
        exact iff_of_true (notShortened_refl _) (.inl hend0)

/-- A subscriber without end, and one with. -/
def unlimitedUser : PppoeUser := { username := ['u'], password := ['p'], profile := ['P'], enabled := true }

def limitedUser : PppoeUser := { unlimitedUser with expiresAt := 1000000 }

/-- A renewal of the second. -/
theorem not_shortened_iff_renewal :
    ∃ u', view ((ExpiryOp.renew 5000 30 none).apply (oneSubscriber limitedUser) ['u']) ['u'] = some u' ∧
      NotShortened 1000000 u'.expiresAt := by
  have hu : view (oneSubscriber limitedUser) limitedUser.username = some limitedUser := by decide
  exact (not_shortened_iff (oneSubscriber limitedUser) limitedUser hu (by decide) (.renew 5000 30 none)
    trivial).mpr (.inl (by decide))

/-- A renewal of the first gives it an end. -/
theorem renewal_ends_unlimited :
    (view ((ExpiryOp.renew 5000 30 none).apply (oneSubscriber unlimitedUser) ['u']) ['u']).map
        PppoeUser.expiresAt = some 2597000 ∧ ¬ NotShortened unlimitedUser.expiresAt 2597000 := by
  constructor
  · decide
  · rw [NotShortened]
    decide

end FluxWAN.Pppoe
