/-
  The licence over whole runs.

  Calls of the three entry points in any order, with any keys and clock readings, between restarts of the
  process and changes of the files by others.  Beside the manager a `Ledger` records what no field of
  `license_info_t` does: the key accepted last, and the clock and watermark of the last evaluation.

  `isValid_backed` — the validity flag is never more than the ledger supports: the key accepted last is signed,
  for this machine, and a lifetime key or in time at the last evaluation.  The invariant behind it
  (`Backed`) has to say two things more, which the flag alone does not show: that `expires_at` is still the
  one of that key, and that a valid licence whose type is LIFETIME comes from a lifetime key — ticks test
  the type and the date of the RECORD, not of the key.

  `expiry_final_iff` — for a subscription under boots and ticks: once a clock reading was at or past its
  expiry it stays unauthorised, if and only if there is no boot from then on.  A tick that sees the expiry
  ends the licence for good (`Ended`), but `init` forgets it: whatever the key is worth, it authorises
  (`licenseIsAuthorized_init`).
-/
import FluxWAN.License.Manager

namespace FluxWAN.License

open CString

/-! ## Calls -/

/-- A call with the clock readings it makes, or something that happens between calls. -/
inductive Call where
  | init (boot now : UInt64)
  | activate (key : CStr) (checked now : UInt64)
  | tick (nowMs now : UInt64)
  /-- A new process. -/
  | restart
  /-- Somebody else writes the files. -/
  | files (d : Disk)

namespace Call

variable (pf : Platform) (m : Manager)

def step : Call → Manager
  | .init boot now => licenseManagerInit pf boot now m
  | .activate key checked now => (licenseManagerActivate pf key checked now m).2
  | .tick nowMs now => licenseManagerTick nowMs now m
  | .restart => { m with globals := {} }
  | .files d => { m with disk := d }

/-- The key that the call accepts: it is loaded into `g_license_info`. -/
def accepts : Call → Option CStr
  | .init _ _ => m.disk.keyLine.filter fun key => (parseAndVerifyLicenseKey pf key).toBool
  | .activate key checked now =>
    if (licenseManagerActivate pf key checked now m).1.rc = 0 then some key else none
  | _ => none

/-- The evaluation of a key that is loaded: none for another machine's and for lifetime keys. -/
def loadEvaluation (now : UInt64) (d : Disk) (key : CStr) : Option Evaluation :=
  if strcasecmp (keyPayload key).hwid pf.hardwareId = true ∧ (keyPayload key).type ≠ 2 then
    some ⟨now, readWatermark d⟩
  else none

/-- The evaluation that the call makes. -/
def evaluates (c : Call) : Option Evaluation :=
  match c with
  | .init _ now => (c.accepts pf m).bind (loadEvaluation pf now m.disk)
  | .activate key checked now =>
    (c.accepts pf m).bind (loadEvaluation pf now (updateWatermark (m.disk.saveKey key) checked))
  | .tick _ now =>
    if m.globals.info.subscribes then some ⟨now, readWatermark m.disk⟩ else none
  | _ => none

end Call

/-- The manager, the key accepted last and the last evaluation. -/
structure Ledger where
  manager : Manager := {}
  accepted : Option CStr := none
  evaluated : Option Evaluation := none

/-- One call. -/
def Ledger.record (pf : Platform) (l : Ledger) (c : Call) : Ledger where
  manager := c.step pf l.manager
  accepted := (c.accepts pf l.manager).or l.accepted
  evaluated := (c.evaluates pf l.manager).or l.evaluated

/-- A run of a process that starts with these files. -/
def run (pf : Platform) (d : Disk) (calls : List Call) : Ledger :=
  calls.foldl (Ledger.record pf) { manager := { disk := d } }

/-! ## What validity rests on -/

/-- A lifetime licence from a lifetime key, or a subscription in time at the last evaluation. -/
def Entitled (info : LicenseInfo) (evaluated : Option Evaluation) (payload : LicensePayload) : Prop :=
  payload.type = 2 ∧ info.type = .lifetime ∨ ∃ ev, evaluated = some ev ∧ ev.InTime payload.expiresAt

/-- The key that a valid licence rests on. -/
structure Backed (pf : Platform) (l : Ledger) (key : CStr) : Prop where
  accepted : l.accepted = some key
  signed : Signed pf (keyBlob key)
  hwid : strcasecmp (keyPayload key).hwid pf.hardwareId = true
  expiresAt : l.manager.globals.info.expiresAt = (keyPayload key).expiresAt
  entitled : Entitled l.manager.globals.info l.evaluated (keyPayload key)

/-- A valid licence rests on some key. -/
def Sound (pf : Platform) (l : Ledger) : Prop :=
  l.manager.globals.info.isValid = true → ∃ key, Backed pf l key

section
variable {pf : Platform} {l l' : Ledger}

/-- A call that accepts and evaluates nothing and leaves the standing alone keeps the backing. -/
theorem Sound.of_same (h : Sound pf l)
    (hstand : l'.manager.globals.info.standing = l.manager.globals.info.standing)
    (hacc : l'.accepted = l.accepted) (heval : l'.evaluated = l.evaluated) : Sound pf l' := by
  obtain ⟨hvalid, htype, hexp⟩ := LicenseInfo.standing_eq_iff.mp hstand
  intro hv
  rw [hvalid] at hv
  obtain ⟨key, hb⟩ := h hv
  refine ⟨key, hacc.trans hb.accepted, hb.signed, hb.hwid, hexp.trans hb.expiresAt, ?_⟩
  rw [Entitled, htype, heval]
  exact hb.entitled

/-- **Loading a key.**  If the licence is valid afterwards, it rests on that key. -/
theorem Sound.of_load (now : UInt64) (d : Disk) (info : LicenseInfo)
    (before : Option Evaluation) (hsigned : Signed pf (keyBlob key))
    (hstand : l'.manager.globals.info.standing =
      (updateLicenseStatusFromPayload pf now (keyPayload key) info d).1.standing)
    (hacc : l'.accepted = some key)
    (heval : l'.evaluated = (Call.loadEvaluation pf now d key).or before) : Sound pf l' := by
  obtain ⟨hvalid, htype, hexp⟩ := LicenseInfo.standing_eq_iff.mp hstand
  intro hv
  rw [hvalid] at hv
  obtain ⟨hhw, hcase⟩ := updateStatus_valid hv
  refine ⟨key, hacc, hsigned, hhw, hexp.trans updateStatus_expiresAt, ?_⟩
  rcases hcase with ⟨hlife, hinfo⟩ | ⟨hsub, hin⟩
  · exact .inl ⟨hlife, htype.trans hinfo⟩
  · exact .inr ⟨_, by rw [heval, Call.loadEvaluation, if_pos ⟨hhw, hsub⟩, Option.some_or], hin⟩

theorem toBool_parse_iff : (parseAndVerifyLicenseKey pf key).toBool = true ↔ Signed pf (keyBlob key) := by
  rcases hparse : parseAndVerifyLicenseKey pf key with rc | payload
  · have hnot : ¬ Signed pf (keyBlob key) := fun h => by
      rw [parseAndVerifyLicenseKey_ok_iff.mpr ⟨h, rfl⟩] at hparse
      cases hparse
    simpa [Except.toBool] using hnot
  · simpa [Except.toBool] using (parseAndVerifyLicenseKey_ok_iff.mp hparse).1

/-- `init` accepts the key of the file if it is signed. -/
theorem accepts_init_eq_some_iff {m : Manager} :
    (Call.init boot now).accepts pf m = some key ↔
      m.disk.keyLine = some key ∧ Signed pf (keyBlob key) := by
  rw [Call.accepts, Option.filter_eq_some_iff, toBool_parse_iff]

theorem Sound.init (h : Sound pf l) (boot now : UInt64) : Sound pf (l.record pf (.init boot now)) := by
  rcases hacc : (Call.init boot now).accepts pf l.manager with _ | key
  · have hnot : ∀ key, l.manager.disk.keyLine = some key → ¬ Signed pf (keyBlob key) := by
      intro key hline hsigned
      rw [accepts_init_eq_some_iff.mpr ⟨hline, hsigned⟩] at hacc
      cases hacc
    refine h.of_same ?_ ?_ ?_
    · show (grantGrace (loadKeyFile _ _ _ _).1).standing = _
      rw [standing_grantGrace, loadKeyFile_of_not_signed hnot]
      rfl
    · simp [Ledger.record, hacc]
    · simp [Ledger.record, Call.evaluates, hacc]
  · obtain ⟨hline, hsigned⟩ := accepts_init_eq_some_iff.mp hacc
    obtain ⟨info, hinfo, -⟩ := licenseManagerInit_of_signed hline hsigned
    refine Sound.of_load now l.manager.disk info l.evaluated hsigned ?_ ?_ ?_
    · exact (congrArg LicenseInfo.standing hinfo).trans standing_grantGrace
    · simp [Ledger.record, hacc]
    · simp only [Ledger.record, Call.evaluates, hacc, Option.bind_some]

theorem Sound.activate (h : Sound pf l) (key : CStr) (checked now : UInt64) :
    Sound pf (l.record pf (.activate key checked now)) := by
  rcases licenseManagerActivate_cases key l.manager with
    ⟨hrc, hsame⟩ | ⟨hrc, hsigned, hinfo⟩
  · have hacc : (Call.activate key checked now).accepts pf l.manager = none := if_neg hrc
    refine h.of_same ?_ ?_ ?_
    · show (licenseManagerActivate _ _ _ _ _).2.globals.info.standing = _
      rw [hsame]
    · simp [Ledger.record, hacc]
    · simp [Ledger.record, Call.evaluates, hacc]
  · have hacc : (Call.activate key checked now).accepts pf l.manager = some key := if_pos hrc
    refine Sound.of_load now (updateWatermark (l.manager.disk.saveKey key) checked)
      l.manager.globals.info l.evaluated hsigned ?_ ?_ ?_
    · exact congrArg LicenseInfo.standing hinfo
    · simp [Ledger.record, hacc]
    · simp only [Ledger.record, Call.evaluates, hacc, Option.bind_some]

theorem Sound.tick (h : Sound pf l) (nowMs now : UInt64) : Sound pf (l.record pf (.tick nowMs now)) := by
  rcases hsub : l.manager.globals.info.subscribes with _ | _
  · obtain ⟨hinfo, -⟩ := licenseManagerTick_of_not_subscribes nowMs now hsub
    refine h.of_same ?_ ?_ ?_
    · show (licenseManagerTick _ _ _).globals.info.standing = _
      rw [hinfo, standing_tickGrace]
    · simp [Ledger.record, Call.accepts]
    · simp [Ledger.record, Call.evaluates, hsub]
  · obtain ⟨hinfo, -⟩ := licenseManagerTick_of_subscribes hsub
    intro hv
    change (licenseManagerTick nowMs now l.manager).globals.info.isValid = true at hv
    rw [hinfo] at hv
    rcases tickSubscription_cases with ⟨hended, -⟩ | hin
    · rw [hended] at hv
      cases hv
    · -- still the same key, and it is in time at this evaluation
      obtain ⟨key, hb⟩ := h ((Bool.and_eq_true _ _).mp hsub).1
      refine ⟨key, ?_, hb.signed, hb.hwid, ?_, .inr ⟨⟨now, readWatermark l.manager.disk⟩, ?_, ?_⟩⟩
      · simpa [Ledger.record, Call.accepts] using hb.accepted
      · show (licenseManagerTick nowMs now l.manager).globals.info.expiresAt = _
        rw [hinfo, tickSubscription_fields.1, hb.expiresAt]
      · simp [Ledger.record, Call.evaluates, hsub]
      · rwa [hb.expiresAt] at hin

theorem Sound.restart : Sound pf (l.record pf .restart) := fun hv => nomatch hv

theorem Sound.files (h : Sound pf l) (d : Disk) : Sound pf (l.record pf (.files d)) :=
  h.of_same rfl (by simp [Ledger.record, Call.accepts]) (by simp [Ledger.record, Call.evaluates])

/-- One call. -/
theorem Sound.record (h : Sound pf l) (c : Call) : Sound pf (l.record pf c) := by
  cases c with
  | init boot now => exact h.init boot now
  | activate key checked now => exact h.activate key checked now
  | tick nowMs now => exact h.tick nowMs now
  | restart => exact Sound.restart
  | files d => exact h.files d

theorem Sound.foldl (calls : List Call) : ∀ {l : Ledger}, Sound pf l →
    Sound pf (calls.foldl (Ledger.record pf) l) := by
  induction calls with
  | nil => exact fun h => h
  | cons c calls ih => exact fun h => ih (h.record c)

end

/-- **Validity is backed.**  After every run of the three entry points, with any keys, files, restarts and
    clock readings: if the licence is reported valid, then the key accepted last is 204 bytes with the
    magic and a verified signature, it is for this machine, and it is a lifetime key or its expiry was
    ahead of the clock of the last evaluation, which was at most 300 s behind the stored watermark. -/
theorem isValid_backed (pf : Platform) (d : Disk) (calls : List Call)
    (hvalid : (run pf d calls).manager.globals.info.isValid = true) :
    ∃ key, (run pf d calls).accepted = some key ∧ Signed pf (keyBlob key) ∧
      strcasecmp (keyPayload key).hwid pf.hardwareId = true ∧
      ((keyPayload key).type = 2 ∨
        ∃ ev, (run pf d calls).evaluated = some ev ∧ ev.clock < (keyPayload key).expiresAt ∧
          ev.watermark.toNat ≤ ev.clock.toNat + 300) := by
  have hstart : Sound pf { manager := { disk := d } } := fun hv => nomatch hv
  obtain ⟨key, hb⟩ := hstart.foldl calls hvalid
  refine ⟨key, hb.accepted, hb.signed, hb.hwid, ?_⟩
  rcases hb.entitled with ⟨hlife, -⟩ | ⟨ev, hev, hin⟩
  · exact .inl hlife
  · exact .inr ⟨ev, hev, hin.beforeExpiry, hin.notBehind⟩

/-- A machine whose signature check accepts everything. -/
def samplePlatform : Platform where
  ed25519Verify _ _ := true
  fingerprint _ := 0

/-- A subscription for it that expires at 2000. -/
def sampleKey : CStr :=
  "FLUX-LIC-RkxJQwEBAAEAAAAAAAAAANAHAAAAAAAAAAAAAEZXSUQtMDAwMC0wMDAwLTAwMDAtMDAwM".toList ++ List.replicate 203 'A'

theorem isValid_backed_sample :
    ∃ key, (run samplePlatform {} [.activate sampleKey 1000 1000]).accepted = some key ∧
      Signed samplePlatform (keyBlob key) ∧
      strcasecmp (keyPayload key).hwid samplePlatform.hardwareId = true ∧
      ((keyPayload key).type = 2 ∨
        ∃ ev, (run samplePlatform {} [.activate sampleKey 1000 1000]).evaluated = some ev ∧
          ev.clock < (keyPayload key).expiresAt ∧ ev.watermark.toNat ≤ ev.clock.toNat + 300) :=
  isValid_backed samplePlatform {} [.activate sampleKey 1000 1000] (by decide +kernel)

/-! ## Boots and ticks -/

/-- What happens to a machine whose key file nobody touches. -/
inductive Event where
  /-- A new process runs `init`. -/
  | boot (started now : UInt64)
  | tick (nowMs now : UInt64)

namespace Event

variable (pf : Platform) (m : Manager)

def step : Event → Manager
  | .boot started now => licenseManagerInit pf started now { m with globals := {} }
  | .tick nowMs now => licenseManagerTick nowMs now m

/-- The clock readings it makes: `g_boot_timestamp`, and one for an evaluation. -/
def readings : Event → List UInt64
  | .boot started now =>
    started :: (((Call.init started now).evaluates pf m).map Evaluation.clock).toList
  | .tick nowMs now => (((Call.tick nowMs now).evaluates pf m).map Evaluation.clock).toList

end Event

/-- The manager after the events. -/
def after (pf : Platform) (m : Manager) (events : List Event) : Manager := events.foldl (Event.step pf) m

/-- All clock readings of the events. -/
def readings (pf : Platform) : Manager → List Event → List UInt64
  | _, [] => []
  | m, e :: events => e.readings pf m ++ readings pf (e.step pf m) events

/-- The machine holds a subscription for itself. -/
structure Subscribed (pf : Platform) (key : CStr) (m : Manager) : Prop where
  keyLine : m.disk.keyLine = some key
  signed : Signed pf (keyBlob key)
  hwid : strcasecmp (keyPayload key).hwid pf.hardwareId = true
  days : (keyPayload key).type ≠ 2
  /-- What is loaded is this key. -/
  loaded : m.globals.info.isValid = true →
    m.globals.info.type = .days ∧ m.globals.info.expiresAt = (keyPayload key).expiresAt

/-- Not valid, and no grace either. -/
def Ended (m : Manager) : Prop := m.globals.info.isValid = false ∧ m.globals.info.status ≠ .grace

section
variable {pf : Platform} {key : CStr} {m : Manager}

theorem Ended.not_authorized (h : Ended m) : licenseIsAuthorized m = false := by
  simp [licenseIsAuthorized, LicenseInfo.authorizes, h.1, h.2]

theorem Ended.tick (h : Ended m) (nowMs now : UInt64) : Ended (licenseManagerTick nowMs now m) := by
  have hsub : m.globals.info.subscribes = false := by simp [LicenseInfo.subscribes, h.1]
  obtain ⟨hinfo, -⟩ := licenseManagerTick_of_not_subscribes nowMs now hsub
  rw [Ended, hinfo, tickGrace_of_not_grace h.2]
  exact h

theorem keyLine_updateWatermark (d : Disk) : (updateWatermark d ts).keyLine = d.keyLine := by
  unfold updateWatermark
  split
  · split <;> rfl
  · rfl

theorem keyLine_updateStatus (d : Disk) :
    (updateLicenseStatusFromPayload pf now payload info d).2.keyLine = d.keyLine := by
  unfold updateLicenseStatusFromPayload
  dsimp only
  split_ifs
  all_goals first
    | rfl
    | exact keyLine_updateWatermark d

theorem keyLine_tickSubscription (d : Disk) : (tickSubscription now info d).2.keyLine = d.keyLine := by
  unfold tickSubscription
  split
  · rfl
  · split <;> exact keyLine_updateWatermark d

theorem Subscribed.boot (h : Subscribed pf key m) (started now : UInt64) :
    Subscribed pf key (licenseManagerInit pf started now { m with globals := {} }) := by
  have hline : ({ m with globals := {} } : Manager).disk.keyLine = some key := h.keyLine
  obtain ⟨info, hinfo, hdisk⟩ := licenseManagerInit_of_signed hline h.signed
  refine { h with keyLine := ?_, loaded := ?_ }
  · rw [hdisk, keyLine_updateStatus, hline]
  · intro _
    obtain ⟨-, htype, hexp⟩ := LicenseInfo.standing_eq_iff.mp
      ((congrArg LicenseInfo.standing hinfo).trans standing_grantGrace)
    rw [htype, hexp, updateStatus_type_of_subscription h.hwid h.days, updateStatus_expiresAt]
    exact ⟨rfl, rfl⟩

theorem Subscribed.tick (h : Subscribed pf key m) (nowMs now : UInt64) :
    Subscribed pf key (licenseManagerTick nowMs now m) := by
  rcases hsub : m.globals.info.subscribes with _ | _
  · obtain ⟨hinfo, hdisk⟩ := licenseManagerTick_of_not_subscribes nowMs now hsub
    obtain ⟨hvalid, htype, hexp⟩ := LicenseInfo.standing_eq_iff.mp
      ((congrArg LicenseInfo.standing hinfo).trans standing_tickGrace)
    refine { h with keyLine := ?_, loaded := ?_ }
    · rw [hdisk, h.keyLine]
    · rw [hvalid, htype, hexp]
      exact h.loaded
  · obtain ⟨hinfo, hdisk⟩ := licenseManagerTick_of_subscribes hsub
    refine { h with keyLine := ?_, loaded := ?_ }
    · rw [hdisk, keyLine_tickSubscription, h.keyLine]
    · intro _
      rw [hinfo, tickSubscription_fields.1, tickSubscription_fields.2]
      exact h.loaded ((Bool.and_eq_true _ _).mp hsub).1

/-- The subscription stays, whatever happens. -/
theorem Subscribed.step (h : Subscribed pf key m) (e : Event) : Subscribed pf key (e.step pf m) := by
  cases e with
  | boot started now => exact h.boot started now
  | tick nowMs now => exact h.tick nowMs now

/-- A tick that reads the expiry or a later time ends the licence. -/
theorem Subscribed.ended_of_late (h : Subscribed pf key m)
    (hr : r ∈ (Event.tick nowMs now).readings pf m) (hlate : (keyPayload key).expiresAt ≤ r) :
    Ended (licenseManagerTick nowMs now m) := by
  rcases hsub : m.globals.info.subscribes with _ | _
  · simp [Event.readings, Call.evaluates, hsub] at hr
  · obtain rfl : r = now := by simpa [Event.readings, Call.evaluates, hsub] using hr
    obtain ⟨hinfo, -⟩ := licenseManagerTick_of_subscribes hsub
    rw [Ended, hinfo]
    rcases tickSubscription_cases with hended | hin
    · exact hended
    · have hexp := (h.loaded ((Bool.and_eq_true _ _).mp hsub).1).2
      rw [hexp] at hin
      exact absurd hin.beforeExpiry (UInt64.not_lt.mpr hlate)

end

theorem after_append (m : Manager) (e : Event) : after pf m (events ++ [e]) = e.step pf (after pf m events) := by
  simp [after]

theorem readings_append (e : Event) :
    ∀ m, readings pf m (events ++ [e]) = readings pf m events ++ e.readings pf (after pf m events) := by
  induction events with
  | nil => simp [readings, after]
  | cons e' events ih =>
    intro m
    rw [List.cons_append, readings, ih, readings, List.append_assoc]
    rfl

/-- Once a clock reading was at or past the expiry, the licence is unauthorised at every later point. -/
def ExpiryFinal (pf : Platform) (key : CStr) (m : Manager) (events : List Event) : Prop :=
  ∀ seen, seen <+: events → (∃ r ∈ readings pf m seen, (keyPayload key).expiresAt ≤ r) →
    licenseIsAuthorized (after pf m seen) = false

/-- No boot makes a reading at or past the expiry, or comes after one. -/
def NoLateBoot (pf : Platform) (key : CStr) (m : Manager) (events : List Event) : Prop :=
  ∀ seen started now, seen ++ [.boot started now] <+: events →
    ∀ r ∈ readings pf m (seen ++ [.boot started now]), r < (keyPayload key).expiresAt

theorem Subscribed.after (h : Subscribed pf key m) (events : List Event) : Subscribed pf key (after pf m events) := by
  induction events generalizing m with
  | nil => exact h
  | cons e events ih => exact ih (h.step e)

/-- Without a late boot a late reading ends the licence, and nothing revives it. -/
theorem Subscribed.ended (h : Subscribed pf key m) (hboot : NoLateBoot pf key m events) (seen : List Event)
    (hseen : seen <+: events) (hlate : ∃ r ∈ readings pf m seen, (keyPayload key).expiresAt ≤ r) :
    Ended (License.after pf m seen) := by
  induction seen using List.reverseRecOn with
  | nil => simp [readings] at hlate
  | append_singleton seen e ih =>
    obtain ⟨r, hr, hexp⟩ := hlate
    cases e with
    | boot started now => exact absurd (hboot seen started now hseen r hr) (UInt64.not_lt.mpr hexp)
    | tick nowMs now =>
      rw [after_append]
      rw [readings_append, List.mem_append] at hr
      rcases hr with hr | hr
      · exact (ih ((List.prefix_append _ _).trans hseen) ⟨r, hr, hexp⟩).tick nowMs now
      · exact (h.after seen).ended_of_late hr hexp

/-- **When an expiry is final.**  For every machine with a signed subscription for itself and every sequence
    of boots and ticks, with any clock: once a reading was at or past the expiry the licence is
    unauthorised at every later point, if and only if no boot makes such a reading or comes after one. -/
theorem expiry_final_iff (pf : Platform) (key : CStr) (m : Manager) (events : List Event)
    (h : Subscribed pf key m) : ExpiryFinal pf key m events ↔ NoLateBoot pf key m events := by
  constructor
  · intro hfinal seen started now hseen r hr
    rw [← UInt64.not_le]
    intro hlate
    have hno := hfinal _ hseen ⟨r, hr, hlate⟩
    rw [after_append] at hno
    exact absurd (licenseIsAuthorized_init.symm.trans hno) (by decide)
  · intro hboot seen hseen hlate
    exact (h.ended hboot seen hseen hlate).not_authorized

/-- The machine with its key. -/
def sampleManager : Manager where
  disk := { licenseKey := some sampleKey }

theorem sampleManager_subscribed : Subscribed samplePlatform sampleKey sampleManager where
  keyLine := by decide +kernel
  signed := ⟨by decide +kernel, by decide +kernel, rfl⟩
  hwid := by decide +kernel
  days := by decide +kernel
  loaded h := nomatch h

theorem expiry_final_iff_sample :
    ExpiryFinal samplePlatform sampleKey sampleManager [.boot 1000 1000, .tick 0 3000] ↔
      NoLateBoot samplePlatform sampleKey sampleManager [.boot 1000 1000, .tick 0 3000] :=
  expiry_final_iff samplePlatform sampleKey sampleManager _ sampleManager_subscribed

/-- A tick at 3000 ends the subscription that expired at 2000; the next boot authorises for half an hour. -/
theorem boot_after_expiry :
    Subscribed samplePlatform sampleKey sampleManager ∧
      licenseIsAuthorized (after samplePlatform sampleManager [.boot 1000 1000, .tick 0 3000]) = false ∧
      licenseIsAuthorized
        (after samplePlatform sampleManager [.boot 1000 1000, .tick 0 3000, .boot 3000 3000]) = true ∧
      ¬ ExpiryFinal samplePlatform sampleKey sampleManager
        [.boot 1000 1000, .tick 0 3000, .boot 3000 3000] := by
  have hagain : licenseIsAuthorized
      (after samplePlatform sampleManager [.boot 1000 1000, .tick 0 3000, .boot 3000 3000]) = true := by
    decide +kernel
  refine ⟨sampleManager_subscribed, by decide +kernel, hagain, ?_⟩
  intro hfinal
  have hlate : ∃ r ∈ readings samplePlatform sampleManager
      [.boot 1000 1000, .tick 0 3000, .boot 3000 3000], (keyPayload sampleKey).expiresAt ≤ r :=
    ⟨3000, by decide +kernel, by decide +kernel⟩
  have hno := hfinal _ (List.prefix_refl _) hlate
  rw [hagain] at hno
  cases hno

end FluxWAN.License
