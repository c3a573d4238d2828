/-
  The licence manager (`src/license_manager.c`).

  One record of globals, `g_license_info`, is updated field by field from three entry points: `init` at
  start, `tick` from the main loop, `activate` from the web interface.  On disk there are the key and the
  watermark, the latest time the manager has seen.

  An EVALUATION of a subscription compares the clock with the watermark and with the date of expiry.  There
  are two, written out twice in the source and not quite alike: one when a key is loaded
  (`updateLicenseStatusFromPayload`) and one in every tick of a valid subscription
  (`tickSubscription`).  What both have in common is said by `updateStatus_valid` and
  `tickSubscription_cases`: a licence that is valid afterwards was evaluated by a clock before its expiry
  that is at most 300 s behind the watermark.

  Everything else the manager does to `is_valid` is to clear it.
-/
import FluxWAN.License.Key
import FluxWAN.Lib.Numerals

namespace FluxWAN.License

open CString

/-! ## State -/

/-- `license_type_t`. -/
inductive LicenseType where
  | unlicensed
  | days
  | lifetime
  deriving DecidableEq, Repr

/-- `license_status_t`. -/
inductive LicenseStatus where
  | unlicensed
  | active
  | expired
  | tampered
  | hwMismatch
  | grace
  deriving DecidableEq, Repr

/-- `LICENSE_DEFAULT_GRACE_SEC`. -/
def licenseDefaultGraceSec : UInt32 := 1800

/-- `license_info_t`, with the initial value of `g_license_info`. -/
structure LicenseInfo where
  type : LicenseType := .unlicensed
  status : LicenseStatus := .grace
  isValid : Bool := false
  hwid : CStr := "FWID-UNINITIALIZED".toList
  clientName : CStr := "Unregistered System".toList
  maxWans : UInt16 := 3
  daysTotal : UInt32 := 0
  daysRemaining : UInt32 := 0
  issuedAt : UInt64 := 0
  expiresAt : UInt64 := 0
  activeSecondsRemaining : UInt64 := 0
  graceSecondsRemaining : UInt32 := licenseDefaultGraceSec
  statusStr : CStr := "GRACE_PERIOD".toList
  typeStr : CStr := "UNLICENSED".toList

/-- The globals of a process. -/
structure Globals where
  info : LicenseInfo := {}
  bootTimestamp : UInt64 := 0
  lastTickMs : UInt64 := 0

/-- The two files; a file that cannot be opened for reading is no file. -/
structure Disk where
  licenseKey : Option (List Char) := none
  watermark : Option (List Char) := none
  keyWritable : Bool := true
  watermarkWritable : Bool := true

/-- A running manager. -/
structure Manager where
  globals : Globals := {}
  disk : Disk := {}

/-- A valid licence, or time left in the grace period. -/
def LicenseInfo.authorizes (info : LicenseInfo) : Bool :=
  info.isValid || (info.status = .grace && info.graceSecondsRemaining > 0)

/-- `license_is_authorized`. -/
def licenseIsAuthorized (m : Manager) : Bool := m.globals.info.authorizes

/-! ## The watermark -/

/-- `read_watermark`: `fscanf` of `%llu` reads what `strtoull` reads, and 0 stands for no number. -/
def readWatermark (d : Disk) : UInt64 := (d.watermark.map strtoull).getD 0

/-- `update_watermark`. -/
def updateWatermark (d : Disk) (currentTs : UInt64) : Disk :=
  if currentTs > readWatermark d then
    if d.watermarkWritable then { d with watermark := some (showNat currentTs.toNat ++ ['\n']) } else d
  else d

/-- "Clock was rolled back by more than 5 minutes". -/
def rolledBack (watermark now : UInt64) : Bool := watermark > 0 && now + 300 < watermark

/-- The sum may wrap, but then the clock is ahead of any small watermark. -/
theorem le_of_not_rolledBack {watermark now : UInt64} (h : rolledBack watermark now = false) :
    watermark.toNat ≤ now.toNat + 300 := by
  have hcases : watermark.toNat = 0 ∨ watermark.toNat ≤ (now.toNat + 300) % 2 ^ 64 := by
    rw [or_iff_not_imp_left]
    simpa [rolledBack, UInt64.lt_iff_toNat_lt, UInt64.toNat_add, Nat.pos_iff_ne_zero] using h
  have hmod := Nat.mod_le (now.toNat + 300) (2 ^ 64)
  omega

/-! ## Loading a key -/

/-- `(rem_sec + 86399) / 86400`. -/
def daysLeft (remSec : UInt64) : UInt32 := ((remSec + 86399) / 86400).toUInt32

/-- What `update_license_status_from_payload` copies before it looks at anything. -/
def LicenseInfo.copyPayload (info : LicenseInfo) (payload : LicensePayload) : LicenseInfo :=
  { info with
    maxWans := if payload.maxWans > 0 then payload.maxWans else 256
    issuedAt := payload.issuedAt
    expiresAt := payload.expiresAt
    daysTotal := payload.daysTotal
    clientName := copyInto 64 payload.clientName
    hwid := copyInto 32 payload.hwid }

/-- `update_license_status_from_payload`, when the clock shows `now`. -/
def updateLicenseStatusFromPayload (pf : Platform) (now : UInt64) (payload : LicensePayload)
    (info : LicenseInfo) (d : Disk) : LicenseInfo × Disk :=
  let info := info.copyPayload payload
  if !strcasecmp payload.hwid pf.hardwareId then
    ({ info with
      status := .hwMismatch
      isValid := false
      statusStr := "HW_MISMATCH".toList
      typeStr := if payload.type = 2 then "LIFETIME".toList else "DAYS".toList }, d)
  else if payload.type = 2 then
    ({ info with
      type := .lifetime
      status := .active
      isValid := true
      daysRemaining := 99999
      activeSecondsRemaining := 0xFFFFFFFF
      statusStr := "ACTIVE".toList
      typeStr := "LIFETIME".toList }, d)
  else
    let info := { info with type := .days, typeStr := "DAYS".toList }
    if rolledBack (readWatermark d) now then
      ({ info with
        status := .tampered
        isValid := false
        daysRemaining := 0
        activeSecondsRemaining := 0
        statusStr := "CLOCK_TAMPERED".toList }, d)
    else if now ≥ payload.expiresAt then
      ({ info with
        status := .expired
        isValid := false
        daysRemaining := 0
        activeSecondsRemaining := 0
        statusStr := "EXPIRED".toList }, updateWatermark d now)
    else
      let remSec := payload.expiresAt - now
      ({ info with
        status := .active
        isValid := true
        activeSecondsRemaining := remSec
        daysRemaining := daysLeft remSec
        statusStr := "ACTIVE".toList }, updateWatermark d now)

/-! ## Entry points -/

/-- `fgets (key_buf, 1024, f)`, as the C string it leaves; `none` at the end of the file. -/
def fgetsLine (content : List Char) : Option CStr :=
  if content = [] then none
  else
    let line := content.takeWhile (· ≠ '\n') ++ (content.dropWhile (· ≠ '\n')).take 1
    some (cstr (line.take 1023))

/-- The key that `license_manager_init` reads. -/
def Disk.keyLine (d : Disk) : Option CStr := d.licenseKey.bind fgetsLine

/-- "Check if existing license key file exists": a key that does not verify changes nothing. -/
def loadKeyFile (pf : Platform) (now : UInt64) (info : LicenseInfo) (d : Disk) : LicenseInfo × Disk :=
  match d.keyLine.map (parseAndVerifyLicenseKey pf) with
  | some (.ok payload) => updateLicenseStatusFromPayload pf now payload info d
  | _ => (info, d)

/-- "If unlicensed, check grace period". -/
def grantGrace (info : LicenseInfo) : LicenseInfo :=
  if !info.isValid then
    { info with
      status := .grace
      graceSecondsRemaining := licenseDefaultGraceSec
      statusStr := "GRACE_PERIOD".toList }
  else info

/-- `license_manager_init`, whose clock shows `boot` first and `now` when the key is looked at. -/
def licenseManagerInit (pf : Platform) (boot now : UInt64) (m : Manager) : Manager :=
  let info := { m.globals.info with hwid := copyInto 32 pf.hardwareId }
  let (info, d) := loadKeyFile pf now info m.disk
  { globals := { info := grantGrace info, bootTimestamp := boot, lastTickMs := 0 }, disk := d }

/-- `elapsed_sec` of a tick, and `g_last_tick_ms` after it. -/
def tickElapsed (lastTickMs nowMs : UInt64) : UInt32 × UInt64 :=
  if lastTickMs > 0 ∧ nowMs > lastTickMs then
    let elapsed := ((nowMs - lastTickMs) / 1000).toUInt32
    (elapsed, if elapsed > 0 then nowMs else lastTickMs)
  else (0, nowMs)

/-- "Handle Grace Period for unactivated installations". -/
def tickGrace (elapsed : UInt32) (info : LicenseInfo) : LicenseInfo :=
  if !info.isValid && info.status = .grace && elapsed > 0 then
    if info.graceSecondsRemaining > elapsed then
      { info with graceSecondsRemaining := info.graceSecondsRemaining - elapsed }
    else
      { info with
        graceSecondsRemaining := 0
        status := .unlicensed
        statusStr := "UNLICENSED".toList }
  else info

/-- "For Days-based active licenses, update remaining time and watermark": the branch that reads the
    clock. -/
def tickSubscription (now : UInt64) (info : LicenseInfo) (d : Disk) : LicenseInfo × Disk :=
  if rolledBack (readWatermark d) now then
    ({ info with status := .tampered, isValid := false, statusStr := "CLOCK_TAMPERED".toList }, d)
  else if now ≥ info.expiresAt then
    ({ info with
      status := .expired
      isValid := false
      daysRemaining := 0
      activeSecondsRemaining := 0
      statusStr := "EXPIRED".toList }, updateWatermark d now)
  else
    let remSec := info.expiresAt - now
    ({ info with activeSecondsRemaining := remSec, daysRemaining := daysLeft remSec }, updateWatermark d now)

/-- A valid subscription: its ticks read the clock. -/
def LicenseInfo.subscribes (info : LicenseInfo) : Bool := info.isValid && info.type = .days

/-- `license_manager_tick`, while the clock shows `now`. -/
def licenseManagerTick (nowMs now : UInt64) (m : Manager) : Manager :=
  let (elapsed, lastTickMs) := tickElapsed m.globals.lastTickMs nowMs
  let info := tickGrace elapsed m.globals.info
  let (info, d) := if info.subscribes then tickSubscription now info m.disk else (info, m.disk)
  { globals := { m.globals with info, lastTickMs }, disk := d }

/-- What an entry point answers. -/
structure Reply where
  rc : Int
  message : CStr

/-- The message for a key that does not verify. -/
def keyErrorText (rc : Int) : CStr :=
  if rc = -2 then "Invalid Base64 format.".toList
  else if rc = -3 then "Invalid license key length.".toList
  else if rc = -4 then "Unrecognized license header.".toList
  else if rc = -5 then "Cryptographic signature verification failed (Untrusted Key).".toList
  else "License verification error (".toList ++ (toString rc).toList ++ ").".toList

/-- "Save verified key to disk". -/
def Disk.saveKey (d : Disk) (key : CStr) : Disk :=
  if d.keyWritable then { d with licenseKey := some (key ++ ['\n']) } else d

/-- `license_manager_activate`, whose clock shows `checked` at the test for expiry and `now` at the
    evaluation. -/
def licenseManagerActivate (pf : Platform) (key : CStr) (checked now : UInt64) (m : Manager) :
    Reply × Manager :=
  if key = [] then (⟨-1, "License key string is empty.".toList⟩, m)
  else
    match parseAndVerifyLicenseKey pf key with
    | .error rc => (⟨-1, keyErrorText rc⟩, m)
    | .ok payload =>
      if !strcasecmp payload.hwid pf.hardwareId then
        (⟨-2, "License Hardware ID mismatch! Key is for [".toList ++ payload.hwid ++
          "], but this machine is [".toList ++ pf.hardwareId ++ "].".toList⟩, m)
      else if payload.type = 1 ∧ checked ≥ payload.expiresAt then
        (⟨-3, "This subscription key has already expired.".toList⟩, m)
      else
        let d := updateWatermark (m.disk.saveKey key) checked
        let (info, d) := updateLicenseStatusFromPayload pf now payload m.globals.info d
        (⟨0, "Success: Activated ".toList ++ info.typeStr ++ " license for ".toList ++
          info.clientName ++ ".".toList⟩, { globals := { m.globals with info }, disk := d })

/-! ## What they do to validity -/

/-- What later calls read of a licence. -/
def LicenseInfo.standing (info : LicenseInfo) : Bool × LicenseType × UInt64 :=
  (info.isValid, info.type, info.expiresAt)

theorem LicenseInfo.standing_eq_iff {info info' : LicenseInfo} :
    info.standing = info'.standing ↔
      info.isValid = info'.isValid ∧ info.type = info'.type ∧ info.expiresAt = info'.expiresAt := by
  simp [standing]

/-- The clock and the watermark of an evaluation. -/
structure Evaluation where
  clock : UInt64
  watermark : UInt64
  deriving DecidableEq

/-- The evaluation lets a subscription pass. -/
structure Evaluation.InTime (ev : Evaluation) (expiresAt : UInt64) : Prop where
  beforeExpiry : ev.clock < expiresAt
  notBehind : ev.watermark.toNat ≤ ev.clock.toNat + 300

section
variable {pf : Platform} {now : UInt64} {payload : LicensePayload} {info : LicenseInfo} {d : Disk}

theorem updateStatus_expiresAt :
    (updateLicenseStatusFromPayload pf now payload info d).1.expiresAt = payload.expiresAt := by
  unfold updateLicenseStatusFromPayload LicenseInfo.copyPayload
  dsimp only
  split_ifs <;> rfl

/-- A key that is valid once loaded is for this machine, and a lifetime key or in time. -/
theorem updateStatus_valid
    (h : (updateLicenseStatusFromPayload pf now payload info d).1.isValid = true) :
    strcasecmp payload.hwid pf.hardwareId = true ∧
      (payload.type = 2 ∧
          (updateLicenseStatusFromPayload pf now payload info d).1.type = .lifetime ∨
        payload.type ≠ 2 ∧ Evaluation.InTime ⟨now, readWatermark d⟩ payload.expiresAt) := by
  unfold updateLicenseStatusFromPayload at h ⊢
  dsimp only at h ⊢
  split_ifs at h ⊢ with hhw htype hback hexp
  · exact ⟨by simpa using hhw, .inl ⟨htype, rfl⟩⟩
  · refine ⟨by simpa using hhw, .inr ⟨htype, ?_, ?_⟩⟩
    · exact UInt64.not_le.mp hexp
    · exact le_of_not_rolledBack (by simpa using hback)

/-- A subscription for this machine is of the DAYS type once loaded. -/
theorem updateStatus_type_of_subscription (hhw : strcasecmp payload.hwid pf.hardwareId = true)
    (htype : payload.type ≠ 2) :
    (updateLicenseStatusFromPayload pf now payload info d).1.type = .days := by
  unfold updateLicenseStatusFromPayload
  dsimp only
  rw [hhw, if_neg (by decide), if_neg htype]
  split_ifs <;> rfl

/-- An evaluation in a tick keeps the expiry and the type, … -/
theorem tickSubscription_fields :
    (tickSubscription now info d).1.expiresAt = info.expiresAt ∧
      (tickSubscription now info d).1.type = info.type := by
  unfold tickSubscription
  split
  · exact ⟨rfl, rfl⟩
  · split
    · exact ⟨rfl, rfl⟩
    · exact ⟨rfl, rfl⟩

/-- … and ends the licence unless it is in time. -/
theorem tickSubscription_cases :
    (tickSubscription now info d).1.isValid = false ∧ (tickSubscription now info d).1.status ≠ .grace ∨
      Evaluation.InTime ⟨now, readWatermark d⟩ info.expiresAt := by
  unfold tickSubscription
  dsimp only
  split_ifs with hback hexp
  · exact .inl ⟨rfl, nofun⟩
  · exact .inl ⟨rfl, nofun⟩
  · exact .inr ⟨UInt64.not_le.mp hexp, le_of_not_rolledBack (by simpa using hback)⟩

theorem standing_tickGrace : (tickGrace elapsed info).standing = info.standing := by
  unfold tickGrace
  split_ifs <;> rfl

/-- Grace time only runs while there is grace. -/
theorem tickGrace_of_not_grace (h : info.status ≠ .grace) : tickGrace elapsed info = info := by
  simp [tickGrace, h]

theorem tickGrace_of_valid (h : info.isValid = true) : tickGrace elapsed info = info := by
  simp [tickGrace, h]

theorem standing_grantGrace : (grantGrace info).standing = info.standing := by
  unfold grantGrace
  split_ifs <;> rfl

/-- A key file whose key is signed is loaded, … -/
theorem loadKeyFile_of_signed (hline : d.keyLine = some key) (hsigned : Signed pf (keyBlob key)) :
    loadKeyFile pf now info d = updateLicenseStatusFromPayload pf now (keyPayload key) info d := by
  have hparse := parseAndVerifyLicenseKey_ok_iff.mpr ⟨hsigned, rfl⟩
  simp [loadKeyFile, hline, hparse]

/-- … and any other is ignored. -/
theorem loadKeyFile_of_not_signed (h : ∀ key, d.keyLine = some key → ¬ Signed pf (keyBlob key)) :
    loadKeyFile pf now info d = (info, d) := by
  unfold loadKeyFile
  rcases hline : d.keyLine with _ | key
  · rfl
  · rcases hparse : parseAndVerifyLicenseKey pf key with rc | payload
    · simp [hparse]
    · exact absurd (parseAndVerifyLicenseKey_ok_iff.mp hparse).1 (h key hline)

theorem grantGrace_authorizes : (grantGrace info).authorizes = true := by
  unfold grantGrace
  rcases hvalid : info.isValid with _ | _
  · rfl
  · simp [LicenseInfo.authorizes, hvalid]

end

section
variable {pf : Platform} {boot now : UInt64} {m : Manager}

/-- A tick of a valid subscription evaluates it. -/
theorem licenseManagerTick_of_subscribes (h : m.globals.info.subscribes = true) :
    (licenseManagerTick nowMs now m).globals.info = (tickSubscription now m.globals.info m.disk).1 ∧
      (licenseManagerTick nowMs now m).disk = (tickSubscription now m.globals.info m.disk).2 := by
  have hvalid : m.globals.info.isValid = true := ((Bool.and_eq_true _ _).mp h).1
  simp [licenseManagerTick, tickGrace_of_valid hvalid, h]

/-- Any other tick leaves the clock, the files and the validity alone. -/
theorem licenseManagerTick_of_not_subscribes (nowMs now : UInt64)
    (h : m.globals.info.subscribes = false) :
    (licenseManagerTick nowMs now m).globals.info =
        tickGrace (tickElapsed m.globals.lastTickMs nowMs).1 m.globals.info ∧
      (licenseManagerTick nowMs now m).disk = m.disk := by
  have hsub : (tickGrace (tickElapsed m.globals.lastTickMs nowMs).1 m.globals.info).subscribes = false := by
    obtain ⟨hvalid, htype, -⟩ := LicenseInfo.standing_eq_iff.mp standing_tickGrace
    rw [← h, LicenseInfo.subscribes, hvalid, htype, LicenseInfo.subscribes]
  simp [licenseManagerTick, hsub]

/-- No tick authorises. -/
theorem not_authorized_tick (h : licenseIsAuthorized m = false) :
    licenseIsAuthorized (licenseManagerTick nowMs now m) = false := by
  obtain ⟨hvalid, hgrace⟩ : m.globals.info.isValid = false ∧
      (m.globals.info.status = .grace → m.globals.info.graceSecondsRemaining = 0) := by
    simpa [licenseIsAuthorized, LicenseInfo.authorizes] using h
  have hsub : m.globals.info.subscribes = false := by simp [LicenseInfo.subscribes, hvalid]
  rw [licenseIsAuthorized, (licenseManagerTick_of_not_subscribes nowMs now hsub).1]
  by_cases hst : m.globals.info.status = .grace
  · -- the grace period is used up; the tick may say so
    unfold tickGrace
    rw [hgrace hst]
    split_ifs with hrun hleft
    · exact absurd hleft (UInt32.not_lt_zero)
    · simp [LicenseInfo.authorizes, hvalid]
    · exact h
  · rw [tickGrace_of_not_grace hst]
    exact h

/-- `init` with a signed key in the file. -/
theorem licenseManagerInit_of_signed (hline : m.disk.keyLine = some key) (hsigned : Signed pf (keyBlob key)) :
    ∃ info, (licenseManagerInit pf boot now m).globals.info =
        grantGrace (updateLicenseStatusFromPayload pf now (keyPayload key) info m.disk).1 ∧
      (licenseManagerInit pf boot now m).disk =
        (updateLicenseStatusFromPayload pf now (keyPayload key) info m.disk).2 := by
  refine ⟨{ m.globals.info with hwid := copyInto 32 pf.hardwareId }, ?_, ?_⟩
  · show grantGrace (loadKeyFile _ _ _ _).1 = _
    rw [loadKeyFile_of_signed hline hsigned]
  · show (loadKeyFile _ _ _ _).2 = _
    rw [loadKeyFile_of_signed hline hsigned]

/-- **`init` always authorises**: by the key, or by thirty minutes of grace. -/
theorem licenseIsAuthorized_init : licenseIsAuthorized (licenseManagerInit pf boot now m) = true :=
  grantGrace_authorizes

/-- An activation is refused and changes nothing, or it loads the key. -/
theorem licenseManagerActivate_cases (key : CStr) (m : Manager) :
    (licenseManagerActivate pf key checked now m).1.rc ≠ 0 ∧
        (licenseManagerActivate pf key checked now m).2 = m ∨
      (licenseManagerActivate pf key checked now m).1.rc = 0 ∧ Signed pf (keyBlob key) ∧
        (licenseManagerActivate pf key checked now m).2.globals.info =
          (updateLicenseStatusFromPayload pf now (keyPayload key) m.globals.info
            (updateWatermark (m.disk.saveKey key) checked)).1 := by
  unfold licenseManagerActivate
  split
  · exact .inl ⟨(by decide : (-1 : Int) ≠ 0), rfl⟩
  · rcases hparse : parseAndVerifyLicenseKey pf key with rc | payload
    · exact .inl ⟨(by decide : (-1 : Int) ≠ 0), rfl⟩
    · obtain ⟨hsigned, rfl⟩ := parseAndVerifyLicenseKey_ok_iff.mp hparse
      dsimp only
      split_ifs
      · exact .inl ⟨(by decide : (-2 : Int) ≠ 0), rfl⟩
      · exact .inl ⟨(by decide : (-3 : Int) ≠ 0), rfl⟩
      · exact .inr ⟨rfl, hsigned, rfl⟩

end

end FluxWAN.License
