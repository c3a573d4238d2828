/-
  What the return code of an activation is worth (`src/license_manager.c`: `license_manager_activate`).

  A refused key leaves everything as it was.  A key that is not refused is written to disk FIRST and evaluated
  afterwards, and the return code does not look at the evaluation: a subscription key on a machine whose clock is
  behind the watermark, or an expired key of a type the early test does not know, is answered with success and
  leaves an invalid licence (`activation_honest_iff`).
-/
import FluxWAN.License.Runs

namespace FluxWAN.License

open CString

/-- The licence of `m'` is valid, and it is what the key gives when it is evaluated now on the state `m`. -/
structure ValidBy (pf : Platform) (key : CStr) (now : UInt64) (m m' : Manager) : Prop where
  signed : Signed pf (keyBlob key)
  evaluated : m'.globals.info = (updateLicenseStatusFromPayload pf now (keyPayload key) m.globals.info
    (updateWatermark (m.disk.saveKey key) now)).1
  valid : m'.globals.info.isValid = true

/-- Success means a valid licence from this key, and an error leaves licence, key file and watermark alone. -/
structure HonestActivation (pf : Platform) (key : CStr) (now : UInt64) (m : Manager) : Prop where
  success : (licenseManagerActivate pf key now now m).1.rc = 0 ↔
    ValidBy pf key now m (licenseManagerActivate pf key now now m).2
  failure : (licenseManagerActivate pf key now now m).1.rc ≠ 0 →
    (licenseManagerActivate pf key now now m).2.globals = m.globals ∧
      (licenseManagerActivate pf key now now m).2.disk.licenseKey = m.disk.licenseKey ∧
      (licenseManagerActivate pf key now now m).2.disk.watermark = m.disk.watermark

/-- The key passes the checks before the key file is written. -/
structure Admitted (pf : Platform) (key : CStr) (now : UInt64) : Prop where
  signed : Signed pf (keyBlob key)
  hwid : strcasecmp (keyPayload key).hwid pf.hardwareId = true
  notExpired : ¬ ((keyPayload key).type = 1 ∧ now ≥ (keyPayload key).expiresAt)

section
variable {pf : Platform} {key : CStr} {now : UInt64} {m : Manager}

theorem not_signed_nil : ¬ Signed pf (keyBlob []) := fun h => absurd h.length_eq (by decide)

/-- **What an activation does**, for both outcomes. -/
theorem activate_of_not_admitted (h : ¬ Admitted pf key now) :
    (licenseManagerActivate pf key now now m).1.rc ≠ 0 ∧ (licenseManagerActivate pf key now now m).2 = m := by
  unfold licenseManagerActivate
  split
  · exact ⟨(by decide : (-1 : Int) ≠ 0), rfl⟩
  · rcases hparse : parseAndVerifyLicenseKey pf key with rc | payload
    · exact ⟨(by decide : (-1 : Int) ≠ 0), rfl⟩
    · obtain ⟨hsigned, rfl⟩ := parseAndVerifyLicenseKey_ok_iff.mp hparse
      dsimp only
      split_ifs with hhw hexp
      · exact ⟨(by decide : (-2 : Int) ≠ 0), rfl⟩
      · exact ⟨(by decide : (-3 : Int) ≠ 0), rfl⟩
      · exact absurd ⟨hsigned, by simpa using hhw, hexp⟩ h

theorem activate_of_admitted (h : Admitted pf key now) :
    (licenseManagerActivate pf key now now m).1.rc = 0 ∧
      (licenseManagerActivate pf key now now m).2.globals.info =
        (updateLicenseStatusFromPayload pf now (keyPayload key) m.globals.info
          (updateWatermark (m.disk.saveKey key) now)).1 := by
  have hne : key ≠ [] := fun hnil => not_signed_nil (hnil ▸ h.signed)
  have hhw : ¬ (!strcasecmp (keyPayload key).hwid pf.hardwareId) = true := by rw [h.hwid]; decide
  unfold licenseManagerActivate
  rw [if_neg hne, parseAndVerifyLicenseKey_ok_iff.mpr ⟨h.signed, rfl⟩]
  dsimp only
  rw [if_neg hhw, if_neg h.notExpired]
  exact ⟨rfl, rfl⟩

/-- Writing the key file does not touch the watermark. -/
theorem readWatermark_saveKey (d : Disk) :
    readWatermark (updateWatermark (d.saveKey key) now) = readWatermark (updateWatermark d now) := by
  unfold Disk.saveKey
  split
  · show readWatermark (if now > readWatermark d then
      (if d.watermarkWritable = true then
        { d with licenseKey := some (key ++ ['\n']), watermark := some (showNat now.toNat ++ ['\n']) }
      else { d with licenseKey := some (key ++ ['\n']) })
      else { d with licenseKey := some (key ++ ['\n']) }) = _
    unfold updateWatermark
    split_ifs <;> rfl
  · rfl

/-- When the evaluation of a key for this machine finds it valid. -/
theorem updateStatus_isValid_iff {payload : LicensePayload} (now : UInt64) (info : LicenseInfo) (d : Disk)
    (hhw : strcasecmp payload.hwid pf.hardwareId = true) :
    (updateLicenseStatusFromPayload pf now payload info d).1.isValid = true ↔
      payload.type = 2 ∨ rolledBack (readWatermark d) now = false ∧ now < payload.expiresAt := by
  have hhw' : ¬ (!strcasecmp payload.hwid pf.hardwareId) = true := by rw [hhw]; decide
  unfold updateLicenseStatusFromPayload
  dsimp only
  rw [if_neg hhw']
  by_cases htype : payload.type = 2
  · rw [if_pos htype]
    simp [htype]
  rw [if_neg htype]
  by_cases hback : rolledBack (readWatermark d) now = true
  · rw [if_pos hback]
    simp [htype, hback]
  rw [if_neg hback]
  by_cases hexp : now ≥ payload.expiresAt
  · rw [if_pos hexp]
    simp [htype, UInt64.not_lt.mpr hexp]
  · rw [if_neg hexp]
    simp [htype, hback, UInt64.not_le.mp hexp]

end

/-- **When the return code can be believed.**  For every key, clock, watermark and prior state: success means a
    licence valid by this key and errors change nothing, if and only if an admitted key that is not a lifetime key
    finds the clock not behind the watermark and itself not expired. -/
theorem activation_honest_iff (pf : Platform) (key : CStr) (now : UInt64) (m : Manager) :
    HonestActivation pf key now m ↔
      (Admitted pf key now → (keyPayload key).type ≠ 2 →
        rolledBack (readWatermark (updateWatermark m.disk now)) now = false ∧ now < (keyPayload key).expiresAt) := by
  by_cases h : Admitted pf key now
  · obtain ⟨hrc, hinfo⟩ := activate_of_admitted (m := m) h
    have hvalid := updateStatus_isValid_iff now m.globals.info (updateWatermark (m.disk.saveKey key) now) h.hwid
    rw [readWatermark_saveKey] at hvalid
    constructor
    · intro hhonest _ htype
      have hby := hhonest.success.mp hrc
      exact (hvalid.mp (hby.evaluated ▸ hby.valid)).resolve_left htype
    · intro hcond
      refine ⟨⟨fun _ => ⟨h.signed, hinfo, ?_⟩, fun _ => hrc⟩, fun hne => absurd hrc hne⟩
      rw [hinfo, hvalid]
      by_cases htype : (keyPayload key).type = 2
      · exact .inl htype
      · exact .inr (hcond h htype)
  · -- refused: nothing changes, and the key would not have been found valid either
    obtain ⟨hrc, hsame⟩ := activate_of_not_admitted (m := m) h
    refine ⟨fun _ hadmitted => absurd hadmitted h, fun _ => ⟨⟨fun h0 => absurd h0 hrc, fun hby => ?_⟩, fun _ => ?_⟩⟩
    · have hbyValid := hby.evaluated ▸ hby.valid
      obtain ⟨hhw, hcases⟩ := updateStatus_valid hbyValid
      refine absurd ⟨hby.signed, hhw, ?_⟩ h
      rintro ⟨htype, hexp⟩
      rcases hcases with ⟨hlife, -⟩ | ⟨-, hin⟩
      · rw [htype] at hlife
        exact absurd hlife (by decide)
      · exact UInt64.not_lt.mpr hexp hin.beforeExpiry
    · rw [hsame]
      exact ⟨rfl, rfl, rfl⟩

/-- The machine whose watermark is far ahead of the clock. -/
def aheadManager : Manager where
  disk := { watermark := some "1000000\n".toList }

/-- The clock reads 1000: the subscription is "activated", and is invalid. -/
theorem activation_rolled_back :
    (licenseManagerActivate samplePlatform sampleKey 1000 1000 aheadManager).1.rc = 0 ∧
      (licenseManagerActivate samplePlatform sampleKey 1000 1000 aheadManager).2.globals.info.isValid = false ∧
      ¬ HonestActivation samplePlatform sampleKey 1000 aheadManager := by
  have hrc : (licenseManagerActivate samplePlatform sampleKey 1000 1000 aheadManager).1.rc = 0 := by decide +kernel
  have hinvalid :
      (licenseManagerActivate samplePlatform sampleKey 1000 1000 aheadManager).2.globals.info.isValid = false := by
    decide +kernel
  refine ⟨hrc, hinvalid, fun h => ?_⟩
  have hvalid := (h.success.mp hrc).valid
  rw [hinvalid] at hvalid
  cases hvalid

end FluxWAN.License
