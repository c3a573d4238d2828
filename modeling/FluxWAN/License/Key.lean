/-
  Licence keys (`src/license_manager.c`: `parse_and_verify_license_key`; `src/crypto_ed25519.c`:
  `crypto_base64_decode`).

  A key is a text: base64, often in groups with dashes, of 140 bytes of payload and 64 bytes of Ed25519
  signature.  The decoder is forgiving — it skips blanks, line ends and dashes anywhere, reads `=` as a
  zero and stops at the first group it cannot start — and it never fails, so everything that keeps a
  wrong text out is the three checks behind it: length, magic, signature (`parseAndVerifyLicenseKey_ok_iff`).

  The signature check and the machine's fingerprint are the `Platform`: nothing here depends on how
  Ed25519 and SHA-256 work.
-/
import FluxWAN.Lib.Bytes
import FluxWAN.ProxyManager

namespace FluxWAN.License

open Bytes CString

/-! ## Base64 -/

/-- `b64_val`: `none` is its -1. -/
def b64Val (c : Char) : Option Nat := b64CharVal c

/-- What the decoder skips. -/
def isGap (c : Char) : Bool := c = ' ' || c = '\r' || c = '\n' || c = '-'

/-- A character in a group. -/
def sextet (c : Char) : Option Nat := if c = '=' then some 0 else b64Val c

/-- The bytes of one group; `none` is the `break`. -/
def groupBytes (b0 b1 b2 b3 : Option Nat) : Option (List UInt8) :=
  match b0, b1 with
  | some b0, some b1 =>
    some (UInt8.ofNat (b0 <<< 2 ||| b1 >>> 4) ::
      -- a foreign third character drops its byte but not the fourth one's, which then sees -1
      ((b2.map fun b2 => UInt8.ofNat ((b1 &&& 0x0F) <<< 4 ||| b2 >>> 2)).toList ++
        (b3.map fun b3 => UInt8.ofNat ((b2.elim 3 (· &&& 0x03)) <<< 6 ||| b3)).toList))
  | _, _ => none

/-- The outer loop, on a text without gaps. -/
def base64Groups : CStr → List UInt8
  | c0 :: c1 :: c2 :: c3 :: s =>
    (groupBytes (sextet c0) (sextet c1) (sextet c2) (sextet c3)).elim [] (· ++ base64Groups s)
  | [c0, c1, c2] => (groupBytes (sextet c0) (sextet c1) (sextet c2) none).getD []
  | [c0, c1] => (groupBytes (sextet c0) (sextet c1) none none).getD []
  | _ => []

/-- `crypto_base64_decode` into `dstMax` bytes. -/
def cryptoBase64Decode (src : CStr) (dstMax : Nat) : List UInt8 :=
  (base64Groups (src.filter (!isGap ·))).take dstMax

/-! ## The platform -/

/-- What the program asks the machine and the library for. -/
structure Platform where
  /-- `crypto_ed25519_verify (signature, message, …, MASTER_PUBLIC_KEY)`. -/
  ed25519Verify : List UInt8 → List UInt8 → Bool
  /-- The first eight bytes of SHA-256 over the salted machine data. -/
  fingerprint : Fin 8 → UInt8

/-- `%02X`. -/
def showHexByte (b : UInt8) : CStr :=
  [Nat.digitChar (b.toNat / 16), Nat.digitChar (b.toNat % 16)].map Char.toUpper

/-- `license_get_hardware_id`. -/
def Platform.hardwareId (pf : Platform) : CStr :=
  let pair (i : Fin 8) (j : Fin 8) := showHexByte (pf.fingerprint i) ++ showHexByte (pf.fingerprint j)
  "FWID-".toList ++ pair 0 1 ++ ['-'] ++ pair 2 3 ++ ['-'] ++ pair 4 5 ++ ['-'] ++ pair 6 7

/-! ## Payloads -/

/-- The fields of `license_payload_t` that the program reads. -/
structure LicensePayload where
  type : UInt8
  maxWans : UInt16
  issuedAt : UInt64
  expiresAt : UInt64
  daysTotal : UInt32
  hwid : CStr
  clientName : CStr
  deriving DecidableEq

/-- The C string that starts at offset `i`. -/
def textAt (bytes : List UInt8) (i : Nat) : CStr :=
  cstr ((bytes.drop i).map fun b => Char.ofNat b.toNat)

/-- `sizeof (license_payload_t)`. -/
def payloadSize : Nat := 140

/-- The packed record.  A name without a terminator runs on into the next field, as it does for `%s`. -/
def LicensePayload.ofBytes (bytes : List UInt8) : LicensePayload where
  type := byteAt bytes 5
  maxWans := le16 bytes 6
  issuedAt := le64 bytes 8
  expiresAt := le64 bytes 16
  daysTotal := le32 bytes 24
  hwid := textAt bytes 28
  clientName := textAt bytes 60

/-- `"FLIC"`. -/
def magic : List UInt8 := [0x46, 0x4C, 0x49, 0x43]

/-! ## Keys -/

/-- The base64 text of a key: without leading white space and the optional "FLUX-LIC-". -/
def keyBody (key : CStr) : CStr :=
  let p := key.dropWhile fun c => c = ' ' || c = '\t' || c = '\r' || c = '\n'
  if startsWith p "FLUX-LIC-".toList then p.drop 9 else p

/-- The bytes of a key: `blob`. -/
def keyBlob (key : CStr) : List UInt8 := cryptoBase64Decode (keyBody key) 512

/-- `parse_and_verify_license_key`; the error is its return code.  Its -2 would need a decoder that
    fails. -/
def parseAndVerifyLicenseKey (pf : Platform) (key : CStr) : Except Int LicensePayload :=
  let blob := keyBlob key
  let payload := blob.take payloadSize
  let signature := blob.drop payloadSize
  if blob.length ≠ payloadSize + 64 then .error (-3)
  else if payload.take 4 ≠ magic then .error (-4)
  else if !pf.ed25519Verify signature payload then .error (-5)
  else .ok (.ofBytes payload)

/-- A blob that the vendor signed. -/
structure Signed (pf : Platform) (blob : List UInt8) : Prop where
  length_eq : blob.length = 204
  magic_eq : blob.take 4 = magic
  verified : pf.ed25519Verify (blob.drop 140) (blob.take 140) = true

/-- The payload of a key's bytes. -/
def keyPayload (key : CStr) : LicensePayload := .ofBytes ((keyBlob key).take payloadSize)

/-- **What a key has to be**: the three checks, and the payload is what was signed. -/
theorem parseAndVerifyLicenseKey_ok_iff :
    parseAndVerifyLicenseKey pf key = .ok payload ↔
      Signed pf (keyBlob key) ∧ payload = keyPayload key := by
  have htake : ((keyBlob key).take payloadSize).take 4 = (keyBlob key).take 4 := by
    rw [List.take_take]
    rfl
  unfold parseAndVerifyLicenseKey keyPayload
  simp only [htake]
  constructor
  · intro h
    split at h
    · cases h
    · rename_i hlen
      split at h
      · cases h
      · rename_i hmagic
        split at h
        · cases h
        · rename_i hverify
          rw [Bool.not_eq_true, Bool.not_eq_false'] at hverify
          exact ⟨⟨not_not.mp hlen, not_not.mp hmagic, hverify⟩, (Except.ok.inj h).symm⟩
  · rintro ⟨hsigned, rfl⟩
    have hlen : (keyBlob key).length = payloadSize + 64 := hsigned.length_eq
    have hverify : pf.ed25519Verify ((keyBlob key).drop payloadSize)
        ((keyBlob key).take payloadSize) = true := hsigned.verified
    rw [if_neg (not_not.mpr hlen), if_neg (not_not.mpr hsigned.magic_eq), hverify]
    rfl

end FluxWAN.License
