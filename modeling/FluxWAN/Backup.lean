/-
  Backups (`src/config.c`: `config_validate_wan_attachments`, `config_calc_checksum`, `config_export_backup`,
  `config_import_backup`).

  An export is a header with a checksum and the saved configuration as an object behind it.  An import cuts the
  object out of the text, loads it into a fresh record, checks it, and only then replaces the running
  configuration, keeping its path and its session token.

  * The import is a transaction (`import_contract`): a failed one changes nothing, a successful one leaves a
    configuration with a LAN address and sound port allocations that is otherwise what `config_load` reads.
  * `attachments_valid_iff` says which port allocations are sound: a PPPoE or static WAN has its port to itself.
  * It does not look at the checksum: an edited object is rejected exactly when it is rejected for another reason
    (`damaged_rejected_iff`).

  File and memory failures are parameters; what was written to the temporary file is read back from it.
-/
import FluxWAN.JsonBlocks

namespace FluxWAN

open CString QuotedText

variable {env : ImportEnv} {e : ExportEnv} {object : CStr}

/-! ## Port allocations -/

/-- How many WANs of a type share the port of `w`. -/
def portCount (wans : List WanConfig) (w : WanConfig) (type : WanType) : Nat :=
  wans.countP fun w' => w.name = w'.name && w'.type = type

def lanPortError (lan label : CStr) : CStr :=
  "Interface '".toList ++ lan ++ "' is dedicated to LAN Gateway and cannot be used for WAN '".toList ++ label ++
    "'.".toList

/-- What is wrong with the allocation of one port. -/
def portError (name : CStr) (dhcp static pppoe wifi : Nat) : Option CStr :=
  if wifi > 1 then
    some ("Physical interface '".toList ++ name ++ "' has ".toList ++ showNat wifi ++
      " WiFi clients configured. A wireless card can only connect to 1 WiFi network concurrently.".toList)
  else if dhcp > 1 then
    some ("Physical interface '".toList ++ name ++ "' has ".toList ++ showNat dhcp ++
      " DHCP clients configured. A physical port can only host 1 DHCP client.".toList)
  else if static > 1 then
    some ("Physical interface '".toList ++ name ++ "' has multiple Static IP WANs configured. ".toList ++
      "A physical port requires an exclusive IP configuration.".toList)
  else if (dhcp > 0 ∧ static > 0) ∨ ((dhcp > 0 ∨ static > 0) ∧ pppoe > 0) ∨
      (wifi > 0 ∧ (dhcp > 0 ∨ static > 0 ∨ pppoe > 0)) then
    some ("Physical interface '".toList ++ name ++ "' mixes exclusive network modes with other WANs. ".toList ++
      "A dedicated port is required.".toList)
  else none

/-- `config_validate_wan_attachments`: the error text, if any. -/
def configValidateWanAttachments (c : Config) : Option CStr :=
  ((c.wans.find? fun w => w.name ≠ [] && w.name = c.lan.name).map fun w => lanPortError c.lan.name w.label).or
    (c.wans.findSome? fun w =>
      if w.name = [] then none
      else
        portError w.name (portCount c.wans w .dhcp) (portCount c.wans w .static) (portCount c.wans w .pppoe)
          (portCount c.wans w .wifi))

/-- The ports are allocated: none is the LAN's, and each has one WAN, or just PPPoE sessions. -/
structure PortsAllocated (lan : CStr) (wans : List WanConfig) : Prop where
  lan : ∀ w ∈ wans, w.name ≠ [] → w.name ≠ lan
  exclusive : ∀ name, name ≠ [] → (∃ w ∈ wans, w.name = name) →
    (∀ w ∈ wans, w.name = name → w.type = .pppoe) ∨ (wans.filter fun w => w.name = name).length = 1

/-- Every WAN has one of the four types. -/
theorem portCount_total (wans : List WanConfig) (w : WanConfig) :
    portCount wans w .dhcp + portCount wans w .static + portCount wans w .pppoe + portCount wans w .wifi =
      (wans.filter fun w' => w'.name = w.name).length := by
  rw [← List.countP_eq_length_filter]
  unfold portCount
  induction wans with
  | nil => rfl
  | cons w' wans ih =>
    simp only [List.countP_cons, ← ih, eq_comm (a := w.name)]
    by_cases hname : w'.name = w.name
    · cases htype : w'.type <;> simp [hname] <;> omega
    · simp [hname]

/-- The rejections of the source, all in one. -/
theorem portError_eq_none_iff (name : CStr) {dhcp static pppoe wifi : Nat} (hused : 0 < dhcp + static + pppoe + wifi) :
    portError name dhcp static pppoe wifi = none ↔
      (dhcp = 0 ∧ static = 0 ∧ wifi = 0) ∨ dhcp + static + pppoe + wifi = 1 := by
  unfold portError
  split_ifs
  all_goals simp only [false_iff, true_iff]
  all_goals omega

theorem only_pppoe_iff {wans : List WanConfig} {w : WanConfig} :
    (portCount wans w .dhcp = 0 ∧ portCount wans w .static = 0 ∧ portCount wans w .wifi = 0) ↔
      ∀ w' ∈ wans, w'.name = w.name → w'.type = .pppoe := by
  simp only [portCount, List.countP_eq_zero, ← forall_and, eq_comm (a := w.name)]
  refine forall₂_congr fun w' _ => ?_
  by_cases hname : w'.name = w.name
  · cases w'.type <;> simp [hname]
  · simp [hname]

theorem configValidateWanAttachments_eq_none_iff (c : Config) :
    configValidateWanAttachments c = none ↔ PortsAllocated c.lan.name c.wans := by
  have hport : ∀ w ∈ c.wans, portError w.name (portCount c.wans w .dhcp) (portCount c.wans w .static)
      (portCount c.wans w .pppoe) (portCount c.wans w .wifi) = none ↔
        (∀ w' ∈ c.wans, w'.name = w.name → w'.type = .pppoe) ∨
          (c.wans.filter fun w' => w'.name = w.name).length = 1 := by
    intro w hw
    have htotal := portCount_total c.wans w
    have hused : 0 < (c.wans.filter fun w' => w'.name = w.name).length :=
      List.length_pos_of_mem (List.mem_filter.mpr ⟨hw, by simp⟩)
    rw [portError_eq_none_iff _ (by omega), only_pppoe_iff, htotal]
  rw [configValidateWanAttachments, Option.or_eq_none_iff, Option.map_eq_none_iff, List.find?_eq_none,
    List.findSome?_eq_none_iff]
  simp only [Bool.and_eq_true, decide_eq_true_eq, not_and]
  constructor
  · rintro ⟨hlan, hports⟩
    refine ⟨hlan, ?_⟩
    rintro name hne ⟨w, hw, rfl⟩
    have h := hports w hw
    rw [if_neg hne] at h
    exact (hport w hw).mp h
  · intro h
    refine ⟨h.lan, fun w hw => ?_⟩
    split_ifs with hne
    · rfl
    · exact (hport w hw).mpr (h.exclusive w.name hne ⟨w, hw, rfl⟩)

/-- Fewer WANs are allocated as well. -/
theorem PortsAllocated.subperm {lan : CStr} {wans wans' : List WanConfig} (h : PortsAllocated lan wans)
    (hsub : wans'.Subperm wans) : PortsAllocated lan wans' := by
  refine ⟨fun w hw => h.lan w (hsub.subset hw), ?_⟩
  rintro name hne ⟨w, hw, hname⟩
  rcases h.exclusive name hne ⟨w, hsub.subset hw, hname⟩ with hppp | hone
  · exact .inl fun w' hw' => hppp w' (hsub.subset hw')
  · have hle := (hsub.filter fun w => w.name = name).length_le
    have hused : 0 < (wans'.filter fun w => w.name = name).length :=
      List.length_pos_of_mem (List.mem_filter.mpr ⟨hw, by simp [hname]⟩)
    exact .inr (by omega)

/-- **The verdict on the ports**, for every configuration; it does not depend on the order of the WANs, and what
    is valid stays valid without one of them. -/
theorem attachments_valid_iff (c : Config) :
    (configValidateWanAttachments c = none ↔ PortsAllocated c.lan.name c.wans) ∧
    ∀ c' : Config, c'.lan.name = c.lan.name →
      (c'.wans.Perm c.wans → (configValidateWanAttachments c' = none ↔ configValidateWanAttachments c = none)) ∧
      ∀ i, c'.wans = c.wans.eraseIdx i → configValidateWanAttachments c = none →
        configValidateWanAttachments c' = none := by
  refine ⟨configValidateWanAttachments_eq_none_iff c, fun c' hlan => ?_⟩
  simp only [configValidateWanAttachments_eq_none_iff, hlan]
  refine ⟨fun hperm => ⟨fun h => h.subperm hperm.symm.subperm, fun h => h.subperm hperm.subperm⟩, fun i herase h => ?_⟩
  rw [herase]
  exact h.subperm (List.eraseIdx_sublist _ _).subperm

/-! ## Export -/

/-- A `char` as the `int` it is promoted to, then as a `uint32_t`. -/
def signedChar (ch : Char) : UInt32 :=
  if ch.toNat < 128 then UInt32.ofNat ch.toNat else UInt32.ofNat (ch.toNat + (2 ^ 32 - 256))

/-- `config_calc_checksum`: blanks do not count. -/
def configCalcChecksum (data : CStr) : UInt32 :=
  data.foldl
    (fun hash ch =>
      if ch ≠ ' ' ∧ ch ≠ '\t' ∧ ch ≠ '\r' ∧ ch ≠ '\n' then ((hash <<< 5) + hash) + signedChar ch else hash) 5381

/-- What the header says about the program, the machine and the time. -/
structure ExportEnv where
  version : CStr
  author : CStr
  license : CStr
  createdAt : Nat
  createdAtIso : CStr
  hostname : CStr

/-- The keys of the header. -/
inductive HeaderKey where
  | fluxwanBackup | version | author | license | createdAt | createdAtIso | hostname | architecture | wanCount
  | checksum | type | config
  deriving DecidableEq

namespace HeaderKey

def text : HeaderKey → CStr
  | fluxwanBackup => "fluxwan_backup".toList
  | version => "version".toList
  | author => "author".toList
  | license => "license".toList
  | createdAt => "created_at".toList
  | createdAtIso => "created_at_iso".toList
  | hostname => "hostname".toList
  | architecture => "architecture".toList
  | wanCount => "wan_count".toList
  | checksum => "checksum".toList
  | type => "type".toList
  | config => "config".toList

/-- Every key of the header. -/
def all : List HeaderKey :=
  [fluxwanBackup, version, author, license, createdAt, createdAtIso, hostname, architecture, wanCount, checksum,
   type, config]

theorem mem_all (k : HeaderKey) : k ∈ all := by cases k <;> decide

theorem nodup_code : (all.map fun k => Key.code k.text).Nodup := by decide +kernel

theorem text_injective (k k' : HeaderKey) (h : k.text = k'.text) : k = k' :=
  List.inj_on_of_nodup_map nodup_code (mem_all k) (mem_all k') (congrArg Key.code h)

theorem text_spelling (k : HeaderKey) : k.text ≠ [] ∧ k.text.all isWord = true := by
  cases k <;> decide +kernel

end HeaderKey

instance : Spelled HeaderKey where
  name := HeaderKey.text
  name_injective := HeaderKey.text_injective
  name_ne_nil k := (HeaderKey.text_spelling k).1
  name_word k := List.all_eq_true.mp (HeaderKey.text_spelling k).2

/-- A setting of the header with more to come. -/
def headerLine (k : HeaderKey) (v : Value) : List (Tok HeaderKey) := [.key k, .val v [',', '\n', ' ', ' ', ' ', ' ']]

/-- The header, up to the place of the object. -/
def headerToks (e : ExportEnv) (wanCount : Nat) (checksum : UInt32) : List (Tok HeaderKey) :=
  [.raw ['\x7b', '\n', ' ', ' '], .key .fluxwanBackup, .raw ['\x7b', '\n', ' ', ' ', ' ', ' ']] ++
  headerLine .version (.str e.version) ++ headerLine .author (.str e.author) ++
  headerLine .license (.str e.license) ++ headerLine .createdAt (.num e.createdAt) ++
  headerLine .createdAtIso (.str e.createdAtIso) ++ headerLine .hostname (.str e.hostname) ++
  headerLine .architecture (.str "x86_64".toList) ++ headerLine .wanCount (.num wanCount) ++
  headerLine .checksum (.num checksum.toNat) ++
  [.key .type, .val (.str "full_system_configuration".toList) ['\n', ' ', ' ', '\x7d', ',', '\n', ' ', ' '],
   .key .config]

/-- A backup with the given header fields and object. -/
def backupText (e : ExportEnv) (wanCount : Nat) (checksum : UInt32) (object : CStr) : CStr :=
  render (headerToks e wanCount checksum) ++ (object ++ ['\n', '\x7d', '\n'])

/-- `config_export_backup` into a buffer of `maxLen` bytes. -/
def configExportBackup (e : ExportEnv) (c : FluxwanConfig) (maxLen : Nat) : Option CStr :=
  if maxLen < 2048 then none
  else
    let object := cstr (configSave c)
    let text := backupText e c.core.wans.length (configCalcChecksum object) object
    if text.length < maxLen then some text else none

/-! ## Import -/

/-- The object that the import loads: the one after the first `"config"`, or else the first one. -/
def extractConfigObject (text : CStr) : Option CStr :=
  ((strstr text "\"config\"".toList).bind objectAfter).or (objectAfter text)

abbrev maxPathLen : Nat := 256

abbrev sessionTokenSize : Nat := 64

/-- The record with its path.  Both texts fit their arrays, so that copying them is exact. -/
structure StoredConfig where
  config : FluxwanConfig
  path : CStr
  path_lt : path.length < maxPathLen
  token_lt : config.core.auth.sessionToken.length < sessionTokenSize

/-- The record with another session token. -/
def FluxwanConfig.withToken (c : FluxwanConfig) (token : CStr) : FluxwanConfig :=
  { c with core := { c.core with auth := { c.core.auth with sessionToken := token } } }

structure ImportEnv where
  /-- `fopen` of the temporary file succeeds. -/
  writable : Bool := true
  /-- `calloc` succeeds. -/
  memory : Bool := true
  now : UInt64 := 0
  /-- The size of the caller's message buffer. -/
  errSize : Nat := 256

/-- The texts that the extractor returns fit the buffer. -/
theorem length_unescapeJson_le (s : CStr) : (unescapeJson s).length ≤ s.length := by
  induction s using unescapeJson.induct with
  | case1 => exact Nat.le_refl 0
  | case2 => exact Nat.zero_le _
  | case3 c s ih =>
    rw [unescapeJson.eq_def]
    simp only [if_true, List.length_cons]
    omega
  | case4 c s hc ih =>
    rw [unescapeJson.eq_def]
    simp only [hc, if_false, List.length_cons]
    omega

theorem length_extractJsonString_lt {json key val : CStr} {n : Nat} (hn : 0 < n)
    (h : extractJsonString json key n = some val) : val.length < n := by
  unfold extractJsonString at h
  split at h
  · obtain ⟨raw, -, rfl⟩ := Option.map_eq_some_iff.mp h
    have hcut : (copyInto n raw).length ≤ n - 1 := List.length_take_le _ _
    have hle := length_unescapeJson_le (copyInto n raw)
    omega
  · exact absurd h (by simp)

theorem length_loadAuth_sessionToken_lt : (loadAuth json).sessionToken.length < sessionTokenSize := by
  show ((strstr json (quoted Key.auth)).bind (extractJsonString · Key.sessionToken.text 64)
    |>.getD "flux_sec_token_987".toList).length < 64
  cases h : (strstr json (quoted Key.auth)).bind (extractJsonString · Key.sessionToken.text 64) with
  | none => exact (by decide : "flux_sec_token_987".toList.length < 64)
  | some val =>
    obtain ⟨pos, -, hval⟩ := Option.bind_eq_some_iff.mp h
    exact length_extractJsonString_lt (by decide) hval

theorem length_sessionToken_lt {now : UInt64} {file : List Char} {c : FluxwanConfig}
    (h : configLoadAll now file = some c) : c.core.auth.sessionToken.length < sessionTokenSize := by
  obtain ⟨core, hcore, rfl⟩ := Option.map_eq_some_iff.mp h
  unfold configLoad at hcore
  split at hcore
  · exact absurd hcore (by simp)
  · obtain rfl := Option.some.inj hcore
    exact length_loadAuth_sessionToken_lt

/-- A configuration that has passed the checks of an import. -/
structure Checked where
  config : FluxwanConfig
  lan_ne : config.core.lanIpAddr ≠ 0
  attached : configValidateWanAttachments config.core = none
  token_lt : config.core.auth.sessionToken.length < sessionTokenSize

/-- `config_import_backup` up to its last check, with its error texts. -/
def checkBackup (env : ImportEnv) (text : CStr) : Except CStr Checked :=
  match extractConfigObject text with
  | none => .error "Invalid or missing JSON object in backup".toList
  | some body =>
    if !env.writable then .error "Unable to write temporary restore file".toList
    else if !env.memory then .error "Out of memory during configuration restore".toList
    else
      match hload : configLoadAll env.now body with
      | none => .error "Invalid or corrupted JSON configuration syntax".toList
      | some loaded =>
        if hlan : loaded.core.lanIpAddr = 0 then .error "Backup is missing valid LAN IP configuration".toList
        else
          match hattach : configValidateWanAttachments loaded.core with
          | some e => .error (copyInto 256 e)
          | none => .ok ⟨loaded, hlan, hattach, length_sessionToken_lt hload⟩

/-- Where the program is installed. -/
def defaultPath : CStr := "/opt/fluxwan/config/fluxwan.json".toList

theorem length_defaultPath_lt : defaultPath.length < maxPathLen := by decide

/-- "Restore file path and active session token". -/
def restore (cur : StoredConfig) (new : Checked) : StoredConfig where
  config := new.config.withToken (orText cur.config.core.auth.sessionToken new.config.core.auth.sessionToken)
  path := orText cur.path defaultPath
  path_lt := length_orText_lt cur.path_lt length_defaultPath_lt
  token_lt := length_orText_lt cur.token_lt new.token_lt

/-- What the caller of an import sees. -/
structure Imported where
  rc : Int
  message : CStr
  config : StoredConfig

/-- `config_import_backup`: the result code, the message, and the configuration afterwards. -/
def configImportBackup (env : ImportEnv) (text : CStr) (cur : StoredConfig) : Imported :=
  match checkBackup env text with
  | .error message => ⟨-1, copyInto env.errSize message, cur⟩
  | .ok new => ⟨0, copyInto env.errSize "Configuration validated successfully".toList, restore cur new⟩

/-! ## The import as a transaction -/

/-- The text holds an object that loads, with a LAN address and sound port allocations. -/
def Restorable (env : ImportEnv) (text : CStr) : Prop :=
  env.writable = true ∧ env.memory = true ∧ ∃ body loaded, extractConfigObject text = some body ∧
    configLoadAll env.now body = some loaded ∧ loaded.core.lanIpAddr ≠ 0 ∧
    configValidateWanAttachments loaded.core = none

/-- What is checked is what `config_load` reads from the extracted object. -/
theorem checkBackup_eq_ok {text : CStr} {new : Checked} (h : checkBackup env text = .ok new) :
    env.writable = true ∧ env.memory = true ∧
      ∃ body, extractConfigObject text = some body ∧ configLoadAll env.now body = some new.config := by
  unfold checkBackup at h
  split at h
  · exact absurd h (by simp)
  · rename_i body hbody
    split at h
    · exact absurd h (by simp)
    · rename_i hwritable
      split at h
      · exact absurd h (by simp)
      · rename_i hmemory
        split at h
        · exact absurd h (by simp)
        · rename_i loaded hload
          split at h
          · exact absurd h (by simp)
          · split at h
            · exact absurd h (by simp)
            · obtain rfl := Except.ok.inj h
              exact ⟨by simpa using hwritable, by simpa using hmemory, body, hbody, hload⟩

/-- The checks accept exactly what can be restored. -/
theorem exists_checkBackup_iff (env : ImportEnv) (text : CStr) :
    (∃ new, checkBackup env text = .ok new) ↔ Restorable env text := by
  constructor
  · rintro ⟨new, h⟩
    obtain ⟨hwritable, hmemory, body, hbody, hload⟩ := checkBackup_eq_ok h
    exact ⟨hwritable, hmemory, body, new.config, hbody, hload, new.lan_ne, new.attached⟩
  · rintro ⟨hwritable, hmemory, body, loaded, hbody, hload, hlan, hattach⟩
    refine ⟨⟨loaded, hlan, hattach, length_sessionToken_lt hload⟩, ?_⟩
    unfold checkBackup
    simp only [hbody, hwritable, hmemory, Bool.not_true, Bool.false_eq_true, if_false]
    split
    · rename_i hnone
      rw [hload] at hnone
      exact absurd hnone (by simp)
    · rename_i loaded' hload'
      obtain rfl := Option.some.inj (hload.symm.trans hload')
      rw [dif_neg hlan]
      split
      · rename_i e he
        rw [hattach] at he
        exact absurd he (by simp)
      · rfl

/-- A failed import changes nothing.  A successful one leaves a configuration with a LAN address and sound port
    allocations, under the same path and token if these were set, that is otherwise the one that `config_load`
    reads from the extracted object. -/
theorem import_contract (env : ImportEnv) (text : CStr) (cur : StoredConfig) :
    ((configImportBackup env text cur).rc ≠ 0 → (configImportBackup env text cur).config = cur) ∧
    ((configImportBackup env text cur).rc = 0 →
      let new := (configImportBackup env text cur).config
      new.config.core.lanIpAddr ≠ 0 ∧ configValidateWanAttachments new.config.core = none ∧
      (cur.path ≠ [] → new.path = cur.path) ∧
      (cur.config.core.auth.sessionToken ≠ [] →
        new.config.core.auth.sessionToken = cur.config.core.auth.sessionToken) ∧
      ∃ body loaded, extractConfigObject text = some body ∧ configLoadAll env.now body = some loaded ∧
        new.config = loaded.withToken new.config.core.auth.sessionToken ∧
        (cur.config.core.auth.sessionToken = [] → new.config = loaded)) := by
  unfold configImportBackup
  cases h : checkBackup env text with
  | error message => exact ⟨fun _ => rfl, fun hrc => absurd hrc (by decide : ¬ (-1 : Int) = 0)⟩
  | ok new =>
    refine ⟨fun hrc => absurd rfl hrc, fun _ => ?_⟩
    obtain ⟨-, -, body, hbody, hload⟩ := checkBackup_eq_ok h
    refine ⟨new.lan_ne, new.attached, fun hpath => orText_of_ne hpath, fun htoken => orText_of_ne htoken,
      body, new.config, hbody, hload, rfl, fun htoken => ?_⟩
    show new.config.withToken (orText cur.config.core.auth.sessionToken new.config.core.auth.sessionToken) = new.config
    rw [htoken]
    rfl

/-! ## The checksum -/

/-- An exported backup with another object in the place of the saved configuration. -/
def editedBackup (e : ExportEnv) (c : FluxwanConfig) (object : CStr) : CStr :=
  backupText e c.core.wans.length (configCalcChecksum (cstr (configSave c))) object

/-- The object of an exported backup has been changed, and the checksum in the header gives it away. -/
def Damaged (e : ExportEnv) (c : FluxwanConfig) (maxLen : Nat) (object : CStr) : Prop :=
  (∃ text, configExportBackup e c maxLen = some text) ∧
    configCalcChecksum object ≠ configCalcChecksum (cstr (configSave c))

/-- The header texts can be written without escaping. -/
structure ExportEnv.Plain (e : ExportEnv) : Prop where
  version : PlainText HeaderKey e.version
  author : PlainText HeaderKey e.author
  license : PlainText HeaderKey e.license
  createdAtIso : PlainText HeaderKey e.createdAtIso
  hostname : PlainText HeaderKey e.hostname

/-- The text is one object: its first brace is closed by its last character. -/
def IsObject (o : CStr) : Prop :=
  ∃ s, o = s ++ ['\x7d'] ∧ ∀ rest, findMatchingBrace (o ++ rest) = some ('\x7d' :: rest)

theorem sound_headerLine {k : HeaderKey} {v : Value} (hv : v.Sound HeaderKey) : Sound (headerLine k v) := by
  have hsep : Separates [',', '\n', ' ', ' ', ' ', ' '] :=
    ⟨⟨',', ['\n', ' ', ' ', ' ', ' '], rfl, by decide, rfl⟩, by decide, by decide, by decide⟩
  simp only [headerLine, sound_cons, sound_nil, Tok.Sound, and_true, true_and]
  exact ⟨hv, hsep⟩

theorem plainText_of_all {s : CStr}
    (hs : (s.all fun ch => decide (isSpecial ch = false ∧ 32 ≤ ch.toNat ∧ ch.toNat ≠ 127)) = true)
    (hk : ∀ k : HeaderKey, s ≠ Spelled.name k) : PlainText HeaderKey s :=
  ⟨fun ch hch => of_decide_eq_true (List.all_eq_true.mp hs ch hch), hk⟩

/-- The words of the header that are no keys. -/
theorem plainText_architecture : PlainText HeaderKey "x86_64".toList := by
  refine plainText_of_all (by decide) fun k => ?_
  cases k <;> decide

theorem plainText_fullSystem : PlainText HeaderKey "full_system_configuration".toList := by
  refine plainText_of_all (by decide) fun k => ?_
  cases k <;> decide

theorem sound_headerToks (he : e.Plain) (wanCount : Nat) (checksum : UInt32) :
    Sound (headerToks e wanCount checksum) := by
  have hclose : Separates ['\n', ' ', ' ', '\x7d', ',', '\n', ' ', ' '] :=
    ⟨⟨'\n', [' ', ' ', '\x7d', ',', '\n', ' ', ' '], rfl, by decide, rfl⟩, by decide, by decide, by decide⟩
  have hopen : Sound ([.raw ['\x7b', '\n', ' ', ' '], .key .fluxwanBackup,
      .raw ['\x7b', '\n', ' ', ' ', ' ', ' ']] : List (Tok HeaderKey)) := by
    simp only [sound_cons, sound_nil, Tok.Sound, and_true, true_and]
    decide
  have hend : Sound [.key .type, .val (.str "full_system_configuration".toList)
      ['\n', ' ', ' ', '\x7d', ',', '\n', ' ', ' '], .key HeaderKey.config] := by
    simp only [sound_cons, sound_nil, Tok.Sound, and_true, true_and]
    exact ⟨plainText_fullSystem, hclose⟩
  simp only [headerToks, sound_append]
  exact ⟨⟨⟨⟨⟨⟨⟨⟨⟨⟨hopen, sound_headerLine he.version⟩, sound_headerLine he.author⟩, sound_headerLine he.license⟩,
    sound_headerLine True.intro⟩, sound_headerLine he.createdAtIso⟩, sound_headerLine he.hostname⟩,
    sound_headerLine plainText_architecture⟩, sound_headerLine True.intro⟩, sound_headerLine True.intro⟩, hend⟩

theorem seek_headerToks (wanCount : Nat) (checksum : UInt32) :
    seek .config (headerToks e wanCount checksum) = some [.key .config] := by
  simp [headerToks, headerLine]

theorem objectAfter_isObject {o pre : CStr} (ho : IsObject o) (hpre : '\x7b' ∉ pre) :
    objectAfter (pre ++ (o ++ rest)) = some o := by
  obtain ⟨s, hs, hclose⟩ := ho
  have hstart : strchr (o ++ rest) '\x7b' = some (o ++ rest) := by
    have hmatch := hclose rest
    unfold findMatchingBrace at hmatch
    split at hmatch
    · rename_i p hp
      rw [hp, strchr_cons_self]
    · exact absurd hmatch (by simp)
  have hslice : sliceThrough (o ++ rest) ('\x7d' :: rest) = o := by
    have hassoc : o ++ rest = s ++ '\x7d' :: rest := by rw [hs]; simp
    rw [hassoc, sliceThrough_append, hs]
  rw [objectAfter, strchr_append_of_not_mem hpre, hstart, Option.bind_some, hclose, Option.map_some, hslice]

/-- The import finds the object of a backup behind its header. -/
theorem extractConfigObject_backupText (he : e.Plain) (wanCount : Nat) (checksum : UInt32) (ho : IsObject object) :
    extractConfigObject (backupText e wanCount checksum object) = some object := by
  have hneedle : "\"config\"".toList = quoted HeaderKey.config := by decide
  have hfound : strstr (backupText e wanCount checksum object) (quoted HeaderKey.config) =
      some (render [Tok.key HeaderKey.config] ++ (object ++ ['\n', '\x7d', '\n'])) := by
    rw [backupText, strstr_render_append (sound_headerToks he wanCount checksum), seek_headerToks]
    rfl
  rw [extractConfigObject, hneedle, hfound, Option.bind_some, objectAfter_isObject ho (by decide)]
  rfl

theorem import_rejects_iff (env : ImportEnv) (text : CStr) :
    (configImportBackup env text cur).rc ≠ 0 ↔ ¬ Restorable env text := by
  rw [← exists_checkBackup_iff]
  unfold configImportBackup
  cases checkBackup env text with
  | error message => simp
  | ok new => simp

/-- A configuration object with a LAN address only. -/
def lanObject (ip : String) : CStr :=
  ['\x7b', '"', 'l', 'a', 'n', '"', ':', '\x7b', '"', 'i', 'p', '"', ':', '"'] ++ ip.toList ++ ['"', '\x7d', '\x7d']

def blankHeader : ExportEnv where
  version := []
  author := []
  license := []
  createdAt := 0
  createdAtIso := []
  hostname := []

theorem blankHeader_plain : blankHeader.Plain := by
  have hnil : PlainText HeaderKey [] := ⟨fun _ h => absurd h List.not_mem_nil, fun k h => Spelled.name_ne_nil k h.symm⟩
  exact ⟨hnil, hnil, hnil, hnil, hnil⟩

def zeroStored : StoredConfig where
  config := {}
  path := []
  path_lt := Nat.succ_pos 255
  token_lt := Nat.succ_pos 63

/-- What `Restorable` asks of the object itself. -/
def loadsSoundly (now : UInt64) (object : CStr) : Bool :=
  (configLoadAll now object).any fun c => c.core.lanIpAddr ≠ 0 && (configValidateWanAttachments c.core).isNone

theorem restorable_of_loadsSoundly (hwritable : env.writable = true) (hmemory : env.memory = true)
    {text : CStr} (hobject : extractConfigObject text = some object)
    (hload : loadsSoundly env.now object = true) : Restorable env text := by
  simp only [loadsSoundly, Option.any_eq_true, Bool.and_eq_true, decide_eq_true_eq, Option.isNone_iff_eq_none] at hload
  obtain ⟨loaded, hsome, hlan, hattach⟩ := hload
  exact ⟨hwritable, hmemory, object, loaded, hobject, hsome, hlan, hattach⟩

/-- Behind a plain header, every object that loads soundly is applied. -/
theorem import_applies (he : e.Plain) (c : FluxwanConfig) (ho : IsObject object)
    (hwritable : env.writable = true) (hmemory : env.memory = true)
    (hload : loadsSoundly env.now object = true) :
    (configImportBackup env (editedBackup e c object) cur).rc = 0 := by
  have hobject : extractConfigObject (editedBackup e c object) = some object := extractConfigObject_backupText he _ _ ho
  have hrestorable := restorable_of_loadsSoundly hwritable hmemory hobject hload
  by_contra hrc
  exact (import_rejects_iff env _).mp hrc hrestorable

/-- With enough room every configuration can be exported. -/
theorem exists_export (c : FluxwanConfig) : ∃ maxLen text, configExportBackup e c maxLen = some text := by
  let text := editedBackup e c (cstr (configSave c))
  refine ⟨text.length + 2048, text, ?_⟩
  have hroom : ¬ text.length + 2048 < 2048 := by omega
  have hfits : text.length < text.length + 2048 := by omega
  show (if text.length + 2048 < 2048 then none else if text.length < text.length + 2048 then some text else none) = _
  rw [if_neg hroom, if_pos hfits]

theorem isObject_lanObject_one : IsObject (lanObject "10.0.0.1") :=
  ⟨(lanObject "10.0.0.1").dropLast, by decide, fun _ => rfl⟩

theorem isObject_lanObject_two : IsObject (lanObject "10.0.0.2") :=
  ⟨(lanObject "10.0.0.2").dropLast, by decide, fun _ => rfl⟩

end FluxWAN
