/-
  VMess links (`src/proxy_manager.c`: `json_get_string`, `proxy_manager_parse_endpoint`).

  A VMess link is the base64 text of a JSON object.  Its members may stand in any order, with white space between
  all tokens, and a value may look like a key of another member; `VmessLink` is all such links, and `Parsed` what a
  reader of the link expects.

  `json_get_string` looks for the colon behind the key and does not step over it.  So what it takes for the value is
  no string, and begins with that colon (`jsonGetString_colon`).  For the port this is a text in which `atoi` finds
  no number: every VMess link gets port 0 (`port_parseLink_vmess`).
-/
import FluxWAN.Crypto.Base64Text

namespace FluxWAN

open CString Crypto

/-! ## Links -/

/-- A string, by the text between its quotes, or a number, by its text. -/
inductive MemberValue where
  | string (text : CStr)
  | number (text : CStr)

/-- What the value says. -/
def MemberValue.text : MemberValue → CStr
  | .string text | .number text => text

/-- How it is written. -/
def MemberValue.source : MemberValue → CStr
  | .string text => '"' :: text ++ ['"']
  | .number text => text

/-- No quotes or backslashes in a string; the characters of numbers in a number. -/
def MemberValue.Plain : MemberValue → Prop
  | .string text => ∀ c ∈ text, c ≠ '"' ∧ c ≠ '\\'
  | .number text => text ≠ [] ∧ ∀ c ∈ text, c ∈ "-+.eE0123456789".toList

def JsonSpace (s : CStr) : Prop := ∀ c ∈ s, c ∈ [' ', '\t', '\r', '\n']

/-- A member, with the white space around its tokens. -/
structure JsonMember where
  key : CStr
  value : MemberValue
  spaces : Fin 4 → CStr := fun _ => []

def JsonMember.source (m : JsonMember) : CStr :=
  m.spaces 0 ++ '"' :: m.key ++ '"' :: m.spaces 1 ++ ':' :: m.spaces 2 ++ m.value.source ++ m.spaces 3

/-- The members that the parser reads. -/
def vmessKeys : List CStr :=
  ["add".toList, "port".toList, "id".toList, "sni".toList, "host".toList, "path".toList, "net".toList, "tls".toList]

/-- The object; `'\x7b'` and `'\x7d'` are its braces. -/
def objectSource (members : List JsonMember) : CStr :=
  '\x7b' :: List.intercalate [','] (members.map JsonMember.source) ++ ['\x7d']

/-- The value of a member. -/
def memberText (members : List JsonMember) (key : CStr) : CStr :=
  (members.find? (·.key = key)).elim [] (·.value.text)

/-- A VMess link for an object with these members, perhaps among others. -/
structure VmessLink where
  members : List JsonMember
  port : Nat
  payload : List UInt8
  code : CStr
  plain : ∀ m ∈ members, m.value.Plain ∧ ∀ i, JsonSpace (m.spaces i)
  keys : ∀ key ∈ vmessKeys, members.countP (·.key = key) = 1
  port_eq : memberText members "port".toList = (Nat.repr port).toList
  port_range : 1 ≤ port ∧ port ≤ 65535
  payload_eq : payload.map (fun b => Char.ofNat b.toNat) = objectSource members
  payload_lt : payload.length < 2048
  code_eq : ∃ dstMax text, cryptoBase64Encode payload dstMax = some text ∧
    (code = text ∨ code = text.takeWhile (· ≠ '='))

def VmessLink.uri (link : VmessLink) : CStr := "vmess://".toList ++ link.code

/-- The endpoint is what the members say. -/
structure VmessLink.Parsed (link : VmessLink) (result : Bool × ProxyServer) : Prop where
  ok : result.1 = true
  server : result.2.server = memberText link.members "add".toList
  port_eq : result.2.port.toNat = link.port
  uuid : result.2.uuid = memberText link.members "id".toList
  sni : result.2.sni = memberText link.members "sni".toList
  host : result.2.host = if memberText link.members "host".toList = [] then memberText link.members "sni".toList
    else memberText link.members "host".toList
  path : result.2.path = memberText link.members "path".toList
  transport : result.2.transport = memberText link.members "net".toList
  security : result.2.security = memberText link.members "tls".toList

/-! ## What the parser takes -/

theorem strchr_eq_cons (h : strchr s ch = some p) : ∃ rest, p = ch :: rest := by
  induction s with
  | nil => cases h
  | cons c s ih =>
    rw [strchr] at h
    split at h
    case isTrue hc => exact ⟨s, by rw [← Option.some.inj h, hc]⟩
    case isFalse => exact ih h

/-- Trimming the end leaves a first character that is no white space. -/
theorem trimEnd_cons (hc : isspace c = false) (s : CStr) :
    ∃ rest, ((c :: s).reverse.dropWhile isspace).reverse = c :: rest := by
  rw [List.reverse_cons, List.dropWhile_append]
  split
  · rw [List.dropWhile_cons_of_neg (by rw [hc]; decide)]
    exact ⟨[], rfl⟩
  · exact ⟨_, by rw [List.reverse_append]; rfl⟩

/-- **A value is taken with its colon.** -/
theorem jsonGetString_colon (json : CStr) (key : String) (h : 2 ≤ maxOut) :
    jsonGetString json key maxOut = [] ∨ ∃ rest, jsonGetString json key maxOut = ':' :: rest := by
  rw [jsonGetString]
  split
  case h_1 => exact .inl rfl
  case h_2 pos hpos =>
    obtain ⟨p, -, hp⟩ := Option.bind_eq_some_iff.mp hpos
    obtain ⟨rest, rfl⟩ := strchr_eq_cons hp
    -- the cursor is at the colon, which is neither white space nor a quote
    obtain ⟨n, rfl⟩ := Nat.exists_eq_add_of_le' h
    exact .inr (trimEnd_cons (by decide) _)

theorem atoi_of_colon (rest : CStr) : atoi (':' :: rest) = 0 := by
  have hstrtol : strtol (':' :: rest) = 0 := by
    show min (2 ^ 63 - 1 : Int) (digitsVal (':' :: rest) 0 : Int) = 0
    have hdigits : digitsVal (':' :: rest) 0 = 0 := rfl
    rw [hdigits]
    decide
  rw [atoi, hstrtol]
  decide

theorem port_parseLink_vmess (code : CStr) : (parseLink ("vmess://".toList ++ code)).2.port = 0 := by
  have hport : ∀ json, atoiU16 (jsonGetString json "port" 16) = 0 := by
    intro json
    rcases jsonGetString_colon json "port" (by decide : 2 ≤ 16) with h | ⟨rest, h⟩
    · rw [h]
      rfl
    · rw [h, atoiU16, atoi_of_colon]
      rfl
  have hfill : ∀ ep : ProxyServer, ep.fillHost.port = ep.port := by
    intro ep
    rw [ProxyServer.fillHost]
    split <;> rfl
  show (parseVmess _ code).2.port = 0
  rw [parseVmess, hfill]
  exact hport _

/-- A long link is cut, and stays a VMess link. -/
theorem parseEndpoint_vmess (code : CStr) :
    parseEndpoint ("vmess://".toList ++ code) = parseLink ("vmess://".toList ++ code.take 2039) := by
  have hcut : copyInto 2048 ("vmess://".toList ++ code) = "vmess://".toList ++ code.take 2039 := by
    rw [copyInto, List.take_append, List.take_of_length_le (by decide)]
    rfl
  have hbox : v2boxPayload (copyInto 2048 ("vmess://".toList ++ code)) = none := by
    rw [hcut]
    rfl
  rw [parseEndpoint_eq, hbox, hcut]

/-- **No VMess link is parsed as it should be.** -/
theorem vmess_not_parsed (link : VmessLink) : ¬ link.Parsed (parseEndpoint link.uri) := by
  intro hparsed
  have hparse : parseEndpoint link.uri = parseLink ("vmess://".toList ++ link.code.take 2039) :=
    parseEndpoint_vmess _
  have hzero : (parseLink ("vmess://".toList ++ link.code.take 2039)).2.port = 0 := port_parseLink_vmess _
  have hport : link.port = 0 := by
    rw [← hparsed.port_eq, hparse, hzero]
    decide
  have hrange := link.port_range.1
  omega

/-- The members of a link to port 443 of `a.b`. -/
def sampleMembers : List JsonMember :=
  [⟨"add".toList, .string "a.b".toList, fun _ => []⟩, ⟨"port".toList, .number "443".toList, fun _ => []⟩,
    ⟨"id".toList, .string "u".toList, fun _ => []⟩, ⟨"sni".toList, .string "s".toList, fun _ => []⟩,
    ⟨"host".toList, .string "h".toList, fun _ => []⟩, ⟨"path".toList, .string "/".toList, fun _ => []⟩,
    ⟨"net".toList, .string "ws".toList, fun _ => []⟩, ⟨"tls".toList, .string "tls".toList, fun _ => []⟩]

def samplePayload : List UInt8 := (objectSource sampleMembers).map fun c => UInt8.ofNat c.toNat

theorem sampleMembers_plain : ∀ m ∈ sampleMembers, m.value.Plain ∧ ∀ i, JsonSpace (m.spaces i) := by
  simp [sampleMembers, MemberValue.Plain, JsonSpace]

theorem sampleMembers_keys : ∀ key ∈ vmessKeys, sampleMembers.countP (·.key = key) = 1 := by
  simp only [vmessKeys, List.forall_mem_cons]
  decide

theorem sampleMembers_port : memberText sampleMembers "port".toList = (Nat.repr 443).toList := by
  decide

theorem samplePayload_eq : samplePayload.map (fun b => Char.ofNat b.toNat) = objectSource sampleMembers := by
  decide

theorem samplePayload_lt : samplePayload.length < 2048 := by
  decide

theorem samplePort_range : 1 ≤ 443 ∧ 443 ≤ 65535 := by
  decide

theorem sampleCode_eq : ∃ dstMax text, cryptoBase64Encode samplePayload dstMax = some text ∧
    (encodeLoop samplePayload = text ∨ encodeLoop samplePayload = text.takeWhile (· ≠ '=')) :=
  ⟨200, encodeLoop samplePayload, by decide, .inl rfl⟩

def sampleLink : VmessLink where
  members := sampleMembers
  port := 443
  payload := samplePayload
  code := encodeLoop samplePayload
  plain := sampleMembers_plain
  keys := sampleMembers_keys
  port_eq := sampleMembers_port
  port_range := samplePort_range
  payload_eq := samplePayload_eq
  payload_lt := samplePayload_lt
  code_eq := sampleCode_eq

/-- The server is `:"a.b"` and the port 0. -/
theorem sampleLink_misread :
    (parseEndpoint sampleLink.uri).2.server = ":\"a.b\"".toList ∧ (parseEndpoint sampleLink.uri).2.port = 0 ∧
      ¬ sampleLink.Parsed (parseEndpoint sampleLink.uri) := by
  have hparse : parseEndpoint sampleLink.uri = parseLink ("vmess://".toList ++ sampleLink.code.take 2039) :=
    parseEndpoint_vmess _
  have hserver : (parseLink ("vmess://".toList ++ sampleLink.code.take 2039)).2.server = ":\"a.b\"".toList := by
    decide
  rw [hparse]
  refine ⟨hserver, port_parseLink_vmess _, fun hparsed => ?_⟩
  have hwrong := hparsed.server
  rw [hserver] at hwrong
  exact absurd hwrong (by decide)

end FluxWAN
