/-
  Proxy share links (`src/proxy_manager.c`: the URI parser and `proxy_manager_sync_servers`).

  A tunnel is configured by a share link (`vless://…`, `trojan://…`, `vmess://<base64>`, `ss://…`, or a
  `v2box://<base64>` wrapped around one of them) or by single fields.  `config_load` calls
  `syncServers` on what it has read, so the reader of the configuration file runs this parser.

  Two quirks are kept as they are.  `extract_query_param` clears its output first, so a parameter that
  the link does not have loses its default.  And `json_get_string` searches the colon after the key but
  does not step over it, so that a value is taken with its colon and quotes.
-/
import FluxWAN.Config

namespace FluxWAN

open CString

/-- `strcasecmp (…) == 0`. -/
def strcasecmp (s t : CStr) : Bool := s.map Char.toLower = t.map Char.toLower

/-- The text from `p` up to `q`, a later pointer. -/
def sliceBefore (p q : CStr) : CStr := p.take (p.length - q.length)

/-! ## Decoders -/

def hexVal (c : Char) : Option Nat := CFloat.hexDigit c

/-- `url_decode` into a `char [maxLen]`; a decoded NUL ends the text. -/
def urlDecode (maxLen : Nat) (src : CStr) : CStr := cstr (copyInto maxLen (decode src))
where
  decode : CStr → List Char
    | [] => []
    | c :: s =>
      if c = '%' then
        match s with
        | a :: b :: t =>
          match hexVal a, hexVal b with
          | some x, some y => Char.ofNat (16 * x + y) :: decode t
          | _, _ => c :: decode (a :: b :: t)
        | t => c :: decode t
      else (if c = '+' then ' ' else c) :: decode s

/-- `b64_char_val`. -/
def b64CharVal (c : Char) : Option Nat :=
  if c.isUpper then some (c.toNat - 65)
  else if c.isLower then some (c.toNat - 97 + 26)
  else if c.isDigit then some (c.toNat - 48 + 52)
  else if c = '+' || c = '-' then some 62
  else if c = '/' || c = '_' then some 63
  else none

/-- The loop of `base64_decode`: `bits` is `valb + 8`, the number of bits waiting in `val`. -/
def base64Loop : CStr → UInt32 → Nat → List Char
  | [], _, _ => []
  | c :: s, val, bits =>
    match (if c = '=' || isspace c then none else b64CharVal c) with
    | none => base64Loop s val bits
    | some d =>
      let val := (val <<< 6) ||| UInt32.ofNat d
      if 8 ≤ bits + 6 then
        Char.ofNat ((val >>> UInt32.ofNat (bits + 6 - 8)) &&& 0xFF).toNat ::
          base64Loop s val (bits + 6 - 8)
      else base64Loop s val (bits + 6)

/-- `base64_decode` into a `char [maxOut]`: the bytes written. -/
def base64Decode (maxOut : Nat) (input : CStr) : List Char := (base64Loop input 0 0).take (maxOut - 1)

/-- Every byte takes eight bits, every character brings at most six. -/
theorem length_base64Loop_le (s : CStr) (val : UInt32) (bits : Nat) :
    8 * (base64Loop s val bits).length ≤ 6 * s.length + bits := by
  fun_induction base64Loop s val bits with
  | case1 => exact Nat.zero_le _
  | case2 _ _ c s _ ih => simp only [List.length_cons]; omega
  | case3 _ _ c s d _ val _ ih => simp only [List.length_cons] at ih ⊢; omega
  | case4 _ _ c s d _ val _ ih => simp only [List.length_cons] at ih ⊢; omega

theorem length_cstr_base64Decode_le (maxOut : Nat) (s : CStr) :
    4 * (cstr (base64Decode maxOut s)).length ≤ 3 * s.length := by
  have htake : (base64Decode maxOut s).length ≤ (base64Loop s 0 0).length :=
    List.length_take_le' _ _
  have hcstr : (cstr (base64Decode maxOut s)).length ≤ (base64Decode maxOut s).length :=
    (List.takeWhile_prefix _).length_le
  have hloop := length_base64Loop_le s 0 0
  omega

/-! ## Parameters -/

/-- The search of `extract_query_param`; `start` is "at the beginning of a parameter". -/
def findParam (key : CStr) : Bool → CStr → Option CStr
  | _, [] => none
  | start, c :: s =>
    if start && startsWith (c :: s) (key ++ ['=']) then some ((c :: s).drop (key.length + 1))
    else findParam key (c = '&') s

/-- `extract_query_param` into a `char [maxOut]`, empty if there is no such parameter. -/
def extractQueryParam (query : CStr) (key : String) (maxOut : Nat) : CStr :=
  let query := if startsWith query ['?'] then query.drop 1 else query
  match findParam key.toList true query with
  | none => []
  | some val =>
    let raw := ((strchr val '&').or (strchr val '#')).elim val (sliceBefore val)
    urlDecode maxOut (copyInto 256 raw)

/-- `json_get_string` into a `char [maxOut]`. -/
def jsonGetString (json : CStr) (key : String) (maxOut : Nat) : CStr :=
  match (strstr json ('"' :: key.toList ++ ['"'])).bind fun p =>
      strchr (p.drop (key.toList.length + 2)) ':' with
  | none => []
  | some pos =>
    match pos.dropWhile fun c => c = ' ' || c = '\t' || c = '\r' || c = '\n' with
    | '"' :: p => (strchr p '"').elim [] fun e => copyInto maxOut (sliceBefore p e)
    | p =>
      let out := copyInto maxOut (p.takeWhile fun c => c ≠ ',' && c ≠ '\x7d' && c ≠ '\n')
      (out.reverse.dropWhile isspace).reverse

/-! ## Links -/

/-- `(uint16_t) atoi (…)`. -/
def atoiU16 (s : CStr) : UInt16 := UInt16.ofNat ((atoi s) % 2 ^ 16).toNat

/-- What every parse starts from. -/
def blankServer (uri : CStr) : ProxyServer where
  transport := "ws".toList
  security := "tls".toList
  encryption := "none".toList
  rawUri := uri

/-- An empty host follows the SNI. -/
def ProxyServer.fillHost (ep : ProxyServer) : ProxyServer :=
  if ep.sni ≠ [] ∧ ep.host = [] then { ep with host := copyInto 128 ep.sni } else ep

/-- An empty SNI follows the host. -/
def ProxyServer.fillSni (ep : ProxyServer) : ProxyServer :=
  if ep.host ≠ [] ∧ ep.sni = [] then { ep with sni := copyInto 128 ep.host } else ep

/-- Port 80 without TLS. -/
def ProxyServer.plainPort80 (ep : ProxyServer) : ProxyServer :=
  if ep.port = 80 ∧ strcasecmp ep.security "tls".toList = false then
    { ep with security := "none".toList }
  else ep

/-- `uuid@server:port?query`, common to `vless://` and `trojan://`; only the first reads
    `encryption`. -/
def parseAuthority (ep : ProxyServer) (readsEncryption : Bool) (p : CStr) : Bool × ProxyServer :=
  match strchr p '@' with
  | none => (false, ep)
  | some at_ =>
    let ep := { ep with uuid := copyInto 64 (sliceBefore p at_) }
    let p := at_.drop 1
    match strchr p ':' with
    | none => (false, ep)
    | some colon =>
      let ep := { ep with
        server := copyInto 128 (sliceBefore p colon)
        port := atoiU16 (colon.drop 1) }
      let ep := (strchr p '?').elim ep fun query =>
        { ep with
          encryption :=
            if readsEncryption then extractQueryParam query "encryption" 256 else ep.encryption
          sni := extractQueryParam query "sni" 128
          host := extractQueryParam query "host" 128
          path := extractQueryParam query "path" 128
          transport := extractQueryParam query "type" 16
          security := extractQueryParam query "security" 16 }
      let ep := { ep with encryption := if ep.encryption = [] then "none".toList else ep.encryption }
      (true, ep.fillHost.fillSni.plainPort80)

/-- `vmess://<base64 JSON>`. -/
def parseVmess (ep : ProxyServer) (p : CStr) : Bool × ProxyServer :=
  let json := cstr (base64Decode 2048 p)
  let ep := { ep with
    server := jsonGetString json "add" 128
    port := atoiU16 (jsonGetString json "port" 16)
    uuid := jsonGetString json "id" 64
    sni := jsonGetString json "sni" 128
    host := jsonGetString json "host" 128
    path := jsonGetString json "path" 128
    transport := jsonGetString json "net" 16
    security := jsonGetString json "tls" 16 }
  (true, ep.fillHost)

/-- `ss://userinfo@server:port`. -/
def parseShadowsocks (ep : ProxyServer) (p : CStr) : Bool × ProxyServer :=
  match strchr p '@' with
  | none => (false, ep)
  | some at_ =>
    let ep := { ep with uuid := copyInto 64 (copyInto 256 (sliceBefore p at_)) }
    let p := at_.drop 1
    match strchr p ':' with
    | none => (false, ep)
    | some colon =>
      (true, { ep with
        server := copyInto 128 (sliceBefore p colon)
        port := atoiU16 (colon.drop 1) })

/-- The links other than `v2box://`. -/
def parseLink (uri : CStr) : Bool × ProxyServer :=
  let ep := blankServer uri
  if startsWith uri "vless://".toList then
    parseAuthority { ep with proto := .vless, protoStr := "vless".toList } true (uri.drop 8)
  else if startsWith uri "trojan://".toList then
    parseAuthority { ep with proto := .trojan, protoStr := "trojan".toList } false (uri.drop 9)
  else if startsWith uri "vmess://".toList then
    parseVmess { ep with proto := .vmess, protoStr := "vmess".toList } (uri.drop 8)
  else if startsWith uri "ss://".toList then
    parseShadowsocks { ep with proto := .shadowsocks, protoStr := "shadowsocks".toList } (uri.drop 5)
  else (false, ep)

/-- The text a `v2box://` link wraps. -/
def v2boxPayload (uri : CStr) : Option CStr :=
  if startsWith uri "v2box://locked=".toList then some (uri.drop 15)
  else if startsWith uri "v2box://".toList then some (uri.drop 8)
  else none

theorem length_v2boxPayload_le {uri p : CStr} (h : v2boxPayload uri = some p) : p.length + 8 ≤ uri.length := by
  have hdrop {lit : CStr} {n : Nat} (hn : 8 ≤ n) (hlit : lit.length = n) (hs : startsWith uri lit = true) :
      (uri.drop n).length + 8 ≤ uri.length := by
    have hle : lit.length ≤ uri.length := (List.isPrefixOf_iff_prefix.mp hs).length_le
    rw [List.length_drop]
    omega
  unfold v2boxPayload at h
  split at h
  · rename_i hs
    obtain rfl := Option.some.inj h
    exact hdrop (by decide) (by decide) hs
  · obtain ⟨hs, heq⟩ := Option.ite_none_right_eq_some.mp h
    obtain rfl := Option.some.inj heq
    exact hdrop (by decide) (by decide) hs

/-- `proxy_manager_parse_endpoint`: success, and what is left in the endpoint in any case.  The payload
    of a `v2box://` link is parsed in its place; the link itself is kept only if that succeeds. -/
def parseEndpoint (uri : CStr) : Bool × ProxyServer :=
  match _h : v2boxPayload (copyInto 2048 uri) with
  | none => parseLink (copyInto 2048 uri)
  | some p =>
    if base64Decode 2048 p = [] then (false, blankServer (copyInto 2048 uri))
    else
      let (ok, ep) := parseEndpoint (cstr (base64Decode 2048 p))
      (ok, if ok then { ep with rawUri := copyInto 2048 uri } else ep)
termination_by uri.length
decreasing_by
  have h1 := length_v2boxPayload_le _h
  have h2 := length_cstr_base64Decode_le 2048 p
  have h3 : (copyInto 2048 uri).length ≤ uri.length := List.length_take_le' _ _
  omega

/-- One call, with the string of the nested call. -/
theorem parseEndpoint_eq : parseEndpoint uri = match v2boxPayload (copyInto 2048 uri) with
    | none => parseLink (copyInto 2048 uri)
    | some p =>
      if base64Decode 2048 p = [] then (false, blankServer (copyInto 2048 uri))
      else
        let (ok, ep) := parseEndpoint (cstr (base64Decode 2048 p))
        (ok, if ok then { ep with rawUri := copyInto 2048 uri } else ep) := by
  rw [parseEndpoint]
  split <;> simp_all

/-! ## Synchronising the servers of a tunnel -/

/-- The loop body of `proxy_manager_sync_servers`: a link without a server is parsed, a server without a
    weight gets 100. -/
def syncEndpoint (ep : ProxyEndpoint) : ProxyEndpoint :=
  let ep :=
    if ep.fields.rawUri ≠ [] ∧ ep.fields.server = [] then
      { fields := (parseEndpoint ep.fields.rawUri).2 }
    else ep
  if ep.fields.server ≠ [] ∧ ep.weight = 0 then { ep with weight := 100 } else ep

/-- `servers[0]` before the loop: it takes over the link, then all primary fields. -/
def firstServer (p : ProxyConfig) : ProxyEndpoint :=
  let s := p.servers0
  let s :=
    if s.fields.rawUri = [] ∧ p.primary.rawUri ≠ [] then
      { s with fields := { s.fields with rawUri := p.primary.rawUri } }
    else s
  if s.fields.server = [] ∧ p.primary.server ≠ [] then { s with fields := p.primary } else s

/-- `proxy_manager_sync_servers`. -/
def syncServers (p : ProxyConfig) : ProxyConfig :=
  let s0 := syncEndpoint (firstServer p)
  let s1 := syncEndpoint p.servers1
  let s2 := syncEndpoint p.servers2
  let count := [s0, s1, s2].countP fun s => s.fields.server ≠ []
  { p with
    servers0 := s0
    servers1 := s1
    servers2 := s2
    serverCount := if 0 < count then UInt32.ofNat count else if p.primary.server ≠ [] then 1 else 0
    primary := if s0.fields.server ≠ [] then s0.fields else p.primary }

end FluxWAN
