/-
  Replies of the web server, and the handlers that stand in the chain without a gate
  (`src/web_server.c`).

  A reply is its status, its header lines and its body, in the order the code prints them.  What a handler
  leaves behind is an `Outcome`: the reply, the server state, and the shell commands it ran.  What the
  handlers ask the world — the clock, the peer's address, files, the raw socket, the text of
  `build_json_status` — comes from a `WebEnv`; so do the bodies BEHIND the gates, which are not modelled
  here: `handler e` is whatever branch `e` does once it has let the request in.
-/
import FluxWAN.ConfigLoad
import FluxWAN.Lib.Bytes
import FluxWAN.Web.Auth
import FluxWAN.Web.Login
import FluxWAN.Web.Routes

namespace FluxWAN.Web

open CString Bytes

/-! ## Replies -/

structure Reply where
  status : String
  headers : List CStr
  body : CStr
  deriving DecidableEq

def contentLength (body : CStr) : CStr := "Content-Length: ".toList ++ showNat body.length

/-- The shape most replies have. -/
def jsonReply (status : String) (body : CStr) : Reply where
  status := status
  headers := ["Content-Type: application/json".toList, "Access-Control-Allow-Origin: *".toList,
    contentLength body, "Connection: close".toList]
  body := body

/-- What a gate answers. -/
def unauthorized : Reply :=
  jsonReply "401 Unauthorized" "\x7b\"status\":\"error\",\"message\":\"Unauthorized\"\x7d".toList

/-- The gate of the metrics page. -/
def unauthorizedPlain : Reply where
  status := "401 Unauthorized"
  headers := ["Content-Type: text/plain".toList, contentLength "Unauthorized\n".toList, "Connection: close".toList]
  body := "Unauthorized\n".toList

/-- The gate of the configuration endpoint and of the terminal. -/
def adminLoginRequired : Reply :=
  jsonReply "401 Unauthorized"
    "\x7b\"status\":\"error\",\"message\":\"Unauthorized. Admin login required.\"\x7d".toList

def invalidLogin : Reply :=
  jsonReply "401 Unauthorized"
    "\x7b\"status\":\"error\",\"message\":\"Invalid username or password\"\x7d".toList

def tooManyRequests : Reply where
  status := "429 Too Many Requests"
  headers := ["Content-Type: application/json".toList, "Access-Control-Allow-Origin: *".toList,
    "Retry-After: 300".toList, contentLength lockedBody, "Connection: close".toList]
  body := lockedBody
where
  lockedBody : CStr := ("\x7b\"status\":\"error\",\"message\":\"Too many failed attempts. " ++
    "Temporary lockout for 5 minutes.\"\x7d").toList

/-- The answer to `OPTIONS`. -/
def preflight : Reply where
  status := "204 No Content"
  headers := ["Access-Control-Allow-Origin: *".toList,
    "Access-Control-Allow-Methods: GET, POST, PUT, DELETE, OPTIONS".toList,
    "Access-Control-Allow-Headers: Content-Type, Authorization, X-Requested-With".toList,
    "Access-Control-Max-Age: 86400".toList, "Content-Length: 0".toList, "Connection: close".toList]
  body := []

/-! ## State and environment -/

structure WebState where
  config : Config := {}
  trackers : LoginTrackers := Vector.replicate maxLoginTrackers {}

structure Outcome where
  reply : Reply
  state : WebState
  /-- Shell commands run on the way. -/
  commands : List CStr := []

/-- A frame the raw socket delivered, with its time stamp. -/
structure CapturedPacket where
  tsSec : UInt32
  tsUsec : UInt32
  bytes : List UInt8

structure WebEnv where
  /-- `time(NULL)`. -/
  now : Int
  peerIp : UInt32
  /-- The branches behind their gates. -/
  handler : Endpoint → WebState → CStr → Outcome
  /-- `build_json_status`. -/
  buildJsonStatus : WebState → CStr
  /-- `UI_INDEX_HTML_GZ`. -/
  uiIndexHtmlGz : CStr
  /-- `getenv("FLUXWAN_UPDATE_URL")`. -/
  updateUrl : Option CStr
  /-- What the update command leaves in `/tmp/fluxwan_version.json`, if it succeeds. -/
  versionJson : Option (List Char)
  /-- The word in `/opt/fluxwan/version`. -/
  versionFile : Option CStr
  /-- `access("/opt/fluxwan/fluxwan.old", F_OK) == 0`. -/
  rollbackAvailable : Bool
  /-- What the raw socket delivers for an interface, up to a number of frames. -/
  capture : CStr → Nat → List CapturedPacket

/-- The final `else`: the embedded page. -/
def dashboard (env : WebEnv) : Reply where
  status := "200 OK"
  headers := ["Content-Type: text/html".toList, "Content-Encoding: gzip".toList,
    contentLength env.uiIndexHtmlGz, "Connection: close".toList]
  body := env.uiIndexHtmlGz

/-! ## Login -/

/-- The text behind the first empty line. -/
def bodyOf (req : CStr) : Option CStr := (strstr req "\r\n\r\n".toList).map (·.drop 4)

/-- A field of the login body, into a `char [64]`. -/
def loginField (req : CStr) (key : String) : CStr :=
  ((bodyOf req).bind fun body => extractJsonString body key.toList 64).getD []

/-- A configured credential, `admin` if empty. -/
def expected (configured : CStr) : CStr := if configured ≠ [] then configured else "admin".toList

/-- User name and password of the request are the configured ones. -/
def credentialsMatch (auth : AuthConfig) (req : CStr) : Bool :=
  loginField req "username" = expected auth.username && loginField req "password" = expected auth.password

def loginBody (auth : AuthConfig) : CStr :=
  copyInto 256 ("\x7b\"status\":\"ok\",\"token\":\"".toList ++
    (if auth.sessionToken ≠ [] then auth.sessionToken else "flux_token_abc123".toList) ++
    "\",\"username\":\"".toList ++ expected auth.username ++ "\"\x7d".toList)

/-- The branch `POST /api/v1/login`. -/
def login (env : WebEnv) (st : WebState) (req : CStr) : Outcome :=
  let (locked, trackers) := st.trackers.isLockedOut env.peerIp env.now
  if locked then { reply := tooManyRequests, state := { st with trackers } }
  else if credentialsMatch st.config.auth req then
    { reply := jsonReply "200 OK" (loginBody st.config.auth)
      state := { st with trackers := trackers.recordSuccess env.peerIp } }
  else
    { reply := invalidLogin
      state := { st with trackers := trackers.recordFailure env.peerIp env.now } }

/-! ## Version check -/

/-- One `%d` of `sscanf`: the number and the rest of the text. -/
def scanInt (s : CStr) : Option (Int × CStr) :=
  let s := s.dropWhile isspace
  let unsigned := match s with
    | '-' :: t => t
    | '+' :: t => t
    | t => t
  if (unsigned.takeWhile Char.isDigit).isEmpty then none
  else some (atoi s, unsigned.dropWhile Char.isDigit)

/-- `sscanf(v, "%d.%d.%d", …)`: the numbers read, three at most. -/
def scanVersion (v : CStr) : List Int :=
  match scanInt v with
  | none => []
  | some (major, '.' :: v) =>
    match scanInt v with
    | none => [major]
    | some (minor, '.' :: v) =>
      match scanInt v with
      | none => [major, minor]
      | some (patch, _) => [major, minor, patch]
    | some (minor, _) => [major, minor]
  | some (major, _) => [major]

/-- `compare_semver`. -/
def compareSemver (v1 v2 : CStr) : Int :=
  let strip (v : CStr) : CStr := v.dropWhile fun c => c = 'v' || c = 'V'
  if strip v1 = strip v2 then 0
  else
    let n1 := scanVersion (strip v1)
    let n2 := scanVersion (strip v2)
    let part (n : List Int) (i : Nat) : Int := n.getD i 0
    -- a build time stamp, or no version at all, counts as older than any release
    if part n2 0 > 1000 ∨ n2.length < 2 then 1
    else if part n1 0 > 1000 ∨ n1.length < 2 then -1
    else if part n1 0 ≠ part n2 0 then part n1 0 - part n2 0
    else if part n1 1 ≠ part n2 1 then part n1 1 - part n2 1
    else part n1 2 - part n2 2

/-- The command line of `fetch_version_manifest`. -/
def updateCommand (env : WebEnv) : CStr :=
  let url := (env.updateUrl.filter (· ≠ [])).getD
    "https://raw.githubusercontent.com/ahmedha43/FluxWAN/main/version.json".toList
  let stamped := url ++ "?t=".toList ++ showNat (env.now % 2 ^ 64).toNat
  copyInto 1024 ("wget -q -T 6 -O /tmp/fluxwan_version.json \"".toList ++ stamped ++
    "\" 2>/dev/null || curl -sSL --connect-timeout 4 -m 8 \"".toList ++ stamped ++
    "\" -o /tmp/fluxwan_version.json 2>/dev/null".toList)

/-- `get_active_system_version`. -/
def activeSystemVersion (env : WebEnv) : CStr :=
  copyInto 32 ((env.versionFile.filter (· ≠ [])).getD "1.5.9".toList)

def showBool (b : Bool) : CStr := if b then "true".toList else "false".toList

def manifestBody (env : WebEnv) (manifest : CStr) : CStr :=
  let field (key dflt : String) : CStr :=
    (extractJsonString manifest key.toList 32).getD dflt.toList
  let current := activeSystemVersion env
  let latest := field "latest_version" "1.2.3"
  copyInto 32768 ("\x7b\n  \"status\": \"ok\",\n  \"current_version\": \"".toList ++ current ++
    "\",\n  \"latest_version\": \"".toList ++ latest ++
    "\",\n  \"update_available\": ".toList ++ showBool (compareSemver latest current > 0) ++
    ",\n  \"release_date\": \"".toList ++ field "release_date" "2026-09-12" ++
    "\",\n  \"channel\": \"".toList ++ field "channel" "stable" ++
    "\",\n  \"rollback_available\": ".toList ++ showBool env.rollbackAvailable ++
    ",\n  \"manifest\": ".toList ++ manifest ++ "\n\x7d".toList)

def offlineBody (env : WebEnv) : CStr :=
  let current := activeSystemVersion env
  copyInto 32768 (("\x7b\n  \"status\": \"offline\",\n  \"message\": \"Unable to fetch update manifest " ++
    "from GitHub. Check router internet connection.\",\n  \"current_version\": \"").toList ++ current ++
    "\",\n  \"latest_version\": \"".toList ++ current ++
    "\",\n  \"update_available\": false,\n  \"rollback_available\": ".toList ++
    showBool env.rollbackAvailable ++ "\n\x7d".toList)

/-- The branch `GET /api/v1/system/check_update`, which has NO gate: it runs the update command and
    reports what came of it. -/
def checkUpdate (env : WebEnv) (st : WebState) (_req : CStr) : Outcome :=
  let manifest := (env.versionJson.map fun file => cstr (file.take 16383)).filter (· ≠ [])
  { reply := jsonReply "200 OK" (manifest.elim (offlineBody env) (manifestBody env))
    state := st
    commands := [updateCommand env] }

/-! ## Packet capture -/

def chars (bytes : List UInt8) : List Char := bytes.map fun b => Char.ofNat b.toNat

/-- `wan_target`: the text after `wan=`, an index in it resolved to a name, the first WAN by default. -/
def pcapTarget (config : Config) (req : CStr) : CStr :=
  let stops (c : Char) : Bool := c = ' ' || c = '&' || c = '\r' || c = '\n'
  let asked := ((strstr req "wan=".toList).elim [] fun p => (p.drop 4).takeWhile (!stops ·)).take 63
  match asked with
  | [] => (config.wans[0]?).elim [] fun w => copyInto 64 w.name
  | c :: _ =>
    if c.isDigit then
      let idx := atoi asked
      if 0 ≤ idx then (config.wans[idx.toNat]?).elim asked fun w => copyInto 64 w.name else asked
    else asked

/-- `max_pkts`: the number after `count=` if it is from 1 to 200, else 30. -/
def pcapCount (req : CStr) : Nat :=
  (strstr req "count=".toList).elim 30 fun p =>
    let c := atoi (p.drop 6)
    if 0 < c ∧ c ≤ 200 then c.toNat else 30

def pcapGlobalHdr : List UInt8 :=
  bytes32 0xa1b2c3d4 ++ bytes16 2 ++ bytes16 4 ++ bytes32 0 ++ bytes32 0 ++ bytes32 65535 ++ bytes32 1

def pcapRecord (p : CapturedPacket) : List UInt8 :=
  let len := UInt32.ofNat p.bytes.length
  bytes32 p.tsSec ++ bytes32 p.tsUsec ++ bytes32 len ++ bytes32 len ++ p.bytes

/-- The synthetic packet sent when nothing was captured. -/
def diagPacket (now : Int) : CapturedPacket where
  tsSec := UInt32.ofNat (now % 2 ^ 32).toNat
  tsUsec := 100000
  bytes := List.replicate 6 0xff ++ [0x02, 0x46, 0x57, 0x41, 0x4e, 0x01, 0x08, 0x00] ++
    [0x45, 0, 0, 46, 0, 0, 0x40, 0, 64, 17, 0, 0, 10, 10, 10, 1, 8, 8, 8, 8] ++ [0x1f, 0x90, 0x1f, 0x90, 0, 26, 0, 0] ++
    "FluxWAN Diag Stream".toList.map (fun c => UInt8.ofNat c.toNat) ++ List.replicate 3 0

/-- `handle_pcap_export`, which has NO gate: it streams live packets. -/
def handlePcapExport (env : WebEnv) (st : WebState) (req : CStr) : Outcome :=
  let target := pcapTarget st.config req
  let filename := copyInto 128 ("fluxwan_".toList ++ (if target ≠ [] then target else "diag".toList) ++ ".pcap".toList)
  let captured := (env.capture target (pcapCount req)).take (pcapCount req)
  let packets := if captured.isEmpty then [diagPacket env.now] else captured
  { reply :=
      { status := "200 OK"
        headers := ["Content-Type: application/vnd.tcpdump.pcap".toList,
          "Content-Disposition: attachment; filename=\"".toList ++ filename ++ "\"".toList,
          "Access-Control-Allow-Origin: *".toList, "Cache-Control: no-cache".toList, "Connection: close".toList]
        body := chars (pcapGlobalHdr ++ packets.flatMap pcapRecord) }
    state := st }

/-! ## Telemetry -/

/-- The branch `GET /api/v1/telemetry`, which has NO gate: the status as a server-sent event. -/
def telemetry (env : WebEnv) (st : WebState) (_req : CStr) : Outcome where
  reply :=
    { status := "200 OK"
      headers := ["Content-Type: text/event-stream".toList, "Cache-Control: no-cache".toList,
        "Connection: keep-alive".toList, "Access-Control-Allow-Origin: *".toList]
      body := copyInto 263000 ("data: ".toList ++ copyInto 262144 (env.buildJsonStatus st) ++ "\n\n".toList) }
  state := st

end FluxWAN.Web
