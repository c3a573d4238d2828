/-
  Loading a configuration file (`src/config.c`: `config_load`), first part.

  The sections here are those whose data the steering code reads: the LAN, the WAN array with its
  tunnels, the prober limits, the administrator account and the WAN groups, with their defaults.  The
  sections of the services are in `ConfigServices`.  The file is accepted whenever it can be read and is
  not empty.

  Group membership is resolved last.  For every name of a group that is the label or interface name of a
  WAN, that WAN's index is appended to `wan_member_indices`; a name that matches nothing is skipped.  The
  number of indices written goes to `active_wan_count`, but `wan_count` stays the number of NAMES — and
  it is `wan_count` entries that the ring is built from later (`memberIndices_resolveGroup`).
-/
import FluxWAN.ConfigKeys
import FluxWAN.JsonText
import FluxWAN.ProxyManager

namespace FluxWAN

open CString QuotedText

/-- An optional text field copied into a `char [size]`; the zeroed field if the key is missing. -/
def textField (obj : CStr) (key : Key) (valSize size : Nat) : CStr :=
  (extractJsonString obj key.text valSize).elim [] (copyInto size)

/-- The same with a default. -/
def textFieldD (obj : CStr) (key : Key) (valSize size : Nat) (dflt : CStr) : CStr :=
  (extractJsonString obj key.text valSize).elim dflt (copyInto size)

/-- An optional address field. -/
def ipField (obj : CStr) (key : Key) (valSize : Nat) : UInt32 :=
  (extractJsonString obj key.text valSize).elim 0 strToIp

/-! ## Policy routes, static leases, rate limits -/

/-- The netmask of a prefix length, in network byte order. -/
def cidrNetmask (prefixLen : Nat) : UInt32 :=
  if prefixLen = 0 then 0
  else if prefixLen = 32 then 0xFFFFFFFF
  else htonl ((0xFFFFFFFF : UInt32) <<< UInt32.ofNat (32 - prefixLen))

/-- `parse_cidr_subnet`: address, netmask and prefix length; `/24` if none is given. -/
def parseCidrSubnet (cidr : CStr) : UInt32 × UInt32 × UInt32 :=
  match strchr cidr '/' with
  | none => (strToIp (copyInto 32 cidr), cidrNetmask 24, 24)
  | some slash =>
    let prefixLen : Nat := min ((atoi (slash.drop 1)) % 2 ^ 32).toNat 32
    (strToIp (copyInto 32 (cidr.take (cidr.length - slash.length))), cidrNetmask prefixLen, UInt32.ofNat prefixLen)

/-- One entry of `"policy_routes"`; the target group is resolved later. -/
def loadPolicyRoute (obj : CStr) : PolicyRoute :=
  let subnet := (extractJsonString obj Key.subnet.text 64).map parseCidrSubnet
  { enabled := extractJsonBool obj Key.enabled.text true
    subnetStr := textField obj .subnet 64 32
    subnetIp := subnet.elim 0 fun s => s.1
    netmask := subnet.elim 0 fun s => s.2.1
    prefixLen := subnet.elim 0 fun s => s.2.2
    gatewayIpStr := textField obj .gatewayIp 64 32
    gatewayIp := ipField obj .gatewayIp 64
    targetGroup := textField obj .targetGroup 64 32
    description := textField obj .description 64 64 }

/-- One `%x` of `sscanf`: the number as an `unsigned`, and the rest of the text. -/
def scanHex (s : CStr) : Option (Nat × CStr) :=
  let s := s.dropWhile isspace
  let neg := startsWith s ['-']
  let s := if neg || startsWith s ['+'] then s.drop 1 else s
  let mark := startsWith (s.map Char.toLower) ['0', 'x']
  let (acc, k, rest) := CFloat.spanDigits 16 CFloat.hexDigit (if mark then s.drop 2 else s) 0 0
  if k = 0 && !mark then none
  else
    -- `strtoul` saturates, then negates
    let val := min acc (2 ^ 64 - 1)
    some ((if neg then 2 ^ 64 - val else val) % 2 ^ 32, rest)

/-- `n + 1` hexadecimal numbers separated by `sep`. -/
def scanHexes (sep : Char) : Nat → CStr → Option (List Nat)
  | 0, s => (scanHex s).map fun r => [r.1]
  | n + 1, s =>
    match scanHex s with
    | some (x, c :: t) => if c = sep then (scanHexes sep n t).map (x :: ·) else none
    | _ => none

/-- `parse_mac_str`: six numbers separated by colons, or by dashes. -/
def parseMacStr (s : CStr) : Option Mac :=
  match (scanHexes ':' 5 s).or (scanHexes '-' 5 s) with
  | some [a, b, c, d, e, f] =>
    some #v[UInt8.ofNat a, UInt8.ofNat b, UInt8.ofNat c, UInt8.ofNat d, UInt8.ofNat e, UInt8.ofNat f]
  | _ => none

/-- One entry of `"static_leases"`. -/
def loadStaticLease (obj : CStr) : StaticLease :=
  let mval := textField obj .mac 64 64
  { macStr := copyInto 18 mval
    macAddr := (parseMacStr mval).getD (Vector.replicate 6 0)
    ipAddr := strToIp (textField obj .ip 64 64)
    hostname := textField obj .hostname 64 64
    enabled := extractJsonBool obj Key.enabled.text true }

/-- One entry of `"rate_limits"`. -/
def loadRateLimit (obj : CStr) : RateLimit :=
  let ipval := textField obj .ip 64 64
  { ipStr := copyInto 32 ipval
    ipAddr := strToIp ipval
    description := textField obj .description 64 64
    maxDownMbps := extractJsonU32 obj Key.maxDownMbps.text 50
    maxUpMbps := extractJsonU32 obj Key.maxUpMbps.text 10
    enabled := extractJsonBool obj Key.enabled.text true }

/-! ## LAN -/

/-- The text from the LAN block on. -/
def lanPos (json : CStr) : Option CStr := strstr json (quoted Key.lan)

/-- An address of the LAN block; empty and `0.0.0.0` count as missing. -/
def lanAddress (lan : CStr) (key : Key) (dflt : CStr) : UInt32 :=
  match extractJsonString lan key.text 64 with
  | none => strToIp dflt
  | some val => if val ≠ [] ∧ val ≠ "0.0.0.0".toList then strToIp val else strToIp dflt

def loadLanIp (json : CStr) : UInt32 :=
  match lanPos json with
  | none => 0
  | some lan => lanAddress lan .ip "192.168.90.1".toList

/-- The objects of one of the arrays of the LAN block, which is searched for up to the end of the
    file. -/
def lanObjects (n : Nat) (key : Key) (json : CStr) : List CStr :=
  ((lanPos json).bind (strstr · (quoted key))).elim [] (objectsAfter n)

theorem length_lanObjects_le (n : Nat) (key : Key) : (lanObjects n key json).length ≤ n := by
  unfold lanObjects
  cases (lanPos json).bind (strstr · (quoted key)) with
  | none => exact Nat.zero_le n
  | some pos => exact length_objectsAfter_le n pos

def loadPolicyRoutes (json : CStr) : List PolicyRoute :=
  (lanObjects maxPolicyRoutes .policyRoutes json).map loadPolicyRoute

/-- A text with a default for the empty one too. -/
def nonEmptyField (obj : CStr) (key : Key) (valSize size : Nat) (dflt : CStr) : CStr :=
  let val := (extractJsonString obj key.text valSize).getD []
  copyInto size (if val ≠ [] then val else dflt)

def loadQos (lan : CStr) : QosConfig :=
  match strstr lan (quoted Key.qos) with
  | some pos =>
    { enabled := extractJsonBool pos Key.enabled.text false
      algorithm := nonEmptyField pos .algorithm 32 16 "cake".toList
      bandwidthDownMbps := extractJsonU32 pos Key.bandwidthDownMbps.text 100
      bandwidthUpMbps := extractJsonU32 pos Key.bandwidthUpMbps.text 20
      diffserv4 := extractJsonBool pos Key.diffserv4.text true }
  | none =>
    { algorithm := "cake".toList, bandwidthDownMbps := 100, bandwidthUpMbps := 20, diffserv4 := true }

def loadDns (lan : CStr) : DnsFeatures :=
  match strstr lan (quoted Key.dns) with
  | some pos =>
    { adblockEnabled := extractJsonBool pos Key.adblockEnabled.text false
      fastDnsEnabled := extractJsonBool pos Key.fastDnsEnabled.text true
      smartIpv6Bonding := extractJsonBool pos Key.smartIpv6Bonding.text true
      primaryDns := nonEmptyField pos .primaryDns 32 32 "1.1.1.1".toList
      secondaryDns := nonEmptyField pos .secondaryDns 32 32 "8.8.8.8".toList }
  | none =>
    { fastDnsEnabled := true, smartIpv6Bonding := true
      primaryDns := "1.1.1.1".toList, secondaryDns := "8.8.8.8".toList }

/-- "Parse LAN block"; without one everything stays zero. -/
def loadLan (json : CStr) : LanConfig :=
  match lanPos json with
  | none => {}
  | some lan =>
    { name := nonEmptyField lan .interface 64 maxIfnameLen "eth0".toList
      netmask := lanAddress lan .netmask "255.255.255.0".toList
      dhcpEnabled := extractJsonBool lan Key.dhcpEnabled.text true
      dhcpStart := lanAddress lan .dhcpStart "192.168.90.100".toList
      dhcpEnd := lanAddress lan .dhcpEnd "192.168.90.200".toList
      dhcpLeaseTime := extractJsonU32 lan Key.dhcpLeaseTime.text 43200
      staticLeases := (lanObjects maxStaticLeases .staticLeases json).map loadStaticLease
      rateLimits := (lanObjects maxRateLimits .rateLimits json).map loadRateLimit
      qos := loadQos lan
      dns := loadDns lan
      staticLeases_le := by rw [List.length_map]; exact length_lanObjects_le _ _
      rateLimits_le := by rw [List.length_map]; exact length_lanObjects_le _ _ }

/-! ## WANs -/

/-- The value of `"state"`; anything unknown is HEALTHY, and without one the state follows
    `enabled`. -/
def loadState (obj : CStr) (enabled : Bool) : WanState :=
  match extractJsonString obj Key.state.text 32 with
  | some val =>
    if val = "DRAINING".toList then .draining
    else if val = "DOWN".toList then .down
    else if val = "DEGRADED".toList then .degraded
    else .healthy
  | none => if enabled then .healthy else .down

def loadType (obj : CStr) : WanType :=
  match extractJsonString obj Key.type.text 256 with
  | some val =>
    if val = "dhcp".toList then .dhcp
    else if val = "pppoe".toList then .pppoe
    else if val = "wifi".toList then .wifi
    else .static
  | none => .static

/-- A text field under either of two keys. -/
def textField2 (obj : CStr) (key key' : Key) (valSize size : Nat) : CStr :=
  ((extractJsonString obj key.text valSize).or (extractJsonString obj key'.text valSize)).elim []
    (copyInto size)

/-- Without a value, a wireless link is taken for WPA2. -/
def loadWifiSecurity (obj : CStr) : CStr :=
  textFieldD obj .wifiSecurity 256 16 (if loadType obj = .wifi then "WPA2-PSK".toList else [])

def proxyProtoOf (val : CStr) : ProxyProto :=
  if val = "vless".toList then .vless
  else if val = "vmess".toList then .vmess
  else if val = "trojan".toList then .trojan
  else if val = "shadowsocks".toList then .shadowsocks
  else .none

/-- The name of a strategy, if there is one, decides over its number. -/
def loadStrategy (obj : CStr) : ProxyStrategy :=
  match extractJsonString obj Key.proxyStrategyStr.text 32 with
  | some val =>
    if strcasecmp val "leastLoad".toList || strcasecmp val "least_load".toList ||
        strcasecmp val "smartFlow".toList then .leastLoad
    else if strcasecmp val "roundRobin".toList || strcasecmp val "round_robin".toList then .roundRobin
    else .failover
  | none => .ofInt (extractJsonInt obj Key.proxyStrategy.text 0)

/-- The tunnel as the file has it. -/
def readProxy (obj ifname : CStr) : ProxyConfig :=
  let rawUri := textField obj .proxyRawUri 1024 2048
  { strategy := loadStrategy obj
    primary :=
      { proto := (extractJsonString obj Key.proxyProto.text 256).elim .none proxyProtoOf
        protoStr := textField obj .proxyProto 256 16
        server := textField obj .proxyServer 256 128
        port := extractJsonU16 obj Key.proxyPort.text 443
        uuid := textField obj .proxyUuid 256 64
        sni := textField obj .proxySni 256 128
        host := textField obj .proxyHost 256 128
        path := textField obj .proxyPath 256 128
        transport := textField obj .proxyTransport 256 16
        security := textField obj .proxySecurity 256 16
        encryption := textField obj .proxyEncryption 256 256
        rawUri }
    servers0 := { fields := { rawUri } }
    servers1 := { fields := { rawUri := textField obj .proxyRawUri2 2048 2048 } }
    servers2 := { fields := { rawUri := textField obj .proxyRawUri3 2048 2048 } }
    tunDev := textField obj .proxyTunDev 256 16
    bindInterface := copyInto 32 ifname }

/-- "Synchronize multi-server endpoints if proxy is configured"; the third link does not count. -/
def loadProxy (obj ifname : CStr) (enabled : Bool) : ProxyConfig :=
  let p := readProxy obj ifname
  if enabled = true ∨ p.primary.rawUri ≠ [] ∨ p.servers1.fields.rawUri ≠ [] then syncServers p else p

/-- One object of the `"wans"` array. -/
def loadWan (idx : Nat) (obj : CStr) : WanConfig :=
  let enabled := extractJsonBool obj Key.enabled.text true
  let state := loadState obj enabled
  let weight := extractJsonU32 obj Key.weight.text 100
  let probeTarget := extractJsonString obj Key.probeTarget.text 256
  let ifname := textField obj .name 256 maxIfnameLen
  let mtu := extractJsonU32 obj Key.mtu.text 1500
  let proxyEnabled := extractJsonBool obj Key.proxyEnabled.text false
  { id := extractJsonU32 obj Key.id.text (idx + 1)
    name := ifname
    label := textField obj .label 256 maxLabelLen
    type := loadType obj
    ipAddr := ipField obj .ip 256
    netmask := ipField obj .netmask 256
    gateway := ipField obj .gateway 256
    pppUsername := textField2 obj .pppUsername .username 256 64
    pppPassword := textField2 obj .pppPassword .password 256 64
    customMac := textField2 obj .mac .customMac 256 20
    wifiSsid := textField2 obj .wifiSsid .ssid 256 64
    wifiPassword := textField obj .wifiPassword 256 64
    wifiSecurity := loadWifiSecurity obj
    tableId := extractJsonU32 obj Key.tableId.text (100 + idx + 1)
    configWeight := weight
    dynamicWeight := if enabled = false then 0 else if state = .draining then 0 else weight
    bandwidthDownMbps := extractJsonU32 obj Key.bandwidthDownMbps.text 100
    bandwidthUpMbps := extractJsonU32 obj Key.bandwidthUpMbps.text 20
    state
    enabled
    probeTarget := copyInto 64 (probeTarget.getD "8.8.8.8".toList)
    probeTargetIp := strToIp (probeTarget.getD "8.8.8.8".toList)
    mssClamping := extractJsonU16 obj Key.mssClamping.text 1452
    mtu
    linkMtu := mtu.toUInt16
    proxyEnabled
    proxy := loadProxy obj ifname proxyEnabled }

/-- The search for the WAN array: the first `"wans"` whose following array contains an object.  After
    a miss the search resumes behind the key, hence the counter. -/
def findWansArray : Nat → CStr → Option (CStr × CStr)
  | _, [] => none
  | skip + 1, _ :: s => findWansArray skip s
  | 0, c :: s =>
    if startsWith (c :: s) (quoted Key.wans) then
      match arrayFrom (c :: s) with
      | some (arrayStart, arrayEnd) =>
        if (strchr arrayStart '\x7b').any (Before · arrayEnd) then some (arrayStart, arrayEnd)
        else findWansArray 5 s
      | none => findWansArray 5 s
    else findWansArray 0 s

/-- "Ensure unique WAN IDs and routing table IDs" for WAN `i`, given the ones before it. -/
def uniqueIds (earlier : List WanConfig) (wi : WanConfig) : WanConfig :=
  let i := earlier.length
  let idDup := earlier.any (·.id = wi.id)
  let tableDup := earlier.any (·.tableId = wi.tableId)
  let id := if idDup || wi.id = 0 then UInt32.ofNat (i + 1) else wi.id
  let tableId := if tableDup || wi.tableId = 0 then UInt32.ofNat (100 + i + 1) else wi.tableId
  { wi with
    id
    tableId
    label := if wi.label = [] then "WAN_".toList ++ showNat id.toNat else wi.label }

def loadWans (json : CStr) : List WanConfig :=
  match findWansArray 0 json with
  | none => []
  | some (arrayStart, arrayEnd) =>
    ((objectSlices maxWans arrayStart arrayEnd).mapIdx loadWan).foldl
      (fun done wi => done ++ [uniqueIds done wi]) []

theorem length_foldl_append_one {α β : Type} (f : List β → α → β) (xs : List α) :
    ∀ acc : List β, (xs.foldl (fun done x => done ++ [f done x]) acc).length = acc.length + xs.length := by
  induction xs with
  | nil => intro acc; rfl
  | cons x xs ih =>
    intro acc
    rw [List.foldl_cons, ih, List.length_append, List.length_singleton, List.length_cons]
    omega

theorem length_loadWans_le (json : CStr) : (loadWans json).length ≤ maxWans := by
  unfold loadWans
  split
  · exact Nat.zero_le _
  · rename_i arrayStart arrayEnd _
    rw [length_foldl_append_one, List.length_mapIdx, List.length_nil, Nat.zero_add]
    exact length_objectSlices_le maxWans arrayStart arrayEnd

/-! ## Prober and administrator -/

def loadProber (json : CStr) : ProberConfig :=
  match strstr json (quoted Key.prober) with
  | some pos =>
    { intervalMs := extractJsonU32 pos Key.intervalMs.text 500
      timeoutMs := extractJsonU32 pos Key.timeoutMs.text 1000
      lossWindow := extractJsonU32 pos Key.lossWindow.text 20
      maxAcceptableRttMs := extractJsonU32 pos Key.maxAcceptableRttMs.text 250
      maxAcceptableLossPct := extractJsonFloat pos Key.maxAcceptableLossPct.text (.fin 20 0)
      dynamicLatencySteering := extractJsonBool pos Key.dynamicLatencySteering.text true }
  | none =>
    { intervalMs := 500, timeoutMs := 1000, lossWindow := 20, maxAcceptableRttMs := 250,
      maxAcceptableLossPct := .fin 20 0, dynamicLatencySteering := true }

def loadAuth (json : CStr) : AuthConfig :=
  let pos := strstr json (quoted Key.auth)
  let field (key : Key) (dflt : CStr) : CStr := (pos.bind (extractJsonString · key.text 64)).getD dflt
  { enabled := pos.elim true (extractJsonBool · Key.enabled.text true)
    username := field .username "admin".toList
    password := field .password "admin".toList
    sessionToken := field .sessionToken "flux_sec_token_987".toList }

/-! ## Groups -/

/-- The names of the group's `"wans"` array: the quoted texts between its brackets. -/
def loadWanNames (obj : CStr) : List CStr :=
  match strstr obj (quoted Key.wans) with
  | none => []
  | some pos =>
    match strchr pos '[', strchr pos ']' with
    | some gwStart, some gwEnd =>
      if Before gwStart gwEnd then quotedNames maxLabelLen maxGroupMembers gwStart gwEnd else []
    | _, _ => []

theorem length_loadWanNames_le : (loadWanNames obj).length ≤ maxGroupMembers := by
  unfold loadWanNames
  split
  · exact Nat.zero_le _
  · split
    · split
      · exact length_quotedNames_le _ _ _ _
      · exact Nat.zero_le _
    · exact Nat.zero_le _

/-- One object of the `"groups"` array, members not yet resolved. -/
def loadGroup (idx : Nat) (obj : CStr) : WanGroup :=
  let id := extractJsonU32 obj Key.id.text (idx + 1)
  { id
    enabled := extractJsonBool obj Key.enabled.text true
    name := (extractJsonString obj Key.name.text 64).elim
      ("Group_".toList ++ showNat id.toNat) (copyInto 32)
    description := textField obj .description 64 64
    wanNames := loadWanNames obj
    wanCount := (loadWanNames obj).length
    wanCount_le := length_loadWanNames_le }

/-- The listed name denotes this WAN. -/
def WanConfig.isNamed (w : WanConfig) (name : CStr) : Bool := name = w.label || name = w.name

/-- The first WAN a name denotes. -/
def resolveName (wans : List WanConfig) (name : CStr) : Option Nat :=
  wans.findIdx? (·.isNamed name)

/-- "Resolve Group IDs and WAN Member Indices". -/
def resolveGroup (wans : List WanConfig) (g : WanGroup) : WanGroup :=
  let resolved := (g.wanNames.take g.wanCount).filterMap (resolveName wans)
  { g with
    wanMemberIndices := Vector.ofFn fun i =>
      if h : i.val < resolved.length then UInt32.ofNat resolved[i.val] else g.wanMemberIndices[i]
    activeWanCount := resolved.length }

def loadGroups (json : CStr) (wans : List WanConfig) : List WanGroup :=
  match strstr json (quoted Key.groups) with
  | none => []
  | some pos => ((objectsAfter maxWanGroups pos).mapIdx loadGroup).map (resolveGroup wans)

theorem length_loadGroups_le (wans : List WanConfig) : (loadGroups json wans).length ≤ maxWanGroups := by
  unfold loadGroups
  split
  · exact Nat.zero_le _
  · rw [List.length_map, List.length_mapIdx]
    exact length_objectsAfter_le _ _

/-- "Resolve Policy Route Target Group IDs": 0, all WANs, if no group has the name. -/
def resolvePolicy (groups : List WanGroup) (pr : PolicyRoute) : PolicyRoute :=
  { pr with
    targetGroupId := (groups.find? fun g => decide (pr.targetGroup = g.name)).elim 0 WanGroup.id }

theorem length_loadPolicyRoutes_le : (loadPolicyRoutes json).length ≤ maxPolicyRoutes := by
  rw [loadPolicyRoutes, List.length_map]
  exact length_lanObjects_le _ _

/-! ## The whole file -/

/-- `config_load` on the bytes of the file: rejected only when there are none.  The C code sees the
    text up to the first NUL. -/
def configLoad (file : List Char) : Option Config :=
  if file = [] then none
  else
    let json := cstr file
    let wans := loadWans json
    let groups := loadGroups json wans
    some
      { lan := loadLan json
        lanIpAddr := loadLanIp json
        policyRoutes := (loadPolicyRoutes json).map (resolvePolicy groups)
        wans
        groups
        prober := loadProber json
        auth := loadAuth json
        wans_le := length_loadWans_le json
        groups_le := length_loadGroups_le wans
        policyRoutes_le := by rw [List.length_map]; exact length_loadPolicyRoutes_le }

end FluxWAN
