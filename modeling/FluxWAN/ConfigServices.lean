/-
  The service sections of the configuration (`include/fluxwan.h`, `src/config.c`: `config_load`, second
  part).

  `Config` holds what packet steering reads.  `FluxwanConfig` is the whole `fluxwan_config_t`: that part
  and the blocks of the services around it (sticky sessions, alerts, web server, NAT46, DPI, stealth,
  PPPoE server, VPNs, address lists).  `configLoadAll` is `config_load` as a whole; the time it takes is
  the creation date of PPPoE users that have none.

  The VPN block is the only one that is cut out by matching braces.  All other blocks are read from the
  position of their key to the END of the file.
-/
import FluxWAN.ConfigLoad

namespace FluxWAN

open CString QuotedText

abbrev maxPppoeUsers : Nat := 4096
abbrev maxPppoeProfiles : Nat := 64
abbrev maxWgPeers : Nat := 64
abbrev maxZtNetworks : Nat := 16
abbrev maxAddressLists : Nat := 16
abbrev maxEntriesPerList : Nat := 256

/-! ## Sticky sessions, steering, alerts, web server, NAT46, DPI, stealth -/

/-- `sticky_config_t`. -/
structure StickyConfig where
  enabled : Bool := false
  timeoutSeconds : UInt32 := 0
  strictBankingEnabled : Bool := false
  deriving DecidableEq

def loadSticky (json : CStr) : StickyConfig :=
  match strstr json (quoted Key.sticky) with
  | some pos =>
    { enabled := extractJsonBool pos Key.enabled.text true
      timeoutSeconds := extractJsonU32 pos Key.timeoutSeconds.text 300
      strictBankingEnabled := extractJsonBool pos Key.strictBankingEnabled.text true }
  | none => { enabled := true, timeoutSeconds := 300, strictBankingEnabled := true }

/-- `app_steering_t`. -/
structure AppSteering where
  gamingSteeringEnabled : Bool := false
  voipSteeringEnabled : Bool := false
  bulkBalancingEnabled : Bool := false
  primaryGamingWanId : UInt32 := 0
  primaryVoipWanId : UInt32 := 0
  deriving DecidableEq

def loadAppSteering (json : CStr) : AppSteering :=
  match strstr json (quoted Key.appSteering) with
  | some pos =>
    { gamingSteeringEnabled := extractJsonBool pos Key.gamingSteeringEnabled.text false
      voipSteeringEnabled := extractJsonBool pos Key.voipSteeringEnabled.text false
      bulkBalancingEnabled := extractJsonBool pos Key.bulkBalancingEnabled.text true
      primaryGamingWanId := extractJsonU32 pos Key.primaryGamingWanId.text 0
      primaryVoipWanId := extractJsonU32 pos Key.primaryVoipWanId.text 0 }
  | none => { bulkBalancingEnabled := true }

/-- `telegram_config_t`. -/
structure TelegramConfig where
  enabled : Bool := false
  botToken : CStr := []
  chatId : CStr := []
  notifyOnFailover : Bool := false
  notifyOnRecovery : Bool := false
  deriving DecidableEq

def loadTelegram (json : CStr) : TelegramConfig :=
  match strstr json (quoted Key.telegram) with
  | some pos =>
    { enabled := extractJsonBool pos Key.enabled.text false
      botToken := textField pos .botToken 128 128
      chatId := textField pos .chatId 64 64
      notifyOnFailover := extractJsonBool pos Key.notifyOnFailover.text true
      notifyOnRecovery := extractJsonBool pos Key.notifyOnRecovery.text true }
  | none => { notifyOnFailover := true, notifyOnRecovery := true }

/-- `web_config_t`. -/
structure WebConfig where
  bindIp : CStr := []
  port : UInt16 := 0
  deriving DecidableEq

def loadWeb (json : CStr) : WebConfig :=
  match strstr json (quoted Key.web) with
  | some pos =>
    { bindIp := textFieldD pos .bindIp 64 64 "0.0.0.0".toList
      port := extractJsonU16 pos Key.port.text 8080 }
  | none => { bindIp := "0.0.0.0".toList, port := 8080 }

/-- `nat46_config_t`. -/
structure Nat46Config where
  enabled : Bool := false
  syntheticPrefix : CStr := []
  upstreamDns : CStr := []
  starlinkWanName : CStr := []
  deriving DecidableEq

def loadNat46 (json : CStr) : Nat46Config :=
  match strstr json (quoted Key.nat46) with
  | some pos =>
    { enabled := extractJsonBool pos Key.enabled.text false
      syntheticPrefix := textFieldD pos .syntheticPrefix 64 32 "198.18.0.0/15".toList
      upstreamDns := textFieldD pos .upstreamDns 64 64 "1.1.1.1".toList
      starlinkWanName := textFieldD pos .starlinkWanName 64 maxIfnameLen "veth_wan2".toList }
  | none =>
    { syntheticPrefix := "198.18.0.0/15".toList, upstreamDns := "1.1.1.1".toList
      starlinkWanName := "veth_wan2".toList }

/-- `dpi_config_t`. -/
structure DpiConfig where
  enabled : Bool := false
  p2pThrottleEnabled : Bool := false
  p2pThrottleRateKbps : UInt32 := 0
  voipPriorityEnabled : Bool := false
  gamingPriorityEnabled : Bool := false
  streamingBalanceEnabled : Bool := false
  deriving DecidableEq

def loadDpi (json : CStr) : DpiConfig :=
  match strstr json (quoted Key.dpi) with
  | some pos =>
    { enabled := extractJsonBool pos Key.enabled.text false
      p2pThrottleEnabled := extractJsonBool pos Key.p2pThrottleEnabled.text false
      p2pThrottleRateKbps := extractJsonU32 pos Key.p2pThrottleRateKbps.text 512
      voipPriorityEnabled := extractJsonBool pos Key.voipPriorityEnabled.text true
      gamingPriorityEnabled := extractJsonBool pos Key.gamingPriorityEnabled.text true
      streamingBalanceEnabled := extractJsonBool pos Key.streamingBalanceEnabled.text true }
  | none =>
    { p2pThrottleRateKbps := 512, voipPriorityEnabled := true, gamingPriorityEnabled := true
      streamingBalanceEnabled := true }

/-- `stealth_config_t`. -/
structure StealthConfig where
  enabled : Bool := false
  ttlValue : UInt8 := 0
  cloakTraceroute : Bool := false
  blockWanProbes : Bool := false
  deriving DecidableEq

def loadStealth (json : CStr) : StealthConfig :=
  match strstr json (quoted Key.stealth) with
  | some pos =>
    { enabled := extractJsonBool pos Key.enabled.text true
      ttlValue := extractJsonU8 pos Key.ttlValue.text 65
      cloakTraceroute := extractJsonBool pos Key.cloakTraceroute.text true
      blockWanProbes := extractJsonBool pos Key.blockWanProbes.text true }
  | none => { enabled := true, ttlValue := 65, cloakTraceroute := true, blockWanProbes := true }

/-! ## PPPoE server -/

/-- `radius_proto_t`. -/
inductive RadiusProto where
  | udp
  | radsec
  deriving DecidableEq

/-- `radius_config_t`. -/
structure RadiusConfig where
  enabled : Bool := false
  proto : RadiusProto := .udp
  server : CStr := []
  secret : CStr := []
  authPort : UInt16 := 0
  acctPort : UInt16 := 0
  coaPort : UInt16 := 0
  interimInterval : UInt32 := 0
  nasIdentifier : CStr := []
  tlsVerifyCert : Bool := false
  caCertPath : CStr := []
  clientCertPath : CStr := []
  clientKeyPath : CStr := []
  sniHostname : CStr := []
  deriving DecidableEq

def loadRadiusProto (pos : CStr) : RadiusProto :=
  match extractJsonString pos Key.proto.text 32 with
  | some val =>
    if strcasecmp val "radsec".toList || strcasecmp val "tls".toList then .radsec else .udp
  | none => .radsec

/-- The RADIUS block behind the position of the PPPoE block.  RadSec has its own default secret. -/
def loadRadius (pppoe : CStr) : RadiusConfig :=
  match strstr pppoe (quoted Key.radius) with
  | some pos =>
    let proto := loadRadiusProto pos
    let secret := textField pos .secret 64 64
    { enabled := extractJsonBool pos Key.enabled.text false
      proto
      server := textField pos .server 128 128
      secret := if secret = [] ∧ proto = .radsec then "radsec".toList else secret
      authPort := extractJsonU16 pos Key.authPort.text (if proto = .radsec then 2083 else 1812)
      acctPort := extractJsonU16 pos Key.acctPort.text (if proto = .radsec then 2083 else 1813)
      coaPort := extractJsonU16 pos Key.coaPort.text 3799
      interimInterval := extractJsonU32 pos Key.interimInterval.text 300
      nasIdentifier := textFieldD pos .nasIdentifier 64 64 "FluxWAN-BRAS-01".toList
      tlsVerifyCert := extractJsonBool pos Key.tlsVerifyCert.text false
      caCertPath := textField pos .caCertPath 256 256
      clientCertPath := textField pos .clientCertPath 256 256
      clientKeyPath := textField pos .clientKeyPath 256 256
      sniHostname := textField pos .sniHostname 64 64 }
  | none =>
    { proto := .radsec, secret := "radsec".toList, authPort := 2083, acctPort := 2083, coaPort := 3799
      interimInterval := 300, nasIdentifier := "FluxWAN-BRAS-01".toList }

/-- `pppoe_profile_t`. -/
structure PppoeProfile where
  name : CStr := []
  rateDownKbps : UInt32 := 0
  rateUpKbps : UInt32 := 0
  validityDays : UInt32 := 0
  description : CStr := []
  deriving DecidableEq

def loadProfile (obj : CStr) : PppoeProfile where
  name := textField obj .name 64 64
  rateDownKbps := extractJsonU32 obj Key.rateDownKbps.text 0
  rateUpKbps := extractJsonU32 obj Key.rateUpKbps.text 0
  validityDays := extractJsonU32 obj Key.validityDays.text 30
  description := textField obj .description 64 64

/-- The profiles of a server that has none. -/
def defaultProfiles : List PppoeProfile :=
  [{ name := "Economy_10M".toList, rateDownKbps := 10240, rateUpKbps := 5120, validityDays := 30
     description := "10 Mbps Down / 5 Mbps Up (30 Days)".toList },
   { name := "Standard_25M".toList, rateDownKbps := 25600, rateUpKbps := 10240, validityDays := 30
     description := "25 Mbps Down / 10 Mbps Up (30 Days)".toList },
   { name := "Ultra_50M".toList, rateDownKbps := 51200, rateUpKbps := 20480, validityDays := 30
     description := "50 Mbps Down / 20 Mbps Up (30 Days)".toList },
   { name := "Unlimited".toList
     description := "Max Line Speed (No Shaping / Unlimited)".toList }]

/-- `pppoe_user_t`. -/
structure PppoeUser where
  username : CStr := []
  password : CStr := []
  profile : CStr := []
  staticIp : CStr := []
  comment : CStr := []
  createdAt : UInt64 := 0
  expiresAt : UInt64 := 0
  enabled : Bool := false
  deriving DecidableEq

def loadUser (now : UInt64) (obj : CStr) : PppoeUser where
  username := textField obj .username 64 64
  password := textField obj .password 64 64
  profile := textField obj .profile 64 64
  staticIp := textField obj .staticIp 32 32
  comment := textField obj .comment 128 128
  enabled := extractJsonBool obj Key.enabled.text true
  createdAt := extractJsonUint64 obj Key.createdAt.text now
  expiresAt := extractJsonUint64 obj Key.expiresAt.text 0

/-- The user of a router without a PPPoE block. -/
def defaultUser (now : UInt64) : PppoeUser where
  username := "fluxwan".toList
  password := "123456".toList
  profile := "Standard_25M".toList
  enabled := true
  createdAt := now
  comment := "Default Broadband User".toList

theorem zero_le_maxPppoeProfiles : 0 ≤ maxPppoeProfiles := Nat.zero_le _
theorem zero_le_maxPppoeUsers : 0 ≤ maxPppoeUsers := Nat.zero_le _

/-- `pppoe_server_config_t`. -/
structure PppoeServerConfig where
  enabled : Bool := false
  lanMode : CStr := []
  interface : CStr := []
  serviceName : CStr := []
  acName : CStr := []
  localIp : CStr := []
  poolStart : CStr := []
  poolEnd : CStr := []
  poolCount : UInt32 := 0
  dns1 : CStr := []
  dns2 : CStr := []
  mru : UInt16 := 0
  mss : UInt16 := 0
  radius : RadiusConfig := {}
  profiles : List PppoeProfile := []
  users : List PppoeUser := []
  profiles_le : profiles.length ≤ maxPppoeProfiles := by
    first | exact zero_le_maxPppoeProfiles | decide
  users_le : users.length ≤ maxPppoeUsers := by first | exact zero_le_maxPppoeUsers | decide

/-- The objects of an array found by its key. -/
def objectsOf (n : Nat) (key : Key) (text : CStr) : List CStr :=
  (strstr text (quoted key)).elim [] (objectsAfter n)

theorem length_objectsOf_le (n : Nat) (key : Key) (text : CStr) : (objectsOf n key text).length ≤ n := by
  unfold objectsOf
  cases strstr text (quoted key) with
  | none => exact Nat.zero_le n
  | some pos => exact length_objectsAfter_le n pos

def loadProfiles (pppoe : CStr) : List PppoeProfile :=
  let profiles := (objectsOf maxPppoeProfiles .profiles pppoe).map loadProfile
  if profiles = [] then defaultProfiles else profiles

theorem length_loadProfiles_le (pppoe : CStr) : (loadProfiles pppoe).length ≤ maxPppoeProfiles := by
  simp only [loadProfiles]
  split
  · decide
  · rw [List.length_map]
    exact length_objectsOf_le _ _ pppoe

/-- "Parse Broadband PPPoE Server block"; the interface follows the LAN. -/
def loadPppoeServer (now : UInt64) (lanName json : CStr) : PppoeServerConfig :=
  let interface := if lanName ≠ [] then lanName else "eth0".toList
  match strstr json (quoted Key.pppoeServer) with
  | some pos =>
    { enabled := extractJsonBool pos Key.enabled.text false
      lanMode := textFieldD pos .lanMode 64 16 "dual".toList
      interface := textFieldD pos .interface 64 maxIfnameLen interface
      serviceName := textFieldD pos .serviceName 64 64 "FluxWAN-Broadband".toList
      acName := textFieldD pos .acName 64 64 "FluxWAN-BRAS".toList
      localIp := textFieldD pos .localIp 64 32 "10.100.0.1".toList
      poolStart := textFieldD pos .poolStart 64 32 "10.100.0.2".toList
      poolEnd := textFieldD pos .poolEnd 64 32 "10.100.0.254".toList
      poolCount := extractJsonU32 pos Key.maxSessions.text 250
      dns1 := textFieldD pos .dns1 64 32 "1.1.1.1".toList
      dns2 := textFieldD pos .dns2 64 32 "8.8.8.8".toList
      mru := extractJsonU16 pos Key.mru.text 1492
      mss := extractJsonU16 pos Key.mss.text 1452
      radius := loadRadius pos
      profiles := loadProfiles pos
      users := (objectsOf maxPppoeUsers .users pos).map (loadUser now)
      profiles_le := length_loadProfiles_le pos
      users_le := by rw [List.length_map]; exact length_objectsOf_le _ _ pos }
  | none =>
    { lanMode := "dual".toList
      interface
      serviceName := "FluxWAN-Broadband".toList
      acName := "FluxWAN-BRAS".toList
      localIp := "10.100.0.1".toList
      poolStart := "10.100.0.2".toList
      poolEnd := "10.100.0.254".toList
      poolCount := 250
      dns1 := "1.1.1.1".toList
      dns2 := "8.8.8.8".toList
      mru := 1492
      mss := 1452
      profiles := defaultProfiles
      users := [defaultUser now]
      profiles_le := by decide
      users_le := (by decide : 1 ≤ maxPppoeUsers) }

/-! ## VPN -/

/-- `wireguard_peer_t` without its traffic counters. -/
structure WireguardPeer where
  name : CStr := []
  publicKey : CStr := []
  clientPrivateKey : CStr := []
  presharedKey : CStr := []
  allowedIps : CStr := []
  endpoint : CStr := []
  persistentKeepalive : UInt16 := 0
  enabled : Bool := false
  deriving DecidableEq

def loadPeer (obj : CStr) : WireguardPeer where
  name := textField obj .name 64 64
  publicKey := textField obj .publicKey 64 64
  clientPrivateKey := textField obj .clientPrivateKey 64 64
  presharedKey := textField obj .presharedKey 64 64
  allowedIps := textField obj .allowedIps 128 128
  endpoint := textField obj .endpoint 128 128
  persistentKeepalive := extractJsonU16 obj Key.persistentKeepalive.text 25
  enabled := extractJsonBool obj Key.enabled.text true

theorem zero_le_maxWgPeers : 0 ≤ maxWgPeers := Nat.zero_le _
theorem zero_le_maxZtNetworks : 0 ≤ maxZtNetworks := Nat.zero_le _

/-- `wireguard_config_t`. -/
structure WireguardConfig where
  enabled : Bool := false
  interface : CStr := []
  listenPort : UInt16 := 0
  address : CStr := []
  privateKey : CStr := []
  publicKey : CStr := []
  allowRemoteMgmt : Bool := false
  peers : List WireguardPeer := []
  peers_le : peers.length ≤ maxWgPeers := by first | exact zero_le_maxWgPeers | decide

/-- The objects of an array of a VPN block, cut out by matching braces; the limit counts only those
    that are kept. -/
def bracedOf (key : Key) (text : CStr) : List CStr :=
  (strstr text (quoted key)).elim [] fun pos => bracedAfter pos.length pos

/-- "Parse WireGuard": a peer without a public key is dropped. -/
def loadWireguard (vpn : Option CStr) : WireguardConfig :=
  match (vpn.bind (strstr · (quoted Key.wireguard))).bind objectAfter with
  | some wg =>
    { enabled := extractJsonBool wg Key.enabled.text false
      allowRemoteMgmt := extractJsonBool wg Key.allowRemoteMgmt.text true
      listenPort := extractJsonU16 wg Key.listenPort.text 51820
      interface := textFieldD wg .interface 128 maxIfnameLen "wg0".toList
      address := textFieldD wg .address 128 64 "10.250.0.1/24".toList
      privateKey := textField wg .privateKey 128 64
      publicKey := textField wg .publicKey 128 64
      peers := (((bracedOf .peers wg).map loadPeer).filter (·.publicKey ≠ [])).take maxWgPeers
      peers_le := List.length_take_le _ _ }
  | none =>
    { interface := "wg0".toList, listenPort := 51820, address := "10.250.0.1/24".toList
      allowRemoteMgmt := true }

/-- `zerotier_network_t` without its run-time status. -/
structure ZerotierNetwork where
  nwid : CStr := []
  name : CStr := []
  enabled : Bool := false
  deriving DecidableEq

def loadNetwork (obj : CStr) : ZerotierNetwork where
  nwid := textField obj .nwid 32 32
  name := textField obj .name 64 64
  enabled := extractJsonBool obj Key.enabled.text true

/-- `zerotier_config_t`. -/
structure ZerotierConfig where
  enabled : Bool := false
  nodeId : CStr := []
  allowRemoteMgmt : Bool := false
  networks : List ZerotierNetwork := []
  networks_le : networks.length ≤ maxZtNetworks := by first | exact zero_le_maxZtNetworks | decide

/-- "Parse ZeroTier": a network without an id is dropped. -/
def loadZerotier (vpn : Option CStr) : ZerotierConfig :=
  match (vpn.bind (strstr · (quoted Key.zerotier))).bind objectAfter with
  | some zt =>
    { enabled := extractJsonBool zt Key.enabled.text false
      allowRemoteMgmt := extractJsonBool zt Key.allowRemoteMgmt.text true
      nodeId := textField zt .nodeId 64 32
      networks := (((bracedOf .networks zt).map loadNetwork).filter (·.nwid ≠ [])).take maxZtNetworks
      networks_le := List.length_take_le _ _ }
  | none => { allowRemoteMgmt := true }

/-- `tailscale_config_t` without its run-time status. -/
structure TailscaleConfig where
  enabled : Bool := false
  authKey : CStr := []
  hostname : CStr := []
  loginServer : CStr := []
  advertiseRoutes : CStr := []
  acceptRoutes : Bool := false
  isExitNode : Bool := false
  allowRemoteMgmt : Bool := false
  deriving DecidableEq

def loadTailscale (vpn : Option CStr) : TailscaleConfig :=
  match (vpn.bind (strstr · (quoted Key.tailscale))).bind objectAfter with
  | some ts =>
    { enabled := extractJsonBool ts Key.enabled.text false
      allowRemoteMgmt := extractJsonBool ts Key.allowRemoteMgmt.text true
      acceptRoutes := extractJsonBool ts Key.acceptRoutes.text false
      isExitNode := extractJsonBool ts Key.isExitNode.text false
      authKey := textField ts .authKey 128 128
      hostname := textFieldD ts .hostname 128 64 "FluxWAN".toList
      loginServer := textField ts .loginServer 128 128
      advertiseRoutes := textField ts .advertiseRoutes 128 128 }
  | none => { hostname := "FluxWAN".toList, allowRemoteMgmt := true }

/-- `vpn_config_t`. -/
structure VpnConfig where
  wireguard : WireguardConfig := {}
  zerotier : ZerotierConfig := {}
  tailscale : TailscaleConfig := {}

/-- "Parse VPN Configuration". -/
def loadVpn (json : CStr) : VpnConfig :=
  let vpn := (strstr json (quoted Key.vpn)).bind objectAfter
  { wireguard := loadWireguard vpn, zerotier := loadZerotier vpn, tailscale := loadTailscale vpn }

/-! ## Address lists -/

/-- `addr_entry_type_t`. -/
inductive AddrEntryType where
  | ip
  | domain
  deriving DecidableEq

/-- `address_list_entry_t` without the resolver's result. -/
structure AddressListEntry where
  value : CStr := []
  type : AddrEntryType := .ip
  deriving DecidableEq

/-- An entry with a letter in it is a domain. -/
def addressEntry (value : CStr) : AddressListEntry where
  value
  type := if value.any Char.isAlpha then .domain else .ip

theorem zero_le_maxEntriesPerList : 0 ≤ maxEntriesPerList := Nat.zero_le _
theorem zero_le_maxAddressLists : 0 ≤ maxAddressLists := Nat.zero_le _

/-- `address_list_t`. -/
structure AddressList where
  name : CStr := []
  description : CStr := []
  targetType : CStr := []
  targetId : UInt32 := 0
  targetName : CStr := []
  enabled : Bool := false
  entries : List AddressListEntry := []
  entries_le : entries.length ≤ maxEntriesPerList := by
    first | exact zero_le_maxEntriesPerList | decide

/-- The quoted texts of the `"entries"` array, empty ones left out. -/
def loadEntries (obj : CStr) : List AddressListEntry :=
  match (strstr obj (quoted Key.entries)).bind arrayFrom with
  | none => []
  | some (eStart, eEnd) =>
    (((quotedNames 128 eStart.length eStart eEnd).filter (· ≠ [])).map addressEntry).take
      maxEntriesPerList

theorem length_loadEntries_le : (loadEntries obj).length ≤ maxEntriesPerList := by
  unfold loadEntries
  split
  · exact Nat.zero_le _
  · exact List.length_take_le _ _

/-- One object of the `"address_lists"` array, target not yet resolved. -/
def loadAddressList (obj : CStr) : AddressList where
  enabled := extractJsonBool obj Key.enabled.text true
  targetId := extractJsonU32 obj Key.targetId.text 0
  name := textField obj .name 128 64
  description := textField obj .description 128 128
  targetType := textFieldD obj .targetType 128 16 "group".toList
  targetName := textField obj .targetName 128 64
  entries := loadEntries obj
  entries_le := length_loadEntries_le

/-- The list's target is this WAN, by id or by name. -/
def AddressList.targetsWan (al : AddressList) (w : WanConfig) : Bool :=
  al.targetId = w.id || (al.targetName ≠ [] && w.isNamed al.targetName)

/-- The list's target is this group. -/
def AddressList.targetsGroup (al : AddressList) (g : WanGroup) : Bool :=
  al.targetId = g.id || (al.targetName ≠ [] && al.targetName = g.name)

/-- The WAN or group a list is bound to, by id and label. -/
def AddressList.target (wans : List WanConfig) (groups : List WanGroup) (al : AddressList) :
    Option (UInt32 × CStr) :=
  if al.targetType = "wan".toList then (wans.find? al.targetsWan).map fun w => (w.id, w.label)
  else (groups.find? al.targetsGroup).map fun g => (g.id, g.name)

/-- "Resolve Address List Targets". -/
def resolveTarget (wans : List WanConfig) (groups : List WanGroup) (al : AddressList) : AddressList :=
  match al.target wans groups with
  | some (id, name) => { al with targetId := id, targetName := copyInto 64 name }
  | none => al

def loadAddressLists (json : CStr) (wans : List WanConfig) (groups : List WanGroup) : List AddressList :=
  ((strstr json (quoted Key.addressLists)).elim [] (bracedAfter maxAddressLists)).map fun obj =>
    resolveTarget wans groups (loadAddressList obj)

theorem length_loadAddressLists_le (wans : List WanConfig) (groups : List WanGroup) :
    (loadAddressLists json wans groups).length ≤ maxAddressLists := by
  rw [loadAddressLists, List.length_map]
  cases strstr json (quoted Key.addressLists) with
  | none => exact Nat.zero_le _
  | some pos => exact length_bracedAfter_le _ pos

/-! ## The whole record -/

/-- `fluxwan_config_t`: the part the steering code reads, and the blocks of the services. -/
structure FluxwanConfig where
  core : Config := {}
  sticky : StickyConfig := {}
  appSteering : AppSteering := {}
  telegram : TelegramConfig := {}
  web : WebConfig := {}
  nat46 : Nat46Config := {}
  dpi : DpiConfig := {}
  stealth : StealthConfig := {}
  pppoeServer : PppoeServerConfig := {}
  vpn : VpnConfig := {}
  addressLists : List AddressList := []
  addressLists_le : addressLists.length ≤ maxAddressLists := by
    first | exact zero_le_maxAddressLists | decide

/-- `config_load`, at time `now`. -/
def configLoadAll (now : UInt64) (file : List Char) : Option FluxwanConfig :=
  (configLoad file).map fun core =>
    let json := cstr file
    { core
      sticky := loadSticky json
      appSteering := loadAppSteering json
      telegram := loadTelegram json
      web := loadWeb json
      nat46 := loadNat46 json
      dpi := loadDpi json
      stealth := loadStealth json
      pppoeServer := loadPppoeServer now core.lan.name json
      vpn := loadVpn json
      addressLists := loadAddressLists json core.wans core.groups
      addressLists_le := length_loadAddressLists_le core.wans core.groups }

end FluxWAN
