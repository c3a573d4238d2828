/-
  Writing the configuration file (`src/config.c`: `config_save`).

  The file is built as a list of tokens (`Lib.QuotedText`); `render` is the text that `fprintf` puts out.
  One `line` is one `fprintf` of a setting.  Values are written as they are: there is NO escaping.

  What the writer does NOT write is as important as what it does: `mtu`, `mss_clamping` and `state` of a
  WAN, everything about a tunnel that is not in use, the wireless password of a WAN that has no SSID.
  Empty texts and zero numbers are often written as their default.
-/
import FluxWAN.ConfigServices

namespace FluxWAN

open CString QuotedText

/-! ## Lines, blocks and arrays -/

def indent (n : Nat) : CStr := List.replicate n ' '

/-- A setting with more to come. -/
def line (ind : Nat) (k : Key) (v : Value) : List (Tok Key) :=
  [.raw (indent ind), .key k, .val v [',', '\n']]

/-- The last setting of a block. -/
def lastLine (ind : Nat) (k : Key) (v : Value) : List (Tok Key) :=
  [.raw (indent ind), .key k, .val v ['\n']]

/-- `"key": {`. -/
def openBlock (ind : Nat) (k : Key) : List (Tok Key) := [.raw (indent ind), .key k, .raw ['\x7b', '\n']]

/-- `},`. -/
def closeBlock (ind : Nat) : List (Tok Key) := [.raw (indent ind ++ ['\x7d', ',', '\n'])]

/-- `}` at the end of the enclosing block. -/
def closeLast (ind : Nat) : List (Tok Key) := [.raw (indent ind ++ ['\x7d', '\n'])]

/-- The objects of an array, one after the other; the last has no comma. -/
def objects (ind : Nat) : List (List (Tok Key)) → List (Tok Key)
  | [] => []
  | [o] => .raw (indent ind ++ ['\x7b', '\n']) :: o ++ closeLast ind
  | o :: o' :: os => .raw (indent ind ++ ['\x7b', '\n']) :: o ++ closeBlock ind ++ objects ind (o' :: os)

/-- An array of objects; `stop` is what follows its bracket. -/
def objectArray (ind : Nat) (k : Key) (objs : List (List (Tok Key))) (stop : CStr) : List (Tok Key) :=
  [.raw (indent ind), .key k, .raw ['[', '\n']] ++ objects (ind + 2) objs ++ [.raw (indent ind ++ ']' :: stop)]

/-- An array of the LAN block, left out if it is empty. -/
def optArray (k : Key) (objs : List (List (Tok Key))) : List (Tok Key) :=
  if objs = [] then [] else objectArray 4 k objs [',', '\n']

/-- The arrays of WANs and groups, on one line if they are empty. -/
def topArray (k : Key) (objs : List (List (Tok Key))) : List (Tok Key) :=
  if objs = [] then [.raw (indent 2), .key k, .raw ['[', ']', ',', '\n']]
  else objectArray 2 k objs [',', '\n']

/-- A text, or its default if it is empty. -/
def orText (s dflt : CStr) : CStr := if s ≠ [] then s else dflt

theorem orText_of_ne (hs : s ≠ []) : orText s dflt = s := if_pos hs

theorem length_orText_lt {s dflt : CStr} (hs : s.length < n) (hd : dflt.length < n) : (orText s dflt).length < n := by
  unfold orText
  split
  · exact hs
  · exact hd

/-- A number, or its default if it is zero. -/
def orNum {α : Type} [OfNat α 0] [DecidableEq α] (x dflt : α) : α := if x ≠ 0 then x else dflt

/-- An address of the LAN, or its default if it is zero. -/
def orIp (ip : UInt32) (dflt : CStr) : CStr := ipToStr (orNum ip (strToIp dflt))

/-! ## LAN -/

def routeToks (pr : PolicyRoute) : List (Tok Key) :=
  line 8 .subnet (.str pr.subnetStr) ++ line 8 .gatewayIp (.str pr.gatewayIpStr) ++
  line 8 .targetGroup (.str pr.targetGroup) ++ line 8 .description (.str pr.description) ++
  lastLine 8 .enabled (.flag pr.enabled)

def leaseToks (sl : StaticLease) : List (Tok Key) :=
  line 8 .mac (.str sl.macStr) ++ line 8 .ip (.str (ipToStr sl.ipAddr)) ++
  line 8 .hostname (.str sl.hostname) ++ lastLine 8 .enabled (.flag sl.enabled)

def limitToks (rl : RateLimit) : List (Tok Key) :=
  line 8 .ip (.str rl.ipStr) ++ line 8 .maxDownMbps (.num rl.maxDownMbps.toNat) ++
  line 8 .maxUpMbps (.num rl.maxUpMbps.toNat) ++ line 8 .description (.str rl.description) ++
  lastLine 8 .enabled (.flag rl.enabled)

def qosToks (q : QosConfig) : List (Tok Key) :=
  openBlock 4 .qos ++ line 6 .enabled (.flag q.enabled) ++
  line 6 .algorithm (.str (orText q.algorithm "cake".toList)) ++
  line 6 .bandwidthDownMbps (.num q.bandwidthDownMbps.toNat) ++
  line 6 .bandwidthUpMbps (.num q.bandwidthUpMbps.toNat) ++ lastLine 6 .diffserv4 (.flag q.diffserv4) ++ closeBlock 4

def dnsToks (d : DnsFeatures) : List (Tok Key) :=
  openBlock 4 .dns ++ line 6 .adblockEnabled (.flag d.adblockEnabled) ++
  line 6 .fastDnsEnabled (.flag d.fastDnsEnabled) ++ line 6 .smartIpv6Bonding (.flag d.smartIpv6Bonding) ++
  line 6 .primaryDns (.str (orText d.primaryDns "1.1.1.1".toList)) ++
  lastLine 6 .secondaryDns (.str (orText d.secondaryDns "8.8.8.8".toList)) ++ closeLast 4

def lanLines (c : Config) : List (Tok Key) :=
  line 4 .interface (.str (orText c.lan.name "eth0".toList)) ++
  line 4 .ip (.str (orIp c.lanIpAddr "192.168.90.1".toList)) ++
  line 4 .netmask (.str (orIp c.lan.netmask "255.255.255.0".toList)) ++ line 4 .dhcpEnabled (.flag c.lan.dhcpEnabled) ++
  line 4 .dhcpStart (.str (orIp c.lan.dhcpStart "192.168.90.100".toList)) ++
  line 4 .dhcpEnd (.str (orIp c.lan.dhcpEnd "192.168.90.200".toList)) ++
  line 4 .dhcpLeaseTime (.num c.lan.dhcpLeaseTime.toNat)

def lanToks (c : Config) : List (Tok Key) :=
  openBlock 2 .lan ++ lanLines c ++ optArray .policyRoutes (c.policyRoutes.map routeToks) ++
  optArray .staticLeases (c.lan.staticLeases.map leaseToks) ++
  optArray .rateLimits (c.lan.rateLimits.map limitToks) ++ qosToks c.lan.qos ++ dnsToks c.lan.dns ++ closeBlock 2

/-! ## Groups and WANs -/

/-- The names of a group, with the bracket that ends them. -/
def nameToks : List CStr → List (Tok Key)
  | [] => [.raw [']', ',', '\n']]
  | [x] => [.val (.str x) [']', ',', '\n']]
  | x :: y :: xs => .val (.str x) [',', ' '] :: nameToks (y :: xs)

def groupToks (g : WanGroup) : List (Tok Key) :=
  line 6 .id (.num g.id.toNat) ++ line 6 .name (.str g.name) ++ line 6 .description (.str g.description) ++
  [.raw (indent 6), .key .wans, .raw ['[']] ++ nameToks (g.wanNames.take g.wanCount) ++
  lastLine 6 .enabled (.flag g.enabled)

def WanType.text : WanType → CStr
  | static => "static".toList
  | dhcp => "dhcp".toList
  | pppoe => "pppoe".toList
  | wifi => "wifi".toList

def ProxyStrategy.text : ProxyStrategy → CStr
  | leastLoad => "leastLoad".toList
  | roundRobin => "roundRobin".toList
  | _ => "leastPing".toList

/-- The tunnel is worth writing. -/
def WanConfig.hasProxy (w : WanConfig) : Bool :=
  w.proxyEnabled || w.proxy.primary.server ≠ [] || 0 < w.proxy.serverCount || w.proxy.primary.rawUri ≠ []

def proxyToks (p : ProxyConfig) : List (Tok Key) :=
  line 6 .proxyProto (.str (orText p.primary.protoStr "vless".toList)) ++ line 6 .proxyServer (.str p.primary.server) ++
  line 6 .proxyPort (.num (orNum p.primary.port 443).toNat) ++ line 6 .proxyUuid (.str p.primary.uuid) ++
  line 6 .proxySni (.str p.primary.sni) ++ line 6 .proxyHost (.str p.primary.host) ++
  line 6 .proxyPath (.str p.primary.path) ++ line 6 .proxyTransport (.str (orText p.primary.transport "ws".toList)) ++
  line 6 .proxySecurity (.str (orText p.primary.security "tls".toList)) ++
  (if p.primary.encryption ≠ [] then line 6 .proxyEncryption (.str p.primary.encryption) else []) ++
  line 6 .proxyStrategy (.int p.strategy.toInt) ++ line 6 .proxyStrategyStr (.str p.strategy.text) ++
  line 6 .proxyRawUri (.str (orText p.servers0.fields.rawUri p.primary.rawUri)) ++
  line 6 .proxyRawUri2 (.str p.servers1.fields.rawUri) ++
  line 6 .proxyRawUri3 (.str p.servers2.fields.rawUri) ++ lastLine 6 .proxyTunDev (.str p.tunDev)

/-- The credentials of a PPPoE link. -/
def pppToks (w : WanConfig) : List (Tok Key) :=
  if w.type = .pppoe ∨ w.pppUsername ≠ [] ∨ w.pppPassword ≠ [] then
    line 6 .username (.str w.pppUsername) ++ line 6 .password (.str w.pppPassword)
  else []

/-- The network of a wireless link. -/
def wifiToks (w : WanConfig) : List (Tok Key) :=
  if w.type = .wifi ∨ w.wifiSsid ≠ [] then
    line 6 .wifiSsid (.str w.wifiSsid) ++ line 6 .wifiPassword (.str w.wifiPassword) ++
    line 6 .wifiSecurity (.str (orText w.wifiSecurity "WPA2-PSK".toList))
  else []

def macToks (w : WanConfig) : List (Tok Key) :=
  if w.customMac ≠ [] then line 6 .mac (.str w.customMac) else []

def wanToks (w : WanConfig) : List (Tok Key) :=
  line 6 .id (.num w.id.toNat) ++ line 6 .name (.str w.name) ++ line 6 .label (.str w.label) ++
  line 6 .type (.str w.type.text) ++ pppToks w ++ wifiToks w ++ macToks w ++
  line 6 .ip (.str (ipToStr w.ipAddr)) ++ line 6 .netmask (.str (ipToStr w.netmask)) ++
  line 6 .gateway (.str (ipToStr w.gateway)) ++ line 6 .probeTarget (.str (orText w.probeTarget "8.8.8.8".toList)) ++
  line 6 .weight (.num w.configWeight.toNat) ++ line 6 .bandwidthDownMbps (.num w.bandwidthDownMbps.toNat) ++
  line 6 .bandwidthUpMbps (.num w.bandwidthUpMbps.toNat) ++ line 6 .enabled (.flag w.enabled) ++
  line 6 .tableId (.num w.tableId.toNat) ++ line 6 .proxyEnabled (.flag w.proxyEnabled) ++
  (if w.hasProxy then proxyToks w.proxy else lastLine 6 .proxyProto (.str "vless".toList))

/-! ## Flat sections -/

def proberToks (p : ProberConfig) : List (Tok Key) :=
  openBlock 2 .prober ++ line 4 .intervalMs (.num p.intervalMs.toNat) ++
  line 4 .timeoutMs (.num p.timeoutMs.toNat) ++ line 4 .lossWindow (.num p.lossWindow.toNat) ++
  line 4 .maxAcceptableRttMs (.num p.maxAcceptableRttMs.toNat) ++
  line 4 .maxAcceptableLossPct (.dec p.maxAcceptableLossPct) ++
  lastLine 4 .dynamicLatencySteering (.flag p.dynamicLatencySteering) ++ closeBlock 2

def stickyToks (s : StickyConfig) : List (Tok Key) :=
  openBlock 2 .sticky ++ line 4 .enabled (.flag s.enabled) ++ line 4 .timeoutSeconds (.num s.timeoutSeconds.toNat) ++
  lastLine 4 .strictBankingEnabled (.flag s.strictBankingEnabled) ++ closeBlock 2

def appSteeringToks (a : AppSteering) : List (Tok Key) :=
  openBlock 2 .appSteering ++ line 4 .gamingSteeringEnabled (.flag a.gamingSteeringEnabled) ++
  line 4 .voipSteeringEnabled (.flag a.voipSteeringEnabled) ++
  line 4 .bulkBalancingEnabled (.flag a.bulkBalancingEnabled) ++
  line 4 .primaryGamingWanId (.num a.primaryGamingWanId.toNat) ++
  lastLine 4 .primaryVoipWanId (.num a.primaryVoipWanId.toNat) ++ closeBlock 2

def telegramToks (t : TelegramConfig) : List (Tok Key) :=
  openBlock 2 .telegram ++ line 4 .enabled (.flag t.enabled) ++ line 4 .botToken (.str t.botToken) ++
  line 4 .chatId (.str t.chatId) ++ line 4 .notifyOnFailover (.flag t.notifyOnFailover) ++
  lastLine 4 .notifyOnRecovery (.flag t.notifyOnRecovery) ++ closeBlock 2

def webToks (w : WebConfig) : List (Tok Key) :=
  openBlock 2 .web ++ line 4 .bindIp (.str w.bindIp) ++ lastLine 4 .port (.num w.port.toNat) ++ closeBlock 2

def authToks (a : AuthConfig) : List (Tok Key) :=
  openBlock 2 .auth ++ line 4 .enabled (.flag a.enabled) ++ line 4 .username (.str a.username) ++
  line 4 .password (.str a.password) ++ lastLine 4 .sessionToken (.str a.sessionToken) ++ closeBlock 2

def nat46Toks (n : Nat46Config) : List (Tok Key) :=
  openBlock 2 .nat46 ++ line 4 .enabled (.flag n.enabled) ++
  line 4 .syntheticPrefix (.str n.syntheticPrefix) ++ line 4 .upstreamDns (.str n.upstreamDns) ++
  lastLine 4 .starlinkWanName (.str n.starlinkWanName) ++ closeBlock 2

def dpiToks (d : DpiConfig) : List (Tok Key) :=
  openBlock 2 .dpi ++ line 4 .enabled (.flag d.enabled) ++ line 4 .p2pThrottleEnabled (.flag d.p2pThrottleEnabled) ++
  line 4 .p2pThrottleRateKbps (.num d.p2pThrottleRateKbps.toNat) ++
  line 4 .voipPriorityEnabled (.flag d.voipPriorityEnabled) ++
  line 4 .gamingPriorityEnabled (.flag d.gamingPriorityEnabled) ++
  lastLine 4 .streamingBalanceEnabled (.flag d.streamingBalanceEnabled) ++ closeBlock 2

def stealthToks (s : StealthConfig) : List (Tok Key) :=
  openBlock 2 .stealth ++ line 4 .enabled (.flag s.enabled) ++ line 4 .ttlValue (.num (orNum s.ttlValue 65).toNat) ++
  line 4 .cloakTraceroute (.flag s.cloakTraceroute) ++
  lastLine 4 .blockWanProbes (.flag s.blockWanProbes) ++ closeBlock 2

/-! ## PPPoE server -/

def RadiusProto.text : RadiusProto → CStr
  | radsec => "radsec".toList
  | udp => "udp".toList

/-- The port written for 0. -/
def RadiusProto.defaultPort (proto : RadiusProto) (udpPort : UInt16) : UInt16 :=
  if proto = .radsec then 2083 else udpPort

def radiusToks (r : RadiusConfig) : List (Tok Key) :=
  openBlock 4 .radius ++ line 6 .enabled (.flag r.enabled) ++ line 6 .proto (.str r.proto.text) ++
  line 6 .server (.str r.server) ++ line 6 .secret (.str r.secret) ++
  line 6 .authPort (.num (orNum r.authPort (r.proto.defaultPort 1812)).toNat) ++
  line 6 .acctPort (.num (orNum r.acctPort (r.proto.defaultPort 1813)).toNat) ++
  line 6 .coaPort (.num (orNum r.coaPort 3799).toNat) ++
  line 6 .interimInterval (.num (orNum r.interimInterval 300).toNat) ++
  line 6 .nasIdentifier (.str (orText r.nasIdentifier "FluxWAN-BRAS-01".toList)) ++
  line 6 .tlsVerifyCert (.flag r.tlsVerifyCert) ++ line 6 .caCertPath (.str r.caCertPath) ++
  line 6 .clientCertPath (.str r.clientCertPath) ++ line 6 .clientKeyPath (.str r.clientKeyPath) ++
  lastLine 6 .sniHostname (.str r.sniHostname) ++ closeBlock 4

def profileToks (p : PppoeProfile) : List (Tok Key) :=
  line 8 .name (.str p.name) ++ line 8 .rateDownKbps (.num p.rateDownKbps.toNat) ++
  line 8 .rateUpKbps (.num p.rateUpKbps.toNat) ++ line 8 .validityDays (.num p.validityDays.toNat) ++
  lastLine 8 .description (.str p.description)

def userToks (u : PppoeUser) : List (Tok Key) :=
  line 8 .username (.str u.username) ++ line 8 .password (.str u.password) ++
  line 8 .profile (.str u.profile) ++ line 8 .staticIp (.str u.staticIp) ++
  line 8 .comment (.str u.comment) ++ line 8 .createdAt (.num u.createdAt.toNat) ++
  line 8 .expiresAt (.num u.expiresAt.toNat) ++ lastLine 8 .enabled (.flag u.enabled)

def pppoeLines (p : PppoeServerConfig) : List (Tok Key) :=
  line 4 .enabled (.flag p.enabled) ++ line 4 .lanMode (.str (orText p.lanMode "dual".toList)) ++
  line 4 .interface (.str (orText p.interface "eth0".toList)) ++
  line 4 .serviceName (.str (orText p.serviceName "FluxWAN-Broadband".toList)) ++
  line 4 .acName (.str (orText p.acName "FluxWAN-BRAS".toList)) ++
  line 4 .localIp (.str (orText p.localIp "10.100.0.1".toList)) ++
  line 4 .poolStart (.str (orText p.poolStart "10.100.0.2".toList)) ++
  line 4 .poolEnd (.str (orText p.poolEnd "10.100.0.254".toList)) ++
  line 4 .maxSessions (.num (orNum p.poolCount 250).toNat) ++ line 4 .dns1 (.str (orText p.dns1 "1.1.1.1".toList)) ++
  line 4 .dns2 (.str (orText p.dns2 "8.8.8.8".toList)) ++
  line 4 .mru (.num (orNum p.mru 1492).toNat) ++ line 4 .mss (.num (orNum p.mss 1452).toNat)

def pppoeToks (p : PppoeServerConfig) : List (Tok Key) :=
  openBlock 2 .pppoeServer ++ pppoeLines p ++ radiusToks p.radius ++
  objectArray 4 .profiles (p.profiles.map profileToks) [',', '\n'] ++
  objectArray 4 .users (p.users.map userToks) ['\n'] ++ closeBlock 2

/-! ## VPN -/

def peerToks (p : WireguardPeer) : List (Tok Key) :=
  line 10 .name (.str p.name) ++ line 10 .publicKey (.str p.publicKey) ++
  (if p.clientPrivateKey ≠ [] then line 10 .clientPrivateKey (.str p.clientPrivateKey) else []) ++
  line 10 .presharedKey (.str p.presharedKey) ++ line 10 .allowedIps (.str p.allowedIps) ++
  line 10 .endpoint (.str p.endpoint) ++
  line 10 .persistentKeepalive (.num p.persistentKeepalive.toNat) ++ lastLine 10 .enabled (.flag p.enabled)

def wireguardLines (w : WireguardConfig) : List (Tok Key) :=
  line 6 .enabled (.flag w.enabled) ++ line 6 .interface (.str (orText w.interface "wg0".toList)) ++
  line 6 .listenPort (.num (orNum w.listenPort 51820).toNat) ++
  line 6 .address (.str (orText w.address "10.250.0.1/24".toList)) ++
  line 6 .privateKey (.str w.privateKey) ++ line 6 .publicKey (.str w.publicKey) ++
  line 6 .allowRemoteMgmt (.flag w.allowRemoteMgmt) ++ objectArray 6 .peers (w.peers.map peerToks) ['\n']

def networkToks (n : ZerotierNetwork) : List (Tok Key) :=
  line 10 .nwid (.str n.nwid) ++ line 10 .name (.str n.name) ++ lastLine 10 .enabled (.flag n.enabled)

def zerotierLines (z : ZerotierConfig) : List (Tok Key) :=
  line 6 .enabled (.flag z.enabled) ++ line 6 .nodeId (.str z.nodeId) ++
  line 6 .allowRemoteMgmt (.flag z.allowRemoteMgmt) ++ objectArray 6 .networks (z.networks.map networkToks) ['\n']

def tailscaleLines (t : TailscaleConfig) : List (Tok Key) :=
  line 6 .enabled (.flag t.enabled) ++ line 6 .authKey (.str t.authKey) ++
  line 6 .hostname (.str (orText t.hostname "FluxWAN".toList)) ++
  line 6 .loginServer (.str t.loginServer) ++ line 6 .advertiseRoutes (.str t.advertiseRoutes) ++
  line 6 .acceptRoutes (.flag t.acceptRoutes) ++ line 6 .isExitNode (.flag t.isExitNode) ++
  lastLine 6 .allowRemoteMgmt (.flag t.allowRemoteMgmt)

/-- The inside of the VPN block. -/
def vpnLines (v : VpnConfig) : List (Tok Key) :=
  openBlock 4 .wireguard ++ wireguardLines v.wireguard ++ closeBlock 4 ++
  openBlock 4 .zerotier ++ zerotierLines v.zerotier ++ closeBlock 4 ++
  openBlock 4 .tailscale ++ tailscaleLines v.tailscale ++ closeLast 4

/-! ## Address lists -/

/-- The entries of a list, one on a line. -/
def entryToks : List CStr → List (Tok Key)
  | [] => []
  | [x] => [.raw (indent 8), .val (.str x) ['\n']]
  | x :: y :: xs => .raw (indent 8) :: .val (.str x) [',', '\n'] :: entryToks (y :: xs)

def addressListToks (al : AddressList) : List (Tok Key) :=
  line 6 .name (.str al.name) ++ line 6 .description (.str al.description) ++
  line 6 .targetType (.str (orText al.targetType "group".toList)) ++
  line 6 .targetId (.num al.targetId.toNat) ++ line 6 .targetName (.str al.targetName) ++
  line 6 .enabled (.flag al.enabled) ++ [.raw (indent 6), .key .entries, .raw ['[', '\n']] ++
  entryToks (al.entries.map (·.value)) ++ [.raw (indent 6 ++ [']', '\n'])]

/-- The end of the file: the VPN block is the last one if there are no lists. -/
def addressListsToks (lists : List AddressList) : List (Tok Key) :=
  if lists = [] then closeLast 2
  else closeBlock 2 ++ objectArray 2 .addressLists (lists.map addressListToks) ['\n']

/-! ## The whole file -/

/-- The sections between the WANs and the VPN block. -/
def middleToks (c : FluxwanConfig) : List (Tok Key) :=
  proberToks c.core.prober ++ stickyToks c.sticky ++ appSteeringToks c.appSteering ++
  telegramToks c.telegram ++ webToks c.web ++ authToks c.core.auth ++ nat46Toks c.nat46 ++
  dpiToks c.dpi ++ stealthToks c.stealth ++ pppoeToks c.pppoeServer

def configToks (c : FluxwanConfig) : List (Tok Key) :=
  .raw ['\x7b', '\n'] :: lanToks c.core ++ topArray .groups (c.core.groups.map groupToks) ++
  topArray .wans (c.core.wans.map wanToks) ++ middleToks c ++
  openBlock 2 .vpn ++ vpnLines c.vpn ++ addressListsToks c.addressLists ++ [.raw ['\x7d', '\n']]

/-- `config_save`: the bytes of the file. -/
def configSave (c : FluxwanConfig) : List Char := render (configToks c)

end FluxWAN
