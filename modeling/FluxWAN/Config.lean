/-
  The shared configuration record (`include/fluxwan.h`).

  One `fluxwan_config_t` is shared by every module of the daemon: the prober writes link states into
  it, the WAN manager rebuilds weights and rings in it, the web server and the loader replace it.  The
  model keeps the fields those modules read or write.  The C arrays with their counters are lists; the
  bound that the array sizes impose on the counters is a FIELD of the record (`wans_le`, `groups_le`,
  …), so a configuration with more WANs than `wans[MAX_WANS]` can hold cannot be built.

  Addresses are in network byte order, loaded as on the little-endian targets of the project.
-/
import FluxWAN.Lib.CFloat

namespace FluxWAN

open CString

/-! ## Dimensions -/

abbrev maxWans : Nat := 256
abbrev maxWanGroups : Nat := 8
abbrev maxGroupMembers : Nat := 64
abbrev maxPolicyRoutes : Nat := 16
abbrev maxStaticLeases : Nat := 64
abbrev maxRateLimits : Nat := 32
abbrev probeWindowSize : Nat := 32
abbrev maglevRingSize : Nat := 65537
abbrev maxIfnameLen : Nat := 32
abbrev maxLabelLen : Nat := 64

/-! ## WAN uplinks -/

/-- `wan_state_t`. -/
inductive WanState where
  | down
  | degraded
  | healthy
  | draining
  deriving DecidableEq, Repr

/-- `wan_type_t`. -/
inductive WanType where
  | static
  | dhcp
  | pppoe
  | wifi
  deriving DecidableEq, Repr

/-- `wan_metrics_t`. -/
structure WanMetrics where
  rttMs : UInt32 := 0
  jitterMs : UInt32 := 0
  packetLossPct : CFloat := .fin 0 0
  rxBytes : UInt64 := 0
  txBytes : UInt64 := 0
  rxPackets : UInt64 := 0
  txPackets : UInt64 := 0
  lastProbeTime : UInt64 := 0
  deriving DecidableEq, Repr

/-- `proxy_proto_t`. -/
inductive ProxyProto where
  | none
  | vless
  | vmess
  | trojan
  | shadowsocks
  deriving DecidableEq, Repr

/-- `proxy_balancer_strategy_t`; `other` are the values that have no name but fit the variable. -/
inductive ProxyStrategy where
  | failover
  | roundRobin
  | leastLoad
  | other (value : Int)
  deriving DecidableEq, Repr

namespace ProxyStrategy

/-- The cast of an `int`. -/
def ofInt (z : Int) : ProxyStrategy :=
  if z = 0 then .failover else if z = 1 then .roundRobin else if z = 2 then .leastLoad else .other z

def toInt : ProxyStrategy → Int
  | failover => 0
  | roundRobin => 1
  | leastLoad => 2
  | other z => z

end ProxyStrategy

/-- The fields `proxy_endpoint_t` and the head of `wan_proxy_config_t` have in common. -/
structure ProxyServer where
  proto : ProxyProto := .none
  protoStr : CStr := []
  server : CStr := []
  port : UInt16 := 0
  uuid : CStr := []
  sni : CStr := []
  host : CStr := []
  path : CStr := []
  transport : CStr := []
  security : CStr := []
  encryption : CStr := []
  rawUri : CStr := []
  deriving DecidableEq, Repr

/-- `proxy_endpoint_t` without its connection counters. -/
structure ProxyEndpoint where
  fields : ProxyServer := {}
  weight : UInt32 := 0
  deriving DecidableEq, Repr

/-- `wan_proxy_config_t` without the process it runs in.  Its `enabled` is `WanConfig.proxyEnabled`,
    `servers[MAX_PROXY_SERVERS]` are three fields. -/
structure ProxyConfig where
  strategy : ProxyStrategy := .failover
  primary : ProxyServer := {}
  servers0 : ProxyEndpoint := {}
  servers1 : ProxyEndpoint := {}
  servers2 : ProxyEndpoint := {}
  serverCount : UInt32 := 0
  tunDev : CStr := []
  bindInterface : CStr := []
  deriving DecidableEq, Repr

/-- `wan_config_t`: identity, addressing, credentials, weighting, health, probing and tunnel. -/
structure WanConfig where
  id : UInt32 := 0
  name : CStr := []
  label : CStr := []
  type : WanType := .static
  ipAddr : UInt32 := 0
  netmask : UInt32 := 0
  gateway : UInt32 := 0
  tableId : UInt32 := 0
  configWeight : UInt32 := 0
  dynamicWeight : UInt32 := 0
  bandwidthDownMbps : UInt32 := 0
  state : WanState := .down
  enabled : Bool := false
  probeTarget : CStr := []
  probeTargetIp : UInt32 := 0
  metrics : WanMetrics := {}
  mtu : UInt32 := 0
  proxyEnabled : Bool := false
  customMac : CStr := []
  pppUsername : CStr := []
  pppPassword : CStr := []
  mssClamping : UInt16 := 0
  wifiSsid : CStr := []
  wifiPassword : CStr := []
  wifiSecurity : CStr := []
  bandwidthUpMbps : UInt32 := 0
  linkMtu : UInt16 := 0
  proxy : ProxyConfig := {}
  deriving DecidableEq, Repr

namespace WanConfig

/-- The part of the eligibility test that does not look at the weight: enabled, neither DOWN nor
    DRAINING. -/
def isUsable (w : WanConfig) : Bool :=
  w.enabled && w.state ≠ .down && w.state ≠ .draining

/-- A WAN that may receive new flows: usable, with a positive weight. -/
def isActive (w : WanConfig) : Bool :=
  w.isUsable && 0 < w.dynamicWeight

theorem isUsable_iff (w : WanConfig) :
    w.isUsable = true ↔ w.enabled = true ∧ w.state ≠ .down ∧ w.state ≠ .draining := by
  simp [isUsable, and_assoc]

theorem isActive_iff (w : WanConfig) :
    w.isActive = true ↔ w.isUsable = true ∧ 0 < w.dynamicWeight := by
  simp [isActive]

end WanConfig

/-! ## WAN groups and LAN policy routes -/

/-- A Maglev lookup table: slot ↦ WAN index. -/
abbrev MaglevRing := Vector UInt32 maglevRingSize

/-- `wan_group_t`.  `wanCount` counts the NAMES of the group; `wanMemberIndices` is the raw array of
    `MAX_GROUP_MEMBERS` resolved indices, of which `activeWanCount` were written. -/
structure WanGroup where
  id : UInt32 := 0
  name : CStr := []
  description : CStr := []
  wanNames : List CStr := []
  wanMemberIndices : Vector UInt32 maxGroupMembers := Vector.replicate _ 0
  wanCount : Nat := 0
  activeWanCount : Nat := 0
  maglevRing : MaglevRing := Vector.replicate _ 0
  enabled : Bool := false
  wanCount_le : wanCount ≤ maxGroupMembers := by decide

namespace WanGroup

/-- The index list a ring of the group is built from: the first `wan_count` array entries. -/
def memberIndices (g : WanGroup) : List UInt32 := g.wanMemberIndices.toList.take g.wanCount

theorem length_memberIndices (g : WanGroup) : g.memberIndices.length = g.wanCount := by
  have := g.wanCount_le
  simp [memberIndices, this]

end WanGroup

/-- `policy_route_t`: a LAN subnet bound to a WAN group. -/
structure PolicyRoute where
  subnetIp : UInt32 := 0
  netmask : UInt32 := 0
  prefixLen : UInt32 := 0
  targetGroup : CStr := []
  targetGroupId : UInt32 := 0
  enabled : Bool := false
  subnetStr : CStr := []
  gatewayIpStr : CStr := []
  gatewayIp : UInt32 := 0
  description : CStr := []
  deriving DecidableEq, Repr

/-! ## The LAN -/

/-- A hardware address. -/
abbrev Mac := Vector UInt8 6

/-- `static_lease_t`. -/
structure StaticLease where
  macStr : CStr := []
  macAddr : Mac := Vector.replicate 6 0
  ipAddr : UInt32 := 0
  hostname : CStr := []
  enabled : Bool := false
  deriving DecidableEq, Repr

/-- `rate_limit_t`. -/
structure RateLimit where
  ipStr : CStr := []
  ipAddr : UInt32 := 0
  maxDownMbps : UInt32 := 0
  maxUpMbps : UInt32 := 0
  description : CStr := []
  enabled : Bool := false
  deriving DecidableEq, Repr

/-- `qos_config_t`. -/
structure QosConfig where
  enabled : Bool := false
  algorithm : CStr := []
  bandwidthDownMbps : UInt32 := 0
  bandwidthUpMbps : UInt32 := 0
  diffserv4 : Bool := false
  deriving DecidableEq, Repr

/-- `dns_features_t`. -/
structure DnsFeatures where
  adblockEnabled : Bool := false
  fastDnsEnabled : Bool := false
  primaryDns : CStr := []
  secondaryDns : CStr := []
  smartIpv6Bonding : Bool := false
  deriving DecidableEq, Repr

theorem zero_le_maxStaticLeases : 0 ≤ maxStaticLeases := Nat.zero_le _
theorem zero_le_maxRateLimits : 0 ≤ maxRateLimits := Nat.zero_le _

/-- `lan_config_t` without the address and the policy routes, which `Config` has as fields of its own. -/
structure LanConfig where
  name : CStr := []
  netmask : UInt32 := 0
  dhcpEnabled : Bool := false
  dhcpStart : UInt32 := 0
  dhcpEnd : UInt32 := 0
  dhcpLeaseTime : UInt32 := 0
  staticLeases : List StaticLease := []
  rateLimits : List RateLimit := []
  qos : QosConfig := {}
  dns : DnsFeatures := {}
  staticLeases_le : staticLeases.length ≤ maxStaticLeases := by
    first | exact zero_le_maxStaticLeases | decide
  rateLimits_le : rateLimits.length ≤ maxRateLimits := by
    first | exact zero_le_maxRateLimits | decide
  deriving DecidableEq, Repr

/-! ## The other blocks the modelled code reads -/

/-- `prober_config_t`. -/
structure ProberConfig where
  intervalMs : UInt32 := 0
  timeoutMs : UInt32 := 0
  lossWindow : UInt32 := 0
  maxAcceptableRttMs : UInt32 := 0
  maxAcceptableLossPct : CFloat := .fin 0 0
  dynamicLatencySteering : Bool := false
  deriving DecidableEq, Repr

/-- `auth_config_t`. -/
structure AuthConfig where
  enabled : Bool := false
  username : CStr := []
  password : CStr := []
  sessionToken : CStr := []
  deriving DecidableEq, Repr

theorem zero_le_maxWans : 0 ≤ maxWans := Nat.zero_le _
theorem zero_le_maxWanGroups : 0 ≤ maxWanGroups := Nat.zero_le _
theorem zero_le_maxPolicyRoutes : 0 ≤ maxPolicyRoutes := Nat.zero_le _

/-- `fluxwan_config_t`. -/
@[ext] structure Config where
  lan : LanConfig := {}
  lanIpAddr : UInt32 := 0
  policyRoutes : List PolicyRoute := []
  wans : List WanConfig := []
  groups : List WanGroup := []
  prober : ProberConfig := {}
  auth : AuthConfig := {}
  wans_le : wans.length ≤ maxWans := by first | exact zero_le_maxWans | decide
  groups_le : groups.length ≤ maxWanGroups := by first | exact zero_le_maxWanGroups | decide
  policyRoutes_le : policyRoutes.length ≤ maxPolicyRoutes := by
    first | exact zero_le_maxPolicyRoutes | decide

namespace Config

/-- Rewrite every WAN in place; the number of WANs stays. -/
def mapWans (c : Config) (f : WanConfig → WanConfig) : Config :=
  { c with wans := c.wans.map f, wans_le := by simpa using c.wans_le }

/-- Rewrite WAN `i` in place. -/
def modifyWan (c : Config) (i : Nat) (f : WanConfig → WanConfig) : Config :=
  { c with wans := c.wans.modify i f, wans_le := by simpa using c.wans_le }

@[simp] theorem mapWans_wans (c : Config) (f) : (c.mapWans f).wans = c.wans.map f := rfl
@[simp] theorem modifyWan_wans (c : Config) (i f) :
    (c.modifyWan i f).wans = c.wans.modify i f := rfl

theorem getElem?_modifyWan (c : Config) (i j : Nat) (f) :
    (c.modifyWan i f).wans[j]? = if i = j then (c.wans[j]?).map f else c.wans[j]? := by
  rw [modifyWan_wans, List.getElem?_modify]
  by_cases hij : i = j <;> simp [hij]

/-- Two rewrites of the same WAN that agree on its record are the same. -/
theorem modifyWan_congr {c : Config}
    (h : ∀ w, c.wans[i]? = some w → f w = g w) : c.modifyWan i f = c.modifyWan i g := by
  have hwans : (c.modifyWan i f).wans = (c.modifyWan i g).wans := by
    refine List.ext_getElem? fun j => ?_
    rw [getElem?_modifyWan, getElem?_modifyWan]
    by_cases hij : i = j
    · subst hij
      cases hget : c.wans[i]? with
      | none => rfl
      | some w => rw [if_pos rfl, if_pos rfl, Option.map_some, Option.map_some, h w hget]
    · rw [if_neg hij, if_neg hij]
  exact Config.ext rfl rfl rfl hwans rfl rfl rfl

/-- Rewriting a WAN to itself is no change. -/
theorem modifyWan_of_fixed {c : Config} (h : ∀ w, c.wans[i]? = some w → f w = w) : c.modifyWan i f = c := by
  rw [modifyWan_congr (g := id) h]
  exact Config.ext rfl rfl rfl (List.modify_id i c.wans) rfl rfl rfl

theorem modifyWan_modifyWan (c : Config) (i : Nat) (f g) :
    (c.modifyWan i f).modifyWan i g = c.modifyWan i (g ∘ f) :=
  Config.ext rfl rfl rfl (List.modify_modify_eq f g i c.wans) rfl rfl rfl

/-- A WAN index survives the trip through `uint32_t`: there are at most 256 WANs. -/
theorem toNat_ofNat_of_lt (c : Config) (hi : i < c.wans.length) : (UInt32.ofNat i).toNat = i := by
  have h : c.wans.length ≤ 256 := c.wans_le
  exact UInt32.toNat_ofNat_of_lt' (show i < 4294967296 by omega)

end Config

/-! ## Addresses -/

/-- `str_to_ip`: dotted quad to network byte order, 0 for anything `inet_pton` rejects. -/
def strToIp (s : CStr) : UInt32 :=
  match inetPton4 s [] none with
  | some [a, b, c, d] => UInt32.ofNat (a + b * 2 ^ 8 + c * 2 ^ 16 + d * 2 ^ 24)
  | _ => 0

/-- `ip_to_str`: `inet_ntop` of an address in network byte order. -/
def ipToStr (ip : UInt32) : CStr :=
  List.intercalate ['.'] ([ip, ip >>> 8, ip >>> 16, ip >>> 24].map fun x => showNat x.toUInt8.toNat)

/-- `htonl` / `ntohl` on a little-endian host. -/
def htonl (x : UInt32) : UInt32 :=
  (x <<< 24) ||| ((x &&& (0xff00 : UInt32)) <<< 8) ||| ((x >>> 8) &&& (0xff00 : UInt32)) ||| (x >>> 24)

end FluxWAN
