/-
  What a save and a load do to the settings.

  A setting is what `config_load` can read.  What is computed from settings (parsed addresses, resolved members,
  the endpoints of a tunnel) or measured is not one, so `settings` blanks it.  `Section.Same` compares the settings
  of one section, `Section.Survives` says when they come back from the file.
-/
import FluxWAN.RoundTrip
import Mathlib.Tactic.Tauto

namespace FluxWAN

open CString QuotedText

variable {α β : Type} {ws : List WanConfig} {post : Nat → WanConfig → WanConfig}

/-! ## The settings of the records -/

def PolicyRoute.settings (pr : PolicyRoute) : PolicyRoute :=
  { pr with subnetIp := 0, netmask := 0, prefixLen := 0, gatewayIp := 0, targetGroupId := 0 }

def StaticLease.settings (sl : StaticLease) : StaticLease := { sl with macAddr := Vector.replicate 6 0 }

def RateLimit.settings (rl : RateLimit) : RateLimit := { rl with ipAddr := 0 }

/-- The servers of a tunnel are given by their links, the rest is parsed from them. -/
def ProxyConfig.settings (p : ProxyConfig) : ProxyConfig where
  strategy := p.strategy
  primary := { p.primary with proto := .none }
  servers0 := { fields := { rawUri := p.servers0.fields.rawUri } }
  servers1 := { fields := { rawUri := p.servers1.fields.rawUri } }
  servers2 := { fields := { rawUri := p.servers2.fields.rawUri } }
  tunDev := p.tunDev

def WanConfig.settings (w : WanConfig) : WanConfig :=
  { w with dynamicWeight := 0, probeTargetIp := 0, metrics := {}, linkMtu := 0, proxy := w.proxy.settings }

/-! ## Sections -/

/-- The top-level sections of the file. -/
inductive Section where
  | lan | groups | wans | prober | sticky | appSteering | telegram | web | auth | nat46 | dpi | stealth
  | pppoeServer | vpn | addressLists
  deriving DecidableEq

namespace Section

def key : Section → Key
  | lan => .lan
  | groups => .groups
  | wans => .wans
  | prober => .prober
  | sticky => .sticky
  | appSteering => .appSteering
  | telegram => .telegram
  | web => .web
  | auth => .auth
  | nat46 => .nat46
  | dpi => .dpi
  | stealth => .stealth
  | pppoeServer => .pppoeServer
  | vpn => .vpn
  | addressLists => .addressLists

end Section

/-- Two LANs with the same settings. -/
@[mk_iff]
structure SameLan (c c' : Config) : Prop where
  name : c.lan.name = c'.lan.name
  ip : c.lanIpAddr = c'.lanIpAddr
  netmask : c.lan.netmask = c'.lan.netmask
  dhcpEnabled : c.lan.dhcpEnabled = c'.lan.dhcpEnabled
  dhcpStart : c.lan.dhcpStart = c'.lan.dhcpStart
  dhcpEnd : c.lan.dhcpEnd = c'.lan.dhcpEnd
  dhcpLeaseTime : c.lan.dhcpLeaseTime = c'.lan.dhcpLeaseTime
  qos : c.lan.qos = c'.lan.qos
  dns : c.lan.dns = c'.lan.dns
  policyRoutes : c.policyRoutes.map PolicyRoute.settings = c'.policyRoutes.map PolicyRoute.settings
  staticLeases : c.lan.staticLeases.map StaticLease.settings = c'.lan.staticLeases.map StaticLease.settings
  rateLimits : c.lan.rateLimits.map RateLimit.settings = c'.lan.rateLimits.map RateLimit.settings

/-- Two address lists with the same settings. -/
@[mk_iff]
structure SameList (al al' : AddressList) : Prop where
  name : al.name = al'.name
  description : al.description = al'.description
  targetType : al.targetType = al'.targetType
  targetId : al.targetId = al'.targetId
  targetName : al.targetName = al'.targetName
  enabled : al.enabled = al'.enabled
  entries : al.entries.map (·.value) = al'.entries.map (·.value)

/-- The section has the same settings in both records. -/
def Section.Same (c c' : FluxwanConfig) : Section → Prop
  | lan => SameLan c.core c'.core
  | groups => c.core.groups.map WanGroup.bare = c'.core.groups.map WanGroup.bare
  | wans => c.core.wans.map WanConfig.settings = c'.core.wans.map WanConfig.settings
  | prober => c.core.prober = c'.core.prober
  | sticky => c.sticky = c'.sticky
  | appSteering => c.appSteering = c'.appSteering
  | telegram => c.telegram = c'.telegram
  | web => c.web = c'.web
  | auth => c.core.auth = c'.core.auth
  | nat46 => c.nat46 = c'.nat46
  | dpi => c.dpi = c'.dpi
  | stealth => c.stealth = c'.stealth
  | pppoeServer => c.pppoeServer = c'.pppoeServer
  | vpn => c.vpn = c'.vpn
  | addressLists => List.Forall₂ SameList c.addressLists c'.addressLists

/-! ## What comes back from the file -/

/-- A value comes back if it is not the one that stands for the default. -/
theorem eq_default_iff [DecidableEq α] {x unset dflt : α} (hd : dflt ≠ unset) :
    x = (if x ≠ unset then x else dflt) ↔ x ≠ unset := by
  by_cases hx : x = unset
  · rw [hx, if_neg (not_not.mpr rfl)]
    exact ⟨fun h => absurd h.symm hd, fun h => absurd rfl h⟩
  · rw [if_pos hx]
    exact ⟨fun _ => hx, fun _ => rfl⟩

theorem orText_eq_self_iff {s dflt : CStr} (hd : dflt ≠ []) : s = orText s dflt ↔ s ≠ [] := eq_default_iff hd

theorem orNum_eq_self_iff [OfNat α 0] [DecidableEq α] {x dflt : α} (hd : dflt ≠ 0) :
    x = orNum x dflt ↔ x ≠ 0 := eq_default_iff hd

attribute [ext] WanConfig QosConfig DnsFeatures ProberConfig StealthConfig RadiusConfig PppoeServerConfig WireguardConfig
  ZerotierConfig TailscaleConfig VpnConfig

/-- What `g` changes is not looked at by `f`. -/
theorem map_eq_map_map (h : ∀ x, f (g x) = f x) (xs : List α) : xs.map f = (xs.map g).map f := by
  rw [List.map_map]
  exact List.map_congr_left fun x _ => (h x).symm

/-- The LAN has no setting that is written as its default. -/
@[mk_iff]
structure LanSurvives (c : Config) : Prop where
  name : c.lan.name ≠ []
  ip : c.lanIpAddr ≠ 0
  netmask : c.lan.netmask ≠ 0
  dhcpStart : c.lan.dhcpStart ≠ 0
  dhcpEnd : c.lan.dhcpEnd ≠ 0
  algorithm : c.lan.qos.algorithm ≠ []
  primaryDns : c.lan.dns.primaryDns ≠ []
  secondaryDns : c.lan.dns.secondaryDns ≠ []

theorem sameLan_reloaded_iff (c : Config) : SameLan c c.reloaded ↔ LanSurvives c := by
  have hroutes := map_eq_map_map (f := PolicyRoute.settings) (g := fun pr =>
    resolvePolicy (reloadedGroups (reloadedWans c.wans) c.groups) pr.reloaded) (fun _ => rfl) c.policyRoutes
  have hleases := map_eq_map_map (f := StaticLease.settings) (g := StaticLease.reloaded) (fun _ => rfl) c.lan.staticLeases
  have hlimits := map_eq_map_map (f := RateLimit.settings) (g := RateLimit.reloaded) (fun _ => rfl) c.lan.rateLimits
  rw [sameLan_iff, lanSurvives_iff, QosConfig.ext_iff, DnsFeatures.ext_iff]
  simp (disch := decide) only [Config.reloaded, LanConfig.reloaded, orText_eq_self_iff, orNum_eq_self_iff, ← hroutes,
    ← hleases, ← hlimits, true_and, and_true]

/-! ### WANs -/

/-- What one WAN needs to come back, with the tunnel `proxy`: what is not written has its default, and what has a
    default is set. -/
@[mk_iff]
structure WanConfig.Survives (w : WanConfig) (proxy : ProxyConfig) : Prop where
  state : w.state = if w.enabled then .healthy else .down
  mtu : w.mtu = 1500
  mssClamping : w.mssClamping = 1452
  probeTarget : w.probeTarget ≠ []
  wifi : if w.hasWifi then w.wifiSecurity ≠ [] else w.wifiPassword = [] ∧ w.wifiSecurity = []
  proxy : w.proxy.settings = proxy.settings

theorem settings_eq_reloaded_iff (w : WanConfig) :
    w.settings = { w.reloaded with proxy : WanConfig }.settings ↔ w.Survives proxy := by
  have hwifi : (w.wifiPassword = (if w.hasWifi then w.wifiPassword else []) ∧
      w.wifiSecurity = (if w.hasWifi then orText w.wifiSecurity "WPA2-PSK".toList else [])) ↔
      if w.hasWifi then w.wifiSecurity ≠ [] else w.wifiPassword = [] ∧ w.wifiSecurity = [] := by
    split
    · simp (disch := decide) only [orText_eq_self_iff, true_and]
    · rfl
  rw [WanConfig.ext_iff, WanConfig.survives_iff]
  simp (disch := decide) only [WanConfig.settings, WanConfig.reloaded, orText_eq_self_iff, true_and]
  tauto

/-- Behind the WANs `earlier`, this one is neither renumbered nor renamed. -/
@[mk_iff]
structure WanConfig.KeepsIds (earlier : List WanConfig) (w : WanConfig) : Prop where
  id : (w.id ≠ 0 ∧ ∀ e ∈ earlier, e.id ≠ w.id) ∨ w.id = UInt32.ofNat (earlier.length + 1)
  tableId : (w.tableId ≠ 0 ∧ ∀ e ∈ earlier, e.tableId ≠ w.tableId) ∨
    w.tableId = UInt32.ofNat (100 + earlier.length + 1)
  label : w.label ≠ []

/-- A number that is replaced if it is zero or taken. -/
theorem renumbered_eq_iff (earlier : List WanConfig) (f : WanConfig → UInt32) (x dflt : UInt32) :
    (if (earlier.any fun e => decide (f e = x)) || decide (x = 0) then dflt else x) = x ↔
      (x ≠ 0 ∧ ∀ e ∈ earlier, f e ≠ x) ∨ x = dflt := by
  rw [ite_eq_right_iff, imp_iff_not_or, eq_comm (a := dflt), and_comm]
  simp only [Bool.or_eq_true, List.any_eq_true, decide_eq_true_eq, not_or, not_exists, not_and, ne_eq]

theorem keepsIds_iff (earlier : List WanConfig) (w : WanConfig) :
    w.KeepsIds earlier ↔ ((uniqueIds earlier w).id = w.id ∧ (uniqueIds earlier w).tableId = w.tableId ∧
      (uniqueIds earlier w).label = w.label) := by
  have hid := renumbered_eq_iff earlier WanConfig.id w.id (UInt32.ofNat (earlier.length + 1))
  have htable := renumbered_eq_iff earlier WanConfig.tableId w.tableId
    (UInt32.ofNat (100 + earlier.length + 1))
  have hlabel : (uniqueIds earlier w).label = w.label ↔ w.label ≠ [] := by
    show (if w.label = [] then _ else _) = _ ↔ _
    split <;> simp_all
  rw [WanConfig.keepsIds_iff, ← hid, ← htable, ← hlabel]
  rfl

theorem uniqueIds_of_keepsIds {w : WanConfig} (h : w.KeepsIds earlier) : uniqueIds earlier w = w := by
  obtain ⟨hid, htable, hlabel⟩ := (keepsIds_iff earlier w).mp h
  show { w with
    id := (uniqueIds earlier w).id
    tableId := (uniqueIds earlier w).tableId
    label := (uniqueIds earlier w).label } = w
  rw [hid, htable, hlabel]

/-- What is done to the WANs after a load changes no settings but those of the tunnels. -/
structure OnlyTunnels (post : Nat → WanConfig → WanConfig) : Prop where
  identity : ∀ i w, (post i w).id = w.id ∧ (post i w).tableId = w.tableId ∧ (post i w).label = w.label
  settings : ∀ i (w : WanConfig), (post i w.reloaded).settings =
    { w.reloaded with proxy := (post i w.reloaded).proxy : WanConfig }.settings

theorem reloadedWans_concat (w : WanConfig) :
    reloadedWans (ws ++ [w]) = reloadedWans ws ++ [uniqueIds (reloadedWans ws) w.reloaded] := by
  rw [reloadedWans, List.map_append, List.foldl_append]
  rfl

/-- Only the ids of the WANs before it count. -/
theorem keepsIds_congr {rs : List WanConfig} (hid : ws.map WanConfig.id = rs.map WanConfig.id)
    (htable : ws.map WanConfig.tableId = rs.map WanConfig.tableId) (w : WanConfig) : w.KeepsIds rs ↔ w.KeepsIds ws := by
  have hlen : ws.length = rs.length := by simpa using congrArg List.length hid
  have hnot : ∀ (f : WanConfig → UInt32) (x : UInt32) (l : List WanConfig), (∀ e ∈ l, f e ≠ x) ↔ x ∉ l.map f := by
    intro f x l
    simp [List.mem_map]
  simp only [WanConfig.keepsIds_iff, hnot, hid, htable, hlen]

theorem map_mapIdx_of_eq {post : Nat → α → α} {f : α → β} (h : ∀ i x, f (post i x) = f x) (xs : List α) :
    (xs.mapIdx post).map f = xs.map f := by
  apply List.ext_getElem
  · simp
  · intro i _ _
    simp [h]

theorem mapIdx_self (xs : List α) : xs.mapIdx (fun _ x => x) = xs := by
  simp [List.mapIdx_eq_iff]

/-- Every setting can be read off the settings. -/
theorem map_eq_of_settings (hf : ∀ w, f (WanConfig.settings w) = f w)
    {rs : List WanConfig} (h : ws.map WanConfig.settings = rs.map WanConfig.settings) : ws.map f = rs.map f := by
  rw [map_eq_map_map hf ws, h, ← map_eq_map_map hf rs]

/-- One WAN comes back behind others that did. -/
theorem settings_post_uniqueIds_iff (hpost : OnlyTunnels post) (w : WanConfig) (i : Nat) :
    w.settings = (post i (uniqueIds earlier w.reloaded)).settings ↔
      w.KeepsIds earlier ∧ w.Survives (post i w.reloaded).proxy := by
  rw [← settings_eq_reloaded_iff, ← hpost.settings]
  have hkeeps : w.KeepsIds earlier ↔ w.reloaded.KeepsIds earlier :=
    ⟨fun h => ⟨h.id, h.tableId, h.label⟩, fun h => ⟨h.id, h.tableId, h.label⟩⟩
  constructor
  · intro h
    obtain ⟨hid, htable, hlabel⟩ := hpost.identity i (uniqueIds earlier w.reloaded)
    have hmine : w.reloaded.KeepsIds earlier := (keepsIds_iff earlier w.reloaded).mpr
      ⟨(congrArg WanConfig.id h).trans hid |>.symm, (congrArg WanConfig.tableId h).trans htable |>.symm,
        (congrArg WanConfig.label h).trans hlabel |>.symm⟩
    rw [uniqueIds_of_keepsIds hmine] at h
    exact ⟨hkeeps.mpr hmine, h⟩
  · rintro ⟨hmine, h⟩
    rwa [uniqueIds_of_keepsIds (hkeeps.mp hmine)]

/-- The WANs come back: each keeps its ids behind the ones before it, and has its settings again. -/
def WansSurvive (post : Nat → WanConfig → WanConfig) (ws : List WanConfig) : Prop :=
  ∀ done w, done ++ [w] <+: ws → w.KeepsIds done ∧ w.Survives (post done.length w.reloaded).proxy

theorem wansSurvive_concat {w : WanConfig} :
    WansSurvive post (ws ++ [w]) ↔
      WansSurvive post ws ∧ w.KeepsIds ws ∧ w.Survives (post ws.length w.reloaded).proxy := by
  simp only [WansSurvive, List.prefix_concat_iff]
  constructor
  · intro h
    exact ⟨fun done x hx => h done x (.inr hx), h ws w (.inl rfl)⟩
  · rintro ⟨hws, hw⟩ done x (heq | hx)
    · obtain ⟨rfl, hxw⟩ := List.append_inj' heq rfl
      obtain rfl : x = w := by simpa using hxw
      exact hw
    · exact hws done x hx

theorem map_settings_reloadedWans_iff (hpost : OnlyTunnels post) (ws : List WanConfig) :
    ws.map WanConfig.settings = ((reloadedWans ws).mapIdx post).map WanConfig.settings ↔ WansSurvive post ws := by
  induction ws using List.reverseRecOn with
  | nil => simp [WansSurvive, reloadedWans]
  | append_singleton ws w ih =>
    rw [reloadedWans_concat, List.mapIdx_concat, length_reloadedWans, List.map_append, List.map_append,
      wansSurvive_concat, ← ih]
    -- behind WANs that have come back, the ids to compare with are the old ones
    have hkeeps : ws.map WanConfig.settings = ((reloadedWans ws).mapIdx post).map WanConfig.settings →
        (w.KeepsIds (reloadedWans ws) ↔ w.KeepsIds ws) := by
      intro h
      have hid : ws.map WanConfig.id = ((reloadedWans ws).mapIdx post).map WanConfig.id :=
        map_eq_of_settings (fun _ => rfl) h
      have htable : ws.map WanConfig.tableId = ((reloadedWans ws).mapIdx post).map WanConfig.tableId :=
        map_eq_of_settings (fun _ => rfl) h
      exact keepsIds_congr (hid.trans (map_mapIdx_of_eq (fun i x => (hpost.identity i x).1) _))
        (htable.trans (map_mapIdx_of_eq (fun i x => (hpost.identity i x).2.1) _)) w
    constructor
    · intro h
      obtain ⟨hws, hw⟩ := List.append_inj' h rfl
      obtain ⟨hids, hset⟩ := (settings_post_uniqueIds_iff hpost w ws.length).mp (List.singleton_inj.mp hw)
      exact ⟨hws, (hkeeps hws).mp hids, hset⟩
    · rintro ⟨hws, hids, hset⟩
      have hw := (settings_post_uniqueIds_iff hpost w ws.length).mpr ⟨(hkeeps hws).mpr hids, hset⟩
      exact congrArg₂ (· ++ ·) hws (List.singleton_inj.mpr hw)

/-! ### Services -/

/-- No RADIUS setting is read back as a default. -/
@[mk_iff]
structure RadiusConfig.Survives (r : RadiusConfig) : Prop where
  secret : r.proto = .radsec → r.secret ≠ []
  authPort : r.authPort ≠ 0
  acctPort : r.acctPort ≠ 0
  coaPort : r.coaPort ≠ 0
  interimInterval : r.interimInterval ≠ 0
  nasIdentifier : r.nasIdentifier ≠ []

theorem radius_eq_reloaded_iff (r : RadiusConfig) : r = r.reloaded ↔ r.Survives := by
  have hsecret : r.secret = r.reloaded.secret ↔ (r.proto = .radsec → r.secret ≠ []) := by
    show r.secret = (if _ then _ else _) ↔ _
    split
    · rename_i h
      rw [h.1]
      exact ⟨fun hs => absurd hs (by decide), fun hs => absurd rfl (hs h.2)⟩
    · rename_i h
      exact ⟨fun _ hproto hs => h ⟨hs, hproto⟩, fun _ => rfl⟩
  have hports : ∀ dflt : UInt16, dflt ≠ 0 → r.proto.defaultPort dflt ≠ 0 := by
    intro dflt hd
    cases r.proto with
    | radsec => exact (by decide : (2083 : UInt16) ≠ 0)
    | _ => exact hd
  rw [RadiusConfig.ext_iff, hsecret, RadiusConfig.survives_iff]
  simp (disch := decide) only [RadiusConfig.reloaded, orText_eq_self_iff, orNum_eq_self_iff, true_and, and_true,
    orNum_eq_self_iff (hports 1812 (by decide)), orNum_eq_self_iff (hports 1813 (by decide))]

/-- No setting of the PPPoE server is read back as a default. -/
@[mk_iff]
structure PppoeServerConfig.Survives (p : PppoeServerConfig) : Prop where
  texts : ∀ s ∈ [p.lanMode, p.interface, p.serviceName, p.acName, p.localIp, p.poolStart, p.poolEnd, p.dns1, p.dns2],
    s ≠ []
  numbers : p.poolCount ≠ 0 ∧ p.mru ≠ 0 ∧ p.mss ≠ 0
  radius : p.radius.Survives
  profiles : p.profiles ≠ []

theorem reloadedProfiles_eq_self_iff : ps = reloadedProfiles ps ↔ ps ≠ [] := by
  rw [reloadedProfiles, ← ite_not]
  exact eq_default_iff (by decide)

theorem pppoe_eq_reloaded_iff (p : PppoeServerConfig) : p = p.reloaded ↔ p.Survives := by
  rw [PppoeServerConfig.ext_iff, PppoeServerConfig.survives_iff]
  simp (disch := decide) only [PppoeServerConfig.reloaded, orText_eq_self_iff, orNum_eq_self_iff,
    radius_eq_reloaded_iff, reloadedProfiles_eq_self_iff, true_and, and_true, List.forall_mem_cons]
  tauto

/-- No VPN setting is read back as a default, and no peer or network is dropped. -/
@[mk_iff]
structure VpnConfig.Survives (v : VpnConfig) : Prop where
  interface : v.wireguard.interface ≠ []
  listenPort : v.wireguard.listenPort ≠ 0
  address : v.wireguard.address ≠ []
  peers : ∀ p ∈ v.wireguard.peers, p.publicKey ≠ []
  networks : ∀ n ∈ v.zerotier.networks, n.nwid ≠ []
  hostname : v.tailscale.hostname ≠ []

theorem eq_filter_iff [DecidablePred q] (xs : List α) : xs = xs.filter (fun x => decide (q x)) ↔ ∀ x ∈ xs, q x := by
  rw [eq_comm, List.filter_eq_self]
  simp

theorem wireguard_eq_reloaded_iff (w : WireguardConfig) :
    w = w.reloaded ↔ w.interface ≠ [] ∧ w.listenPort ≠ 0 ∧ w.address ≠ [] ∧ ∀ p ∈ w.peers, p.publicKey ≠ [] := by
  rw [WireguardConfig.ext_iff]
  simp (disch := decide) only [WireguardConfig.reloaded, orText_eq_self_iff, orNum_eq_self_iff, eq_filter_iff, true_and]

theorem zerotier_eq_reloaded_iff (z : ZerotierConfig) : z = z.reloaded ↔ ∀ n ∈ z.networks, n.nwid ≠ [] := by
  rw [ZerotierConfig.ext_iff]
  simp only [ZerotierConfig.reloaded, eq_filter_iff, true_and]

theorem vpn_eq_reloaded_iff (v : VpnConfig) : v = v.reloaded ↔ v.Survives := by
  have hhost : v.tailscale = v.reloaded.tailscale ↔ v.tailscale.hostname ≠ [] := by
    rw [TailscaleConfig.ext_iff]
    simp (disch := decide) [VpnConfig.reloaded, orText_eq_self_iff]
  rw [VpnConfig.ext_iff, hhost]
  simp only [VpnConfig.reloaded, wireguard_eq_reloaded_iff, zerotier_eq_reloaded_iff, VpnConfig.survives_iff, and_assoc]

/-- A list comes back: no text of it is dropped or read back as a default, and it is bound to the target it names
    already. -/
structure AddressList.Survives (wans : List WanConfig) (groups : List WanGroup) (al : AddressList) : Prop where
  targetType : al.targetType ≠ []
  entries : ∀ e ∈ al.entries, e.value ≠ []
  target : ∀ t ∈ al.target wans groups, al.targetId = t.1 ∧ al.targetName = copyInto 64 t.2

theorem map_value_reloadedEntries (es : List AddressListEntry) :
    (reloadedEntries es).map (·.value) = (es.map (·.value)).filter fun x => decide (x ≠ []) := by
  rw [reloadedEntries, List.map_map]
  exact List.map_id _

/-- A search that looks at settings only. -/
theorem find?_map_congr (hq : ∀ x, q (key x) = q x)
    (hval : ∀ x, val (key x) = val x) {xs ys : List α} (h : xs.map key = ys.map key) :
    (xs.find? q).map val = (ys.find? q).map val := by
  have hkey : ∀ zs : List α, (zs.find? q).map val = ((zs.map key).find? q).map val := by
    intro zs
    rw [List.find?_map, funext hq (f := q ∘ key), Option.map_map, funext hval (f := val ∘ key)]
  rw [hkey xs, hkey ys, h]

theorem target_congr {wans wans' : List WanConfig} {groups groups' : List WanGroup} {al al' : AddressList}
    (hwans : wans.map WanConfig.settings = wans'.map WanConfig.settings)
    (hgroups : groups.map WanGroup.bare = groups'.map WanGroup.bare) (htype : al.targetType = al'.targetType)
    (hid : al.targetId = al'.targetId) (hname : al.targetName = al'.targetName) :
    al.target wans groups = al'.target wans' groups' := by
  have hw : al.targetsWan = al'.targetsWan := by
    funext w
    rw [AddressList.targetsWan, AddressList.targetsWan, hid, hname]
  have hg : al.targetsGroup = al'.targetsGroup := by
    funext g
    rw [AddressList.targetsGroup, AddressList.targetsGroup, hid, hname]
  rw [AddressList.target, AddressList.target, htype, hw, hg]
  split
  · have hq : ∀ w : WanConfig, al'.targetsWan w.settings = al'.targetsWan w := fun _ => rfl
    have hval : ∀ w : WanConfig, (w.settings.id, w.settings.label) = (w.id, w.label) := fun _ => rfl
    exact find?_map_congr hq hval hwans
  · have hq : ∀ g : WanGroup, al'.targetsGroup g.bare = al'.targetsGroup g := fun _ => rfl
    have hval : ∀ g : WanGroup, (g.bare.id, g.bare.name) = (g.id, g.name) := fun _ => rfl
    exact find?_map_congr hq hval hgroups

theorem sameList_resolveTarget_iff (al : AddressList) :
    SameList al (resolveTarget wans groups al.reloaded) ↔
      al.targetType ≠ [] ∧ (∀ e ∈ al.entries, e.value ≠ []) ∧
        ∀ t ∈ al.reloaded.target wans groups, al.targetId = t.1 ∧ al.targetName = copyInto 64 t.2 := by
  have htype : al.targetType = al.reloaded.targetType ↔ al.targetType ≠ [] := orText_eq_self_iff (by decide)
  have hentries : al.entries.map (·.value) = al.reloaded.entries.map (·.value) ↔ ∀ e ∈ al.entries, e.value ≠ [] := by
    show _ = (reloadedEntries al.entries).map (·.value) ↔ _
    rw [map_value_reloadedEntries, eq_filter_iff, List.forall_mem_map]
  rw [← htype, ← hentries, sameList_iff]
  unfold resolveTarget
  cases al.reloaded.target wans groups with
  | none => simp [AddressList.reloaded]
  | some t => simp [AddressList.reloaded, and_assoc, and_left_comm, and_comm]

/-! ### All sections -/

theorem map_bare_reloadedGroups (wans : List WanConfig) (gs : List WanGroup) :
    gs.map WanGroup.bare = (reloadedGroups wans gs).map WanGroup.bare := by
  have hbare : ∀ g : WanGroup, (resolveGroup wans g.bare).bare = g.bare := by
    intro g
    simp only [resolveGroup, WanGroup.bare]
  exact map_eq_map_map hbare gs

/-- What the section needs to come back from the file. -/
def Section.Survives (c : FluxwanConfig) : Section → Prop
  | lan => LanSurvives c.core
  | wans => WansSurvive (fun _ w => w) c.core.wans
  | prober => c.core.prober.maxAcceptableLossPct = c.core.prober.maxAcceptableLossPct.atTenths.toFloat
  | stealth => c.stealth.ttlValue ≠ 0
  | pppoeServer => c.pppoeServer.Survives
  | vpn => c.vpn.Survives
  | addressLists => ∀ al ∈ c.addressLists, al.Survives c.core.wans c.core.groups
  | groups | sticky | appSteering | telegram | web | auth | nat46 | dpi => True

theorem same_lists_reloaded_iff {c : FluxwanConfig} (hwans : Section.wans.Same c c.reloaded) :
    Section.addressLists.Same c c.reloaded ↔ Section.addressLists.Survives c := by
  have hgroups : Section.groups.Same c c.reloaded := map_bare_reloadedGroups _ _
  have htarget : ∀ al : AddressList, al.targetType ≠ [] → al.reloaded.target c.core.reloaded.wans c.core.reloaded.groups =
      al.target c.core.wans c.core.groups := by
    intro al htype
    have hsame : al.targetType = al.reloaded.targetType := (orText_of_ne htype).symm
    have hid : al.targetId = al.reloaded.targetId := rfl
    have hname : al.targetName = al.reloaded.targetName := rfl
    exact (target_congr hwans hgroups hsame hid hname).symm
  show List.Forall₂ SameList c.addressLists (c.addressLists.map _) ↔ _
  rw [List.forall₂_map_right_iff, List.forall₂_same]
  refine forall₂_congr fun al _ => ?_
  rw [sameList_resolveTarget_iff]
  constructor
  · rintro ⟨htype, hentries, hbound⟩
    rw [htarget al htype] at hbound
    exact ⟨htype, hentries, hbound⟩
  · rintro ⟨htype, hentries, hbound⟩
    rw [← htarget al htype] at hbound
    exact ⟨htype, hentries, hbound⟩

theorem same_wans_reloaded_iff (c : FluxwanConfig) : Section.wans.Same c c.reloaded ↔ Section.wans.Survives c := by
  have hnone : OnlyTunnels fun _ w => w := ⟨fun _ _ => ⟨rfl, rfl, rfl⟩, fun _ _ => rfl⟩
  rw [Section.Survives, ← map_settings_reloadedWans_iff hnone, mapIdx_self]
  rfl

/-- A section comes back exactly when it has what it needs; address lists are bound to WANs that came back. -/
theorem same_reloaded_iff (c : FluxwanConfig) {s : Section} (h : s = .addressLists → Section.wans.Same c c.reloaded) :
    s.Same c c.reloaded ↔ s.Survives c := by
  cases s with
  | lan => exact sameLan_reloaded_iff c.core
  | wans => exact same_wans_reloaded_iff c
  | prober =>
    show c.core.prober = { c.core.prober with
      maxAcceptableLossPct := c.core.prober.maxAcceptableLossPct.atTenths.toFloat } ↔ _
    simp [ProberConfig.ext_iff, Section.Survives]
  | stealth =>
    show c.stealth = { c.stealth with ttlValue := orNum c.stealth.ttlValue 65 } ↔ _
    simp (disch := decide) [StealthConfig.ext_iff, Section.Survives, orNum_eq_self_iff]
  | pppoeServer => exact pppoe_eq_reloaded_iff c.pppoeServer
  | vpn => exact vpn_eq_reloaded_iff c.vpn
  | addressLists => exact same_lists_reloaded_iff (h rfl)
  | groups => exact ⟨fun _ => trivial, fun _ => map_bare_reloadedGroups _ _⟩
  | sticky | appSteering | telegram | web | auth | nat46 | dpi => exact ⟨fun _ => trivial, fun _ => rfl⟩

/-! ## The round trip -/

/-- What is loaded has the same settings, in every section. -/
def RoundTrips (now : UInt64) (c : FluxwanConfig) : Prop :=
  ∃ after, configLoadAll now (configSave c) = some after ∧ ∀ s : Section, s.Same c after

/-- Saving and loading a plain configuration keeps all settings exactly when every section has what it needs: ids
    that are not renumbered, WANs in the state, MTU and MSS that a load gives them, and no empty text or zero where
    the file has a default. -/
theorem roundTrips_iff (now : UInt64) {c : FluxwanConfig} (h : c.Plain) :
    RoundTrips now c ↔ ∀ s : Section, s.Survives c := by
  rw [RoundTrips, configLoadAll_configSave h]
  simp only [Option.some.injEq, exists_eq_left']
  constructor
  · intro hsame s
    exact (same_reloaded_iff c fun _ => hsame .wans).mp (hsame s)
  · intro hsurvives s
    exact (same_reloaded_iff c fun _ => (same_wans_reloaded_iff c).mpr (hsurvives .wans)).mpr (hsurvives s)

/-- A WAN that is being drained, with an MTU of its own. -/
def drainingRouter : FluxwanConfig where
  core :=
    { wans :=
        [{ id := 1, name := "eth0.2".toList, label := "DSL 1".toList, tableId := 101, state := .draining
           enabled := true, probeTarget := "8.8.8.8".toList, mtu := 1400, mssClamping := 1452 }] }

/-- A test for plain texts. -/
theorem plainTexts_of_literals
    (h : ∀ t ∈ ts, (t.1 = [] ∨ plainLiteral t.1 = true) ∧ t.1.length < t.2) : PlainTexts ts := by
  intro t ht
  obtain ⟨hnil | hlit, hlen⟩ := h t ht
  · rw [hnil] at hlen ⊢
    exact ⟨plainText_nil, hlen⟩
  · exact ⟨plainText_of_literal hlit, hlen⟩

theorem drainingRouter_plain : drainingRouter.Plain :=
  ⟨plainTexts_of_literals (by decide), fun _ hg => absurd hg List.not_mem_nil⟩

/-- The drained WAN comes back as a healthy one, with the default MTU. -/
theorem draining_wan_resumed :
    drainingRouter.Plain ∧ (drainingRouter.core.wans.map (·.id)).Nodup ∧ (drainingRouter.core.groups.map (·.id)).Nodup ∧
      ¬ RoundTrips 0 drainingRouter := by
  refine ⟨drainingRouter_plain, by decide, by decide, ?_⟩
  rintro ⟨after, hload, hsame⟩
  rw [configLoadAll_configSave drainingRouter_plain] at hload
  obtain rfl := Option.some.inj hload
  have hsurvives := (same_wans_reloaded_iff drainingRouter).mp (hsame .wans)
  have hstate := (hsurvives [] _ (List.prefix_refl _)).2.state
  exact absurd hstate (by decide)

theorem roundTrips_iff_drainingRouter : RoundTrips 0 drainingRouter ↔ ∀ s : Section, s.Survives drainingRouter :=
  roundTrips_iff 0 drainingRouter_plain

end FluxWAN
