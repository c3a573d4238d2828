/-
  Applying a configuration (`src/web_server.c`: the branch of `POST /api/v1/apply` and `/assign`).

  The payload is loaded into a fresh record, what it leaves out is to be taken over from the running configuration,
  the result is checked, saved, and loaded from the file again.  Then the managers are told.

  What is taken over is decided section by section, by searching the text of the payload for the quoted name of the
  section.  Three things can go wrong with a section that the payload does not have:

  1. it is not on the list at all (groups, address lists, application steering, alerts, most of the LAN);
  2. its name stands somewhere else in the text (a group has a `"wans"` of its own);
  3. it is on the list, but does not come back from the file (`Section.Survives`).

  `apply_keeps_absent_iff` says exactly what a running configuration needs in the absence of 2.
-/
import FluxWAN.Backup
import FluxWAN.Settings
import FluxWAN.WanManager
import FluxWAN.Web.Handlers

namespace FluxWAN.Web

open CString QuotedText

variable {α : Type} {n : Nat} {s : Section}

/-! ## What the payload leaves out -/

/-- `strstr(body, "\"key\"") == NULL`. -/
def omits (body : CStr) (k : Key) : Bool := (strstr body (quoted k)).isNone

/-- "Ensure LAN settings are valid". -/
def fillLan (cur new : Config) : Config :=
  { new with
    lanIpAddr := orNum new.lanIpAddr (orNum cur.lanIpAddr (strToIp "192.168.90.1".toList))
    lan :=
      { new.lan with
        netmask := orNum new.lan.netmask (orNum cur.lan.netmask (strToIp "255.255.255.0".toList))
        name := orText new.lan.name (copyInto maxIfnameLen (orText cur.lan.name "eth0".toList)) } }

/-- What an empty list is replaced by. -/
def orList {α : Type} (xs ys : List α) : List α := if xs.isEmpty && !ys.isEmpty then ys else xs

theorem length_orList_le {xs ys : List α} (hx : xs.length ≤ n) (hy : ys.length ≤ n) :
    (orList xs ys).length ≤ n := by
  unfold orList
  split
  · exact hy
  · exact hx

/-- A PPPoE block without users or profiles keeps the current ones. -/
def keepSubscribers (cur new : PppoeServerConfig) : PppoeServerConfig :=
  { new with
    users := orList new.users cur.users
    profiles := orList new.profiles cur.profiles
    users_le := length_orList_le new.users_le cur.users_le
    profiles_le := length_orList_le new.profiles_le cur.profiles_le }

/-- "Preserve VPN subsystem": peers and networks if the text does not mention any, keys if there are none. -/
def keepVpn (body : CStr) (cur new : VpnConfig) : VpnConfig :=
  { new with
    wireguard :=
      { new.wireguard with
        peers := if omits body .peers then orList new.wireguard.peers cur.wireguard.peers else new.wireguard.peers
        privateKey := orText new.wireguard.privateKey cur.wireguard.privateKey
        publicKey := orText new.wireguard.publicKey cur.wireguard.publicKey
        peers_le := by
          split
          · exact length_orList_le new.wireguard.peers_le cur.wireguard.peers_le
          · exact new.wireguard.peers_le }
    zerotier :=
      { new.zerotier with
        networks := if omits body .networks then orList new.zerotier.networks cur.zerotier.networks else new.zerotier.networks
        nodeId := orText new.zerotier.nodeId cur.zerotier.nodeId
        networks_le := by
          split
          · exact length_orList_le new.zerotier.networks_le cur.zerotier.networks_le
          · exact new.zerotier.networks_le } }

/-- The WANs are kept only if the text does not mention any. -/
def keepWans (body : CStr) (cur new : List WanConfig) : List WanConfig := if omits body .wans then orList new cur else new

theorem length_keepWans_le {cur new : List WanConfig} (hc : cur.length ≤ n) (hn : new.length ≤ n) :
    (keepWans body cur new).length ≤ n := by
  unfold keepWans
  split
  · exact length_orList_le hn hc
  · exact hn

/-- The record that is saved: the loaded payload, completed from the running configuration. -/
def keepOmitted (body : CStr) (cur new : FluxwanConfig) : FluxwanConfig :=
  let filled := fillLan cur.core new.core
  { new with
    core :=
      { filled with
        wans := keepWans body cur.core.wans new.core.wans
        prober := if omits body .prober then cur.core.prober else new.core.prober
        auth := if omits body .auth then cur.core.auth else new.core.auth
        wans_le := length_keepWans_le cur.core.wans_le new.core.wans_le }
    sticky := if omits body .sticky then cur.sticky else new.sticky
    web := if omits body .web then cur.web else new.web
    nat46 := if omits body .nat46 then cur.nat46 else new.nat46
    dpi := if omits body .dpi then cur.dpi else new.dpi
    stealth := if omits body .stealth then cur.stealth else new.stealth
    pppoeServer :=
      if omits body .pppoeServer then cur.pppoeServer else keepSubscribers cur.pppoeServer new.pppoeServer
    vpn := if omits body .vpn then cur.vpn else keepVpn body cur.vpn new.vpn }

/-! ## The managers -/

/-- `"tun_wan%u"`. -/
def tunnelName (idx : Nat) (id : UInt32) : CStr :=
  "tun_wan".toList ++ showNat ((if id > 0 then id.toNat else idx + 1) % 1000)

/-- What `proxy_manager_start_wan` writes into the record: it parses the links and names the device.  The process it
    starts is not part of the record. -/
def startTunnel (idx : Nat) (w : WanConfig) : WanConfig :=
  if w.enabled && w.proxyEnabled then
    let p := syncServers w.proxy
    if p.primary.server = [] ∧ p.serverCount = 0 then { w with proxy := p }
    else { w with proxy := { p with tunDev := orText p.tunDev (tunnelName idx w.id) } }
  else w

/-- `proxy_manager_apply`. -/
def startTunnels (c : Config) : Config :=
  { c with wans := c.wans.mapIdx startTunnel, wans_le := (List.length_mapIdx).trans_le c.wans_le }

/-! ## The request -/

/-- What the branch asks of the world. -/
structure ApplyEnv where
  now : UInt64 := 0
  /-- `calloc` succeeds. -/
  memory : Bool := true
  /-- The temporary file can be written.  If not, what it already holds is loaded. -/
  tmpWritable : Bool := true
  tmpFile : Option (List Char) := none
  /-- `config_save` succeeds at the path of the configuration, … -/
  saves : Bool := true
  /-- … or at the place where the program is installed.  If neither, the file there is loaded. -/
  fallbackSaves : Bool := true
  fallbackFile : Option (List Char) := none
  /-- `ctx->proxy_mgr` and `ctx->wan_mgr` are set. -/
  proxyMgr : Bool := true
  wanMgr : Bool := true
  manager : Env := {}

/-- The payload of a request: the text behind the header, if it begins with a brace. -/
def payloadOf (req : CStr) : Option CStr :=
  ((bodyOf req).map fun body => body.dropWhile (· ∈ [' ', '\t', '\r', '\n'])).filter (startsWith · ['\x7b'])

/-- `proxy_manager_apply`, if there is a manager. -/
def ApplyEnv.startTunnels (env : ApplyEnv) (c : Config) : Config :=
  if env.proxyMgr then Web.startTunnels c else c

/-- `wan_manager_rebalance`, if there is a manager. -/
def ApplyEnv.rebalance (env : ApplyEnv) (c : Config) : Config :=
  if env.wanMgr then (FluxWAN.rebalance env.manager { config := c }).config else c

/-- `config_save` and `config_load` of the new record.  A load that fails leaves the running one. -/
def ApplyEnv.reload (env : ApplyEnv) (cur new : FluxwanConfig) : FluxwanConfig :=
  if env.saves || env.fallbackSaves then (configLoadAll env.now (configSave new)).getD cur
  else (env.fallbackFile.bind (configLoadAll env.now)).getD cur

/-- From the payload to the loaded configuration: an error text, or the running configuration.  Without memory or
    a temporary file to load the request counts as applied. -/
def ApplyEnv.install (env : ApplyEnv) (cur : FluxwanConfig) (body : CStr) : Except CStr FluxwanConfig :=
  if !env.memory then .ok cur
  else
    match (if env.tmpWritable then some body else env.tmpFile).bind (configLoadAll env.now) with
    | none => .ok cur
    | some new =>
      let new := keepOmitted body cur new
      match configValidateWanAttachments new.core with
      | some e => .error (copyInto 256 e)
      | none =>
        let loaded := env.reload cur new
        .ok { loaded with core := env.startTunnels loaded.core }

structure Applied where
  reply : Reply
  config : FluxwanConfig

/-- "Configuration validated, saved, and applied to Linux Kernel". -/
def appliedReply : Reply :=
  jsonReply "200 OK"
    ("\x7b\"status\":\"ok\",\"message\":\"Configuration validated, saved, and applied to Linux Kernel\"\x7d").toList

def rejectedReply (message : CStr) : Reply :=
  jsonReply "400 Bad Request"
    (copyInto 512 ("\x7b\"status\":\"error\",\"message\":\"".toList ++ message ++ "\"\x7d".toList))

/-- The branch of `POST /api/v1/apply`, as far as it answers and writes the configuration. -/
def handleApply (env : ApplyEnv) (cur : FluxwanConfig) (req : CStr) : Applied :=
  if !isRequestAuthorized cur.core.auth req then ⟨adminLoginRequired, cur⟩
  else
    match (payloadOf req).elim (.ok cur) (env.install cur) with
    | .error message => ⟨rejectedReply message, cur⟩
    | .ok config => ⟨appliedReply, { config with core := env.rebalance (env.startTunnels config.core) }⟩

/-! ## What the managers change -/

theorem startTunnel_frame (w : WanConfig) : ∃ proxy, startTunnel idx w = { w with proxy } := by
  unfold startTunnel
  split
  · simp only
    split
    · exact ⟨_, rfl⟩
    · exact ⟨_, rfl⟩
  · exact ⟨w.proxy, rfl⟩

/-- The tunnels are started twice: after the load, and at the end. -/
def ApplyEnv.restart (env : ApplyEnv) (idx : Nat) (w : WanConfig) : WanConfig :=
  if env.proxyMgr then startTunnel idx (startTunnel idx w) else w

theorem restart_frame (env : ApplyEnv) (w : WanConfig) : ∃ proxy, env.restart idx w = { w with proxy } := by
  unfold ApplyEnv.restart
  split
  · obtain ⟨p, hp⟩ := startTunnel_frame w
    obtain ⟨p', hp'⟩ := startTunnel_frame (startTunnel idx w)
    rw [hp', hp]
    exact ⟨p', rfl⟩
  · exact ⟨w.proxy, rfl⟩

theorem onlyTunnels_restart (env : ApplyEnv) : OnlyTunnels env.restart where
  identity i w := by
    obtain ⟨p, hp⟩ := restart_frame env w
    rw [hp]
    exact ⟨rfl, rfl, rfl⟩
  settings i w := by
    obtain ⟨p, hp⟩ := restart_frame env w.reloaded
    rw [hp]

theorem startTunnels_startTunnels (env : ApplyEnv) (c : Config) :
    env.startTunnels (env.startTunnels c) =
      { c with wans := c.wans.mapIdx env.restart, wans_le := (List.length_mapIdx).trans_le c.wans_le } := by
  cases hmgr : env.proxyMgr with
  | true =>
    have hrestart : env.restart = fun i => startTunnel i ∘ startTunnel i := by
      funext i w
      exact if_pos hmgr
    simp only [ApplyEnv.startTunnels, hmgr, if_true, startTunnels, List.mapIdx_mapIdx, hrestart]
  | false =>
    have hrestart : env.restart = fun _ w => w := by
      funext i w
      exact if_neg (by simp [hmgr])
    simp only [ApplyEnv.startTunnels, hmgr, Bool.false_eq_true, if_false, hrestart, mapIdx_self]

/-- The weights are no settings, and a WAN that is marked as down was disabled. -/
theorem reweigh_settings (steering : Bool) {w : WanConfig} (h : w.enabled = false → w.state = .down) :
    (reweigh steering minRtt w).settings = w.settings := by
  obtain ⟨state, weight, heq⟩ := reweigh_frame steering minRtt w
  have hstate := reweigh_state steering minRtt w
  rw [heq] at hstate ⊢
  have hsame : state = w.state := by
    rw [show state = _ from hstate]
    split
    · rename_i hoff
      exact (h hoff).symm
    · rfl
  rw [hsame]
  rfl

/-- A rebalance changes no settings. -/
theorem rebalance_settings (env : Env) {c : Config} (h : ∀ w ∈ c.wans, w.enabled = false → w.state = .down) :
    (FluxWAN.rebalance env { config := c }).config.wans.map WanConfig.settings = c.wans.map WanConfig.settings := by
  cases hlic : env.licenseAuthorized with
  | true =>
    rw [rebalance_wans hlic, List.map_map]
    exact List.map_congr_left fun w hw => reweigh_settings _ (h w hw)
  | false =>
    rw [(rebalance_unauthorized hlic _).1, Config.mapWans_wans, List.map_map]
    rfl

theorem rebuildGroup_bare (env : Env) (c : Config) (i : Nat) (g : WanGroup) : (rebuildGroup env c i g).bare = g.bare := by
  unfold rebuildGroup
  split
  · simp only [WanGroup.bare]
  · rfl

theorem rebalance_bare (env : Env) (c : Config) :
    (FluxWAN.rebalance env { config := c }).config.groups.map WanGroup.bare = c.groups.map WanGroup.bare := by
  cases hlic : env.licenseAuthorized with
  | true =>
    by_cases hne : c.wans.length = 0
    · rw [rebalance_groups_of_no_wans hlic { config := c } hne]
    · rw [rebalance_groups hlic { config := c } hne]
      exact map_mapIdx_of_eq (rebuildGroup_bare env _) c.groups
  | false => rw [(rebalance_unauthorized hlic _).1]; rfl

/-- A rebalance writes WANs and groups, and nothing else. -/
theorem rebalance_frame (env : Env) (c : Config) : ∃ wans groups wans_le groups_le,
    (FluxWAN.rebalance env { config := c }).config = { c with wans, groups, wans_le, groups_le } := by
  cases hlic : env.licenseAuthorized with
  | true =>
    obtain ⟨bpf, hc, -⟩ := rebalance_config hlic { config := c }
    by_cases hnone : (reweighed c).wans.length = 0
    · rw [hc, generateMaglevLut, if_pos hnone]
      exact ⟨_, _, _, _, rfl⟩
    · rw [hc, generateMaglevLut, if_neg hnone]
      exact ⟨_, _, _, _, rfl⟩
  | false =>
    rw [(rebalance_unauthorized hlic _).1]
    exact ⟨_, _, _, _, rfl⟩

/-- The settings of a LAN stand in three fields of the record. -/
theorem sameLan_congr {cur c d : Config} (hlan : c.lan = d.lan) (hip : c.lanIpAddr = d.lanIpAddr)
    (hroutes : c.policyRoutes = d.policyRoutes) : SameLan cur c ↔ SameLan cur d := by
  simp only [sameLan_iff, hlan, hip, hroutes]

theorem rebalance_same_iff (env : ApplyEnv) (cur c : FluxwanConfig) (h : ∀ w ∈ c.core.wans, w.enabled = false → w.state = .down)
    (s : Section) : s.Same cur { c with core := env.rebalance c.core } ↔ s.Same cur c := by
  unfold ApplyEnv.rebalance
  split
  · obtain ⟨wans, groups, wans_le, groups_le, hframe⟩ := rebalance_frame env.manager c.core
    have hwans := rebalance_settings env.manager h
    have hgroups := rebalance_bare env.manager c.core
    rw [hframe] at hwans hgroups ⊢
    cases s with
    | wans =>
      show _ = wans.map WanConfig.settings ↔ _
      rw [show wans.map WanConfig.settings = _ from hwans]
      rfl
    | groups =>
      show _ = groups.map WanGroup.bare ↔ _
      rw [show groups.map WanGroup.bare = _ from hgroups]
      rfl
    | lan => exact sameLan_congr rfl rfl rfl
    | prober | sticky | appSteering | telegram | web | auth | nat46 | dpi | stealth | pppoeServer | vpn | addressLists =>
      exact Iff.rfl
  · exact Iff.rfl

/-- A disabled WAN is loaded as a WAN that is down. -/
theorem down_of_mem_reloadedWans {w : WanConfig} (hw : w ∈ reloadedWans ws)
    (hoff : w.enabled = false) : w.state = .down := by
  induction ws using List.reverseRecOn with
  | nil => exact absurd hw List.not_mem_nil
  | append_singleton ws x ih =>
    rw [reloadedWans_concat, List.mem_append, List.mem_singleton] at hw
    rcases hw with hw | rfl
    · exact ih hw
    · have hx : x.enabled = false := hoff
      show (if x.enabled then WanState.healthy else .down) = .down
      rw [hx]
      rfl

/-- The loaded configuration with its tunnels started. -/
def ApplyEnv.restarted (env : ApplyEnv) (loaded : FluxwanConfig) : FluxwanConfig :=
  { loaded with core := env.startTunnels (env.startTunnels loaded.core) }

/-- The configuration at the end of an accepted request. -/
def ApplyEnv.settle (env : ApplyEnv) (loaded : FluxwanConfig) : FluxwanConfig :=
  { env.restarted loaded with core := env.rebalance (env.restarted loaded).core }

section
variable (env : ApplyEnv) (cur c : FluxwanConfig)

theorem restarted_wans : (env.restarted c).core.wans = c.core.wans.mapIdx env.restart := by
  rw [ApplyEnv.restarted, startTunnels_startTunnels]

theorem restarted_same_of_ne (hs : s ≠ .wans) : s.Same cur (env.restarted c) ↔ s.Same cur c := by
  rw [ApplyEnv.restarted, startTunnels_startTunnels]
  cases s with
  | wans => exact absurd rfl hs
  | lan => exact sameLan_congr rfl rfl rfl
  | groups | prober | sticky | appSteering | telegram | web | auth | nat46 | dpi | stealth | pppoeServer | vpn
  | addressLists => exact Iff.rfl

theorem settle_same_iff (h : ∀ w ∈ c.core.wans, w.enabled = false → w.state = .down) (s : Section) :
    s.Same cur (env.settle c) ↔ s.Same cur (env.restarted c) := by
  have hdown : ∀ w ∈ (env.restarted c).core.wans, w.enabled = false → w.state = .down := by
    intro w hw hoff
    rw [restarted_wans] at hw
    obtain ⟨i, hi, rfl⟩ := List.mem_mapIdx.mp hw
    obtain ⟨p, hp⟩ := restart_frame env c.core.wans[i]
    rw [hp] at hoff ⊢
    exact h c.core.wans[i] (List.getElem_mem hi) hoff
  exact rebalance_same_iff env cur (env.restarted c) hdown s

theorem settle_reloaded_same_iff (s : Section) :
    s.Same cur (env.settle c.reloaded) ↔ s.Same cur (env.restarted c.reloaded) :=
  settle_same_iff env cur c.reloaded (fun _ hw => down_of_mem_reloadedWans hw) s

/-- The WANs at the end: loaded, with their tunnels started. -/
theorem settle_reloaded_same_wans_iff : Section.wans.Same cur (env.settle c.reloaded) ↔
    cur.core.wans.map WanConfig.settings = ((reloadedWans c.core.wans).mapIdx env.restart).map WanConfig.settings := by
  rw [settle_reloaded_same_iff, Section.Same, restarted_wans]
  rfl

end

/-! ## What the payload leaves out -/

/-- A key that is not in the text is not in what the loader sees of it. -/
theorem strstr_cstr_of_omits (h : omits body k = true) : strstr (cstr body) (quoted k) = none := by
  rw [← Option.isNone_iff_eq_none, ← Option.not_isSome, Bool.not_eq_true', ← Bool.not_eq_true, strstr_isSome_iff]
  intro hin
  have hbody : quoted k <:+: body := hin.trans (List.takeWhile_prefix _).isInfix
  rw [← strstr_isSome_iff] at hbody
  rw [omits, ← Option.not_isSome, hbody] at h
  exact absurd h (by decide)

/-- The sections of a loaded record that are not taken over from the running one. -/
structure LoadedFrom (json : CStr) (c : FluxwanConfig) : Prop where
  lan : c.core.lan = loadLan json
  lanIpAddr : c.core.lanIpAddr = loadLanIp json
  policyRoutes : c.core.policyRoutes = (loadPolicyRoutes json).map (resolvePolicy c.core.groups)
  wans : c.core.wans = loadWans json
  groups : c.core.groups = loadGroups json c.core.wans
  appSteering : c.appSteering = loadAppSteering json
  telegram : c.telegram = loadTelegram json
  addressLists : c.addressLists = loadAddressLists json c.core.wans c.core.groups

theorem loadedFrom_of_configLoadAll (h : configLoadAll now body = some new) : LoadedFrom (cstr body) new := by
  obtain ⟨core, hcore, rfl⟩ := Option.map_eq_some_iff.mp h
  unfold configLoad at hcore
  split at hcore
  · exact absurd hcore (by simp)
  · obtain rfl := Option.some.inj hcore
    exact ⟨rfl, rfl, rfl, rfl, rfl, rfl, rfl, rfl⟩

section
variable {body : CStr} {new : FluxwanConfig} (hnew : LoadedFrom (cstr body) new)
include hnew

theorem lan_of_omits (h : omits body .lan = true) :
    new.core.lan = {} ∧ new.core.lanIpAddr = 0 ∧ new.core.policyRoutes = [] := by
  have hpos : lanPos (cstr body) = none := strstr_cstr_of_omits h
  refine ⟨?_, ?_, ?_⟩
  · rw [hnew.lan, loadLan, hpos]
  · rw [hnew.lanIpAddr, loadLanIp, hpos]
  · rw [hnew.policyRoutes, loadPolicyRoutes, lanObjects, hpos]
    rfl

theorem wans_of_omits (h : omits body .wans = true) : new.core.wans = [] := by
  rw [hnew.wans, loadWans, findWansArray_eq, strstr_cstr_of_omits h]
  rfl

theorem groups_of_omits (h : omits body .groups = true) : new.core.groups = [] := by
  rw [hnew.groups, loadGroups, strstr_cstr_of_omits h]

end

/-- A LAN that a payload without one leaves as it is: addresses and name are set, the rest has the values that an
    empty record comes back with. -/
@[mk_iff]
structure LanUnset (c : Config) : Prop where
  name : c.lan.name ≠ []
  ip : c.lanIpAddr ≠ 0
  netmask : c.lan.netmask ≠ 0
  dhcpEnabled : c.lan.dhcpEnabled = false
  dhcpStart : c.lan.dhcpStart = strToIp "192.168.90.100".toList
  dhcpEnd : c.lan.dhcpEnd = strToIp "192.168.90.200".toList
  dhcpLeaseTime : c.lan.dhcpLeaseTime = 0
  qos : c.lan.qos = { algorithm := "cake".toList }
  dns : c.lan.dns = { primaryDns := "1.1.1.1".toList, secondaryDns := "8.8.8.8".toList }
  policyRoutes : c.policyRoutes = []
  staticLeases : c.lan.staticLeases = []
  rateLimits : c.lan.rateLimits = []

theorem orNum_orNum [OfNat α 0] [DecidableEq α] (x dflt : α) : orNum (orNum x dflt) dflt = orNum x dflt := by
  unfold orNum
  by_cases hx : x = 0 <;> simp [hx]

/-- What becomes of the LAN without one in the payload. -/
theorem sameLan_of_omits {cur filled : Config} (hname : cur.lan.name.length < maxIfnameLen)
    (hfilled : filled.lan = (fillLan cur {}).lan) (hip : filled.lanIpAddr = (fillLan cur {}).lanIpAddr)
    (hroutes : filled.policyRoutes = []) : SameLan cur filled.reloaded ↔ LanUnset cur := by
  have hfit : copyInto maxIfnameLen (orText cur.lan.name "eth0".toList) = orText cur.lan.name "eth0".toList :=
    copyInto_of_lt (length_orText_lt hname (by decide))
  -- the record that is loaded from an empty LAN
  let loaded : Config := { lan := (fillLan cur {}).lan, lanIpAddr := (fillLan cur {}).lanIpAddr }
  have hname' : cur.lan.name = loaded.reloaded.lan.name ↔ cur.lan.name ≠ [] := by
    show _ = orText (copyInto maxIfnameLen (orText cur.lan.name "eth0".toList)) _ ↔ _
    rw [hfit, orText_orText, orText_eq_self_iff (by decide)]
  have hnum {x dflt : UInt32} (hd : dflt ≠ 0) : x = orNum (orNum x dflt) dflt ↔ x ≠ 0 := by
    rw [orNum_orNum, orNum_eq_self_iff hd]
  rw [sameLan_congr (d := loaded.reloaded) (congrArg LanConfig.reloaded hfilled) (congrArg (orNum · _) hip)
    (show filled.policyRoutes.map _ = [] by rw [hroutes]; rfl)]
  rw [sameLan_iff, lanUnset_iff]
  refine and_congr hname' (and_congr (hnum (by decide)) (and_congr (hnum (by decide)) ?_))
  iterate 6 refine and_congr Iff.rfl ?_
  exact and_congr List.map_eq_nil_iff (and_congr List.map_eq_nil_iff List.map_eq_nil_iff)

theorem orList_nil : orList [] ys = ys := by
  cases ys <;> rfl

/-- What a section of the running configuration needs to outlast a payload that does not have it. -/
def ApplyEnv.Keeps (env : ApplyEnv) (cur : FluxwanConfig) : Section → Prop
  | .lan => LanUnset cur.core
  | .groups => cur.core.groups = []
  | .addressLists => cur.addressLists = []
  | .appSteering => cur.appSteering = { bulkBalancingEnabled := true }
  | .telegram => cur.telegram = { notifyOnFailover := true, notifyOnRecovery := true }
  | .wans => WansSurvive env.restart cur.core.wans
  | s => s.Survives cur

/-- One section that the text of the payload does not mention. -/
theorem same_settle_keepOmitted_iff (env : ApplyEnv) {cur new : FluxwanConfig}
    (hnew : LoadedFrom (cstr body) new) (hname : cur.core.lan.name.length < maxIfnameLen)
    (h : omits body s.key = true) : s.Same cur (env.settle (keepOmitted body cur new).reloaded) ↔ env.Keeps cur s := by
  by_cases hs : s = .wans
  · subst hs
    have hwans : (keepOmitted body cur new).core.wans = cur.core.wans := by
      show keepWans body cur.core.wans new.core.wans = _
      rw [keepWans, if_pos (show omits body .wans = true from h), wans_of_omits hnew h, orList_nil]
    rw [settle_reloaded_same_wans_iff, hwans, map_settings_reloadedWans_iff (onlyTunnels_restart env)]
    rfl
  · -- a section that is taken over comes back as it would have from the running record
    have keptSame {s : Section} (hsame : s.Same cur (keepOmitted body cur new).reloaded ↔ s.Same cur cur.reloaded)
        (hs : s ≠ .addressLists) : s.Same cur (keepOmitted body cur new).reloaded ↔ s.Survives cur :=
      hsame.trans (same_reloaded_iff cur fun heq => absurd heq hs)
    rw [settle_reloaded_same_iff, restarted_same_of_ne env cur _ hs]
    cases s with
    | wans => exact absurd rfl hs
    | lan =>
      obtain ⟨hlan, hip, hroutes⟩ := lan_of_omits hnew h
      have hfilled : (keepOmitted body cur new).core.lan = (fillLan cur.core {}).lan := by
        show (fillLan cur.core new.core).lan = _
        rw [fillLan, hlan]
        rfl
      have hfilledIp : (keepOmitted body cur new).core.lanIpAddr = (fillLan cur.core {}).lanIpAddr := by
        show orNum new.core.lanIpAddr _ = _
        rw [hip]
        rfl
      exact sameLan_of_omits hname hfilled hfilledIp hroutes
    | groups =>
      show cur.core.groups.map _ = (reloadedGroups _ new.core.groups).map _ ↔ cur.core.groups = []
      rw [groups_of_omits hnew h]
      exact List.map_eq_nil_iff
    | addressLists =>
      show List.Forall₂ SameList cur.addressLists (new.addressLists.map _) ↔ cur.addressLists = []
      rw [hnew.addressLists, loadAddressLists, strstr_cstr_of_omits (k := .addressLists) h]
      exact List.forall₂_nil_right_iff
    | appSteering =>
      show cur.appSteering = new.appSteering ↔ _
      rw [hnew.appSteering, loadAppSteering, strstr_cstr_of_omits (k := .appSteering) h]
      rfl
    | telegram =>
      show cur.telegram = new.telegram ↔ _
      rw [hnew.telegram, loadTelegram, strstr_cstr_of_omits (k := .telegram) h]
      rfl
    | prober | stealth | pppoeServer | vpn =>
      simp only [Section.key] at h
      refine keptSame ?_ (by decide)
      simp only [Section.Same, FluxwanConfig.reloaded, Config.reloaded, keepOmitted, h, if_true]
    | sticky | web | auth | nat46 | dpi => exact iff_of_true (if_pos h).symm trivial

/-! ## The saved record is plain -/

theorem forall_mem_orList {q : α → Prop} {xs ys : List α} (hx : ∀ x ∈ xs, q x) (hy : ∀ y ∈ ys, q y) :
    ∀ z ∈ orList xs ys, q z := by
  unfold orList
  split
  · exact hy
  · exact hx

theorem plain_orText {s dflt : CStr} (hs : PlainText Key s ∧ s.length < n)
    (hd : PlainText Key dflt ∧ dflt.length < n) : PlainText Key (orText s dflt) ∧ (orText s dflt).length < n := by
  unfold orText
  split
  · exact hs
  · exact hd

theorem plain_keepSubscribers {cur new : PppoeServerConfig} (hc : PlainTexts cur.texts) (hn : PlainTexts new.texts) :
    PlainTexts (keepSubscribers cur new).texts := by
  simp only [PppoeServerConfig.texts, plainTexts_append, plainTexts_flatMap] at hc hn
  obtain ⟨⟨⟨-, -⟩, hprofiles⟩, husers⟩ := hc
  obtain ⟨⟨⟨hhead, hradius⟩, hprofiles'⟩, husers'⟩ := hn
  simp only [PppoeServerConfig.texts, keepSubscribers, plainTexts_append, plainTexts_flatMap]
  exact ⟨⟨⟨hhead, hradius⟩, forall_mem_orList hprofiles' hprofiles⟩, forall_mem_orList husers' husers⟩

theorem plain_keepVpn_wireguard (body : CStr) {cur new : VpnConfig} (hc : PlainTexts cur.wireguard.texts)
    (hn : PlainTexts new.wireguard.texts) : PlainTexts (keepVpn body cur new).wireguard.texts := by
  simp only [WireguardConfig.texts, plainTexts_append, plainTexts_flatMap, plainTexts_cons] at hc hn
  obtain ⟨⟨-, -, hpriv, hpub, -⟩, hpeers⟩ := hc
  obtain ⟨⟨hif, haddr, hpriv', hpub', hnil⟩, hpeers'⟩ := hn
  simp only [WireguardConfig.texts, keepVpn, plainTexts_append, plainTexts_flatMap, plainTexts_cons]
  refine ⟨⟨hif, haddr, plain_orText hpriv' hpriv, plain_orText hpub' hpub, hnil⟩, ?_⟩
  split
  · exact forall_mem_orList hpeers' hpeers
  · exact hpeers'

theorem plain_keepVpn_zerotier (body : CStr) {cur new : VpnConfig} (hc : PlainTexts cur.zerotier.texts)
    (hn : PlainTexts new.zerotier.texts) : PlainTexts (keepVpn body cur new).zerotier.texts := by
  simp only [ZerotierConfig.texts, plainTexts_append, plainTexts_flatMap, plainTexts_cons] at hc hn
  obtain ⟨⟨hnode, -⟩, hnets⟩ := hc
  obtain ⟨⟨hnode', hnil⟩, hnets'⟩ := hn
  simp only [ZerotierConfig.texts, keepVpn, plainTexts_append, plainTexts_flatMap, plainTexts_cons]
  refine ⟨⟨plain_orText hnode' hnode, hnil⟩, ?_⟩
  split
  · exact forall_mem_orList hnets' hnets
  · exact hnets'

/-- What holds of a section in both records holds of the one that is taken. -/
theorem of_kept {q : α → Prop} {b : Bool} {x y : α} (hx : q x) (hy : q y) : q (if b then x else y) := by
  cases b with
  | false => exact hy
  | true => exact hx

theorem plain_fillLan {cur new : Config} (hc : PlainTexts cur.lan.texts) (hn : PlainTexts new.lan.texts) :
    PlainTexts (fillLan cur new).lan.texts := by
  simp only [LanConfig.texts, plainTexts_append, plainTexts_cons] at hc hn
  obtain ⟨⟨⟨hname, -⟩, -⟩, -⟩ := hc
  obtain ⟨⟨⟨hname', hrest⟩, hleases⟩, hlimits⟩ := hn
  have heth : PlainText Key "eth0".toList ∧ "eth0".toList.length < maxIfnameLen :=
    ⟨plainText_of_literal (by decide), by decide⟩
  have hfill : copyInto maxIfnameLen (orText cur.lan.name "eth0".toList) = orText cur.lan.name "eth0".toList :=
    copyInto_of_lt (plain_orText hname heth).2
  simp only [LanConfig.texts, fillLan, hfill, plainTexts_append, plainTexts_cons]
  exact ⟨⟨⟨plain_orText hname' (plain_orText hname heth), hrest⟩, hleases⟩, hlimits⟩

theorem plain_keepOmitted (body : CStr) {cur new : FluxwanConfig} (hcur : cur.Plain) (hnew : new.Plain) :
    (keepOmitted body cur new).Plain := by
  have hc := hcur.parts
  have hn := hnew.parts
  exact PlainParts.plain
    { lan := plain_fillLan hc.lan hn.lan
      routes := hn.routes
      groups := hn.groups
      wans := of_kept (q := fun ws => ∀ w ∈ ws, PlainTexts (WanConfig.texts w)) (forall_mem_orList hn.wans hc.wans) hn.wans
      auth := of_kept (q := fun a => PlainTexts (AuthConfig.texts a)) hc.auth hn.auth
      telegram := hn.telegram
      web := of_kept (q := fun w => PlainTexts [(WebConfig.bindIp w, 64)]) hc.web hn.web
      nat46 := of_kept (q := fun n => PlainTexts (Nat46Config.texts n)) hc.nat46 hn.nat46
      pppoe := of_kept (q := fun p => PlainTexts (PppoeServerConfig.texts p)) hc.pppoe (plain_keepSubscribers hc.pppoe hn.pppoe)
      wireguard := of_kept (q := fun v => PlainTexts (VpnConfig.wireguard v).texts) hc.wireguard
        (plain_keepVpn_wireguard body hc.wireguard hn.wireguard)
      zerotier := of_kept (q := fun v => PlainTexts (VpnConfig.zerotier v).texts) hc.zerotier
        (plain_keepVpn_zerotier body hc.zerotier hn.zerotier)
      tailscale := of_kept (q := fun v => PlainTexts (VpnConfig.tailscale v).texts) hc.tailscale hn.tailscale
      lists := hn.lists } hnew.wanCount

/-! ## The absent sections -/

/-- An object as it is sent: its members, each a key with the text behind it, up to the next member or the end. -/
structure Payload where
  blank : CStr
  members : List (CStr × CStr)

/-- One member: the quoted key, and the rest of it. -/
def memberText (m : CStr × CStr) : CStr := '"' :: m.1 ++ '"' :: m.2

def Payload.text (p : Payload) : CStr := '\x7b' :: p.blank ++ p.members.flatMap memberText

/-- No member of the object has the key of the section. -/
def Payload.Absent (p : Payload) (s : Section) : Prop := s.key.text ∉ p.members.map Prod.fst

instance (p : Payload) (s : Section) : Decidable (p.Absent s) := inferInstanceAs (Decidable (_ ∉ _))

/-- The names of absent sections do not stand anywhere in the text, as keys of inner objects or as values. -/
def Payload.Unnested (p : Payload) : Prop := ∀ s, p.Absent s → omits p.text s.key = true

/-- The world lets the request through. -/
structure ApplyEnv.Works (env : ApplyEnv) : Prop where
  memory : env.memory = true
  tmpWritable : env.tmpWritable = true
  saves : (env.saves || env.fallbackSaves) = true

/-- The request is answered as applied. -/
def Accepted (env : ApplyEnv) (cur : FluxwanConfig) (req : CStr) : Prop :=
  (handleApply env cur req).reply.status = "200 OK"

/-- What an accepted request leaves behind. -/
theorem config_of_accepted {env : ApplyEnv} (henv : env.Works) {cur : FluxwanConfig} (hcur : cur.Plain)
    (hreq : payloadOf req = some body) {new : FluxwanConfig} (hload : configLoadAll env.now body = some new)
    (hnew : new.Plain) (hacc : Accepted env cur req) :
    (handleApply env cur req).config = env.settle (keepOmitted body cur new).reloaded := by
  have hreload : env.reload cur (keepOmitted body cur new) = (keepOmitted body cur new).reloaded := by
    rw [ApplyEnv.reload, if_pos henv.saves, configLoadAll_configSave (plain_keepOmitted body hcur hnew)]
    rfl
  unfold Accepted at hacc
  unfold handleApply at hacc ⊢
  split at hacc
  · exact absurd hacc (show ¬ "401 Unauthorized" = "200 OK" by decide)
  · rename_i hauth
    rw [if_neg hauth]
    simp only [hreq, Option.elim_some, ApplyEnv.install, henv.memory, henv.tmpWritable, Bool.not_true, Bool.false_eq_true,
      if_false, if_true, Option.bind_some, hload, hreload] at hacc ⊢
    cases hvalid : configValidateWanAttachments (keepOmitted body cur new).core with
    | some e =>
      rw [hvalid] at hacc
      exact absurd hacc (show ¬ "400 Bad Request" = "200 OK" by decide)
    | none => rfl

/-- An accepted payload that does not name its absent sections anywhere leaves them as they are exactly when the running
    configuration has what each of them needs. -/
theorem apply_keeps_absent_iff {env : ApplyEnv} (henv : env.Works) {cur : FluxwanConfig} (hcur : cur.Plain) {req : CStr}
    {p : Payload} (hreq : payloadOf req = some p.text) (hnew : ∀ new ∈ configLoadAll env.now p.text, new.Plain)
    (hfree : p.Unnested) (hacc : Accepted env cur req) :
    (∀ s, p.Absent s → s.Same cur (handleApply env cur req).config) ↔ ∀ s, p.Absent s → env.Keeps cur s := by
  obtain ⟨new, hload⟩ : ∃ new, configLoadAll env.now p.text = some new := ⟨_, rfl⟩
  have hname : cur.core.lan.name.length < maxIfnameLen := (hcur.parts.lan _ List.mem_cons_self).2
  rw [config_of_accepted henv hcur hreq hload (hnew new hload) hacc]
  exact forall₂_congr fun s hs => same_settle_keepOmitted_iff env (loadedFrom_of_configLoadAll hload) hname (hfree s hs)

/-- A running configuration with a group. -/
def groupRouter : FluxwanConfig where
  core := { groups := [{ id := 1, name := "Office 1".toList, enabled := true }] }

/-- A payload without any section. -/
def emptyPayload : Payload := ⟨[], [("v".toList, ":1\x7d".toList)]⟩

def applyRequest (body : CStr) : CStr := "POST /api/v1/apply HTTP/1.1\r\n\r\n".toList ++ body

/-- Words that a load puts in where the file has nothing. -/
def defaultWords : List CStr :=
  [['a', 'd', 'm', 'i', 'n'],
   ['f', 'l', 'u', 'x', '_', 's', 'e', 'c', '_', 't', 'o', 'k', 'e', 'n', '_', '9', '8', '7'],
   ['f', 'l', 'u', 'x', 'w', 'a', 'n'], ['1', '2', '3', '4', '5', '6'],
   ['E', 'c', 'o', 'n', 'o', 'm', 'y', '_', '1', '0', 'M'],
   ['S', 't', 'a', 'n', 'd', 'a', 'r', 'd', '_', '2', '5', 'M'], ['U', 'l', 't', 'r', 'a', '_', '5', '0', 'M'],
   ['U', 'n', 'l', 'i', 'm', 'i', 't', 'e', 'd'], ['F', 'l', 'u', 'x', 'W', 'A', 'N'],
   ['v', 'e', 't', 'h', '_', 'w', 'a', 'n', '2']]

theorem text_not_mem_defaultWords (k : Key) : k.text ∉ defaultWords := by
  cases k <;> exact Key.of_literal (P := fun s => s ∉ defaultWords) rfl (by decide +kernel)

/-- A test for plain texts that does not look at the keys. -/
def plainWord (s : CStr) : Bool :=
  s.isEmpty || plainLiteral s ||
    (s.all (fun ch => !isSpecial ch && decide (32 ≤ ch.toNat) && decide (ch.toNat ≠ 127)) && defaultWords.contains s)

theorem plainText_of_plainWord {s : CStr} (h : plainWord s = true) : PlainText Key s := by
  simp only [plainWord, Bool.or_eq_true, Bool.and_eq_true, List.all_eq_true, Bool.not_eq_true', decide_eq_true_eq,
    List.isEmpty_iff, List.contains_iff_mem] at h
  rcases h with (rfl | hlit) | ⟨hchars, hword⟩
  · exact plainText_nil
  · exact plainText_of_literal hlit
  · refine ⟨fun ch hch => ⟨(hchars ch hch).1.1, (hchars ch hch).1.2, (hchars ch hch).2⟩, fun k hk => ?_⟩
    have hname : s = k.text := hk
    exact text_not_mem_defaultWords k (hname ▸ hword)

theorem emptyPayload_plain : ∀ new ∈ configLoadAll 0 emptyPayload.text, new.Plain := by
  have htexts : (configLoadAll 0 emptyPayload.text).all fun new =>
      new.texts.all fun t => plainWord t.1 && decide (t.1.length < t.2) := by decide +kernel
  intro new hnew
  have hgroups : new.core.groups = [] := groups_of_omits (loadedFrom_of_configLoadAll hnew) (by decide +kernel)
  rw [Option.all_eq_true] at htexts
  have hnew' := htexts new hnew
  simp only [List.all_eq_true, Bool.and_eq_true, decide_eq_true_eq] at hnew'
  refine ⟨fun t ht => ⟨plainText_of_plainWord (hnew' t ht).1, (hnew' t ht).2⟩, fun g hg => ?_⟩
  rw [hgroups] at hg
  exact absurd hg List.not_mem_nil

theorem emptyPayload_unnested : emptyPayload.Unnested := by
  intro s _
  cases s <;> decide +kernel

theorem groupRouter_plain : groupRouter.Plain :=
  ⟨plainTexts_of_literals (by decide), fun g hg => by rw [List.mem_singleton.mp hg]; rfl⟩

theorem payloadOf_applyRequest : payloadOf (applyRequest emptyPayload.text) = some emptyPayload.text := by decide +kernel

theorem groupRouter_accepted : Accepted {} groupRouter (applyRequest emptyPayload.text) := by
  unfold Accepted
  decide +kernel

/-- The group is gone. -/
theorem absent_groups_dropped : emptyPayload.Absent .groups ∧ Accepted {} groupRouter (applyRequest emptyPayload.text) ∧
    ¬ Section.groups.Same groupRouter (handleApply {} groupRouter (applyRequest emptyPayload.text)).config := by
  refine ⟨by decide, groupRouter_accepted, ?_⟩
  obtain ⟨new, hload⟩ : ∃ new, configLoadAll 0 emptyPayload.text = some new := ⟨_, rfl⟩
  rw [config_of_accepted ⟨rfl, rfl, rfl⟩ groupRouter_plain payloadOf_applyRequest hload (emptyPayload_plain new hload)
    groupRouter_accepted, same_settle_keepOmitted_iff {} (loadedFrom_of_configLoadAll hload) (by decide)
    (emptyPayload_unnested .groups (by decide))]
  exact List.cons_ne_nil _ _

theorem apply_keeps_absent_iff_groupRouter :
    (∀ s, emptyPayload.Absent s → s.Same groupRouter (handleApply {} groupRouter (applyRequest emptyPayload.text)).config) ↔
      ∀ s, emptyPayload.Absent s → ApplyEnv.Keeps {} groupRouter s :=
  apply_keeps_absent_iff ⟨rfl, rfl, rfl⟩ groupRouter_plain payloadOf_applyRequest emptyPayload_plain emptyPayload_unnested
    groupRouter_accepted

end FluxWAN.Web
