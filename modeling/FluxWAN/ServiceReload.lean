/-
  Reading back the service sections: PPPoE server, VPN block, address lists.
-/
import FluxWAN.ConfigReload

namespace FluxWAN

open CString QuotedText

variable {k : Key} {stop : CStr} {xs : List CStr}

/-! ## RADIUS -/

/-- The RADIUS settings as they are read back: ports, texts and intervals have defaults, RadSec its own secret. -/
def RadiusConfig.reloaded (r : RadiusConfig) : RadiusConfig :=
  { r with
    secret := if r.secret = [] ∧ r.proto = .radsec then "radsec".toList else r.secret
    authPort := orNum r.authPort (r.proto.defaultPort 1812)
    acctPort := orNum r.acctPort (r.proto.defaultPort 1813)
    coaPort := orNum r.coaPort 3799
    interimInterval := orNum r.interimInterval 300
    nasIdentifier := orText r.nasIdentifier "FluxWAN-BRAS-01".toList }

theorem loadRadius_render (hs : Sound ts) {r : RadiusConfig} (ht : PlainTexts r.texts)
    (h : seek .radius ts = some ((radiusToks r ++ rest).tail)) :
    loadRadius (render ts) = r.reloaded := by
  have hr := sound_of_seek hs h
  have hproto : loadRadiusProto (render (radiusToks r ++ rest).tail) = r.proto := by
    rw [loadRadiusProto, extractJsonString_valueAt (s := r.proto.text) hr 32
      (by simp [-String.reduceToList, valueAt, radiusToks, openBlock])]
    cases r.proto <;> rfl
  simp only [RadiusConfig.texts, plainTexts_cons] at ht
  rw [loadRadius, strstr_render hs, h]
  simp only [Option.map_some, hproto]
  simp only [extractJsonBool_render hr, extractJsonU32_render hr, extractJsonU16_render hr,
    textField_render hr, textFieldD_render hr]
  simp [radiusToks, openBlock, copyInto_of_lt, copyInto_orText, ht, RadiusConfig.reloaded]

/-! ## PPPoE server -/

theorem loadProfile_render {p : PppoeProfile} (h : PlainTexts p.texts) (ind : Nat) :
    loadProfile (render (braced ind (profileToks p))) = p := by
  have hr := sound_braced ind (flat_profileToks h).sound
  simp only [PppoeProfile.texts, plainTexts_cons] at h
  simp only [loadProfile, extractJsonU32_render hr, textField_render hr, fieldAt_braced]
  simp [profileToks, copyInto_of_lt, h]

theorem loadUser_render {u : PppoeUser} (h : PlainTexts u.texts) (ind : Nat) :
    loadUser now (render (braced ind (userToks u))) = u := by
  have hr := sound_braced ind (flat_userToks h).sound
  simp only [PppoeUser.texts, plainTexts_cons] at h
  simp only [loadUser, extractJsonBool_render hr, extractJsonUint64_render hr, textField_render hr, fieldAt_braced]
  simp [userToks, copyInto_of_lt, h]

/-- The profiles as they are read back. -/
def reloadedProfiles (ps : List PppoeProfile) : List PppoeProfile := if ps = [] then defaultProfiles else ps

theorem length_reloadedProfiles_le {ps : List PppoeProfile} (h : ps.length ≤ maxPppoeProfiles) :
    (reloadedProfiles ps).length ≤ maxPppoeProfiles := by
  unfold reloadedProfiles
  split
  · decide
  · exact h

/-- The PPPoE server as it is read back. -/
def PppoeServerConfig.reloaded (p : PppoeServerConfig) : PppoeServerConfig where
  enabled := p.enabled
  lanMode := orText p.lanMode "dual".toList
  interface := orText p.interface "eth0".toList
  serviceName := orText p.serviceName "FluxWAN-Broadband".toList
  acName := orText p.acName "FluxWAN-BRAS".toList
  localIp := orText p.localIp "10.100.0.1".toList
  poolStart := orText p.poolStart "10.100.0.2".toList
  poolEnd := orText p.poolEnd "10.100.0.254".toList
  poolCount := orNum p.poolCount 250
  dns1 := orText p.dns1 "1.1.1.1".toList
  dns2 := orText p.dns2 "8.8.8.8".toList
  mru := orNum p.mru 1492
  mss := orNum p.mss 1452
  radius := p.radius.reloaded
  profiles := reloadedProfiles p.profiles
  users := p.users
  profiles_le := length_reloadedProfiles_le p.profiles_le
  users_le := p.users_le

/-- The text from the PPPoE block on. -/
def pppoeRest (p : PppoeServerConfig) (rest : List (Tok Key)) : List (Tok Key) :=
  ((openBlock 2 .pppoeServer).tail ++ pppoeLines p) ++ (radiusToks p.radius ++
    (objectArray 4 .profiles (p.profiles.map profileToks) [',', '\n'] ++
      (objectArray 4 .users (p.users.map userToks) ['\n'] ++ (closeBlock 2 ++ rest))))

theorem tail_pppoeToks : (pppoeToks p ++ rest).tail = pppoeRest p rest := by
  simp [pppoeToks, pppoeRest, openBlock]

theorem written_pppoeHead {p : PppoeServerConfig} (h : PlainTexts p.texts) :
    Written [.pppoeServer] ((openBlock 2 .pppoeServer).tail ++ pppoeLines p) :=
  written_append.mpr ⟨fun t ht => written_openBlock List.mem_cons_self t (List.mem_of_mem_tail ht),
    (flat_pppoeLines h).written⟩

/-- What is read back from an array whose objects end at their first brace. -/
theorem load_objectArray {R : Type} {toks : R → List (Tok Key)} {load : CStr → R} {rs : List R} {n ind : Nat}
    {ts rest : List (Tok Key)} (hs : Sound ts)
    (hseek : seek k ts = some ((objectArray ind k (rs.map toks) stop ++ rest).tail))
    (hflat : ∀ r ∈ rs, Flat (toks r)) (hload : ∀ r ∈ rs, load (render (braced (ind + 2) (toks r))) = r)
    (hle : rs.length ≤ n) : (objectsOf n k (render ts)).map load = rs := by
  have hinner : ∀ o ∈ rs.map toks, Inner o := List.forall_mem_map.mpr fun r hr => (hflat r hr).inner
  rw [objectsOf, strstr_render hs, hseek, Option.map_some, Option.elim_some,
    objectsAfter_objectArray hinner ((List.length_map toks).trans_le hle), map_load_braced hload, List.map_id']

section
variable {rest : List (Tok Key)} {p : PppoeServerConfig} (hr : Sound (pppoeRest p rest)) (ht : PlainTexts p.texts)
include hr ht

theorem loadRadius_pppoe : loadRadius (render (pppoeRest p rest)) = p.radius.reloaded := by
  have hhead := written_pppoeHead ht
  simp only [PppoeServerConfig.texts, plainTexts_append] at ht
  have hseek : seek .radius (pppoeRest p rest) = _ :=
    (seek_append_of_written hhead rfl (by decide)).trans (seek_tail rfl)
  exact loadRadius_render hr ht.1.1.2 hseek

theorem loadProfiles_pppoe : loadProfiles (render (pppoeRest p rest)) = reloadedProfiles p.profiles := by
  have hhead := written_pppoeHead ht
  simp only [PppoeServerConfig.texts, plainTexts_append, plainTexts_flatMap] at ht
  have hseek : seek .profiles (pppoeRest p rest) = _ :=
    (seek_append_of_written hhead rfl (by decide)).trans
      ((seek_append_of_written (written_radiusToks ht.1.1.2) rfl (by decide)).trans (seek_tail rfl))
  rw [loadProfiles, load_objectArray hr hseek (fun q hq => flat_profileToks (ht.1.2 q hq))
    (fun q hq => loadProfile_render (ht.1.2 q hq) 6) p.profiles_le]
  rfl

theorem loadUsers_pppoe (now : UInt64) :
    (objectsOf maxPppoeUsers .users (render (pppoeRest p rest))).map (loadUser now) = p.users := by
  have hhead := written_pppoeHead ht
  simp only [PppoeServerConfig.texts, plainTexts_append, plainTexts_flatMap] at ht
  have hprofiles : Written [.profiles] (objectArray 4 .profiles (p.profiles.map profileToks) [',', '\n']) :=
    written_objectArray (by decide)
      (List.forall_mem_map.mpr fun q hq => (flat_profileToks (ht.1.2 q hq)).written) (by decide)
  have hseek : seek .users (pppoeRest p rest) = _ :=
    (seek_append_of_written hhead rfl (by decide)).trans
      ((seek_append_of_written (written_radiusToks ht.1.1.2) rfl (by decide)).trans
        ((seek_append_of_written hprofiles rfl (by decide)).trans (seek_tail rfl)))
  exact load_objectArray hr hseek (fun u hu => flat_userToks (ht.2 u hu))
    (fun u hu => loadUser_render (ht.2 u hu) 6) p.users_le

end

theorem loadPppoeServer_render {p : PppoeServerConfig} (hs : Sound ts) (ht : PlainTexts p.texts)
    (h : seek .pppoeServer ts = some (pppoeRest p rest)) :
    loadPppoeServer now lanName (render ts) = p.reloaded := by
  have hr := sound_of_seek hs h
  have hradius := loadRadius_pppoe hr ht
  have hprofiles := loadProfiles_pppoe hr ht
  have husers := loadUsers_pppoe hr ht now
  simp only [PppoeServerConfig.texts, plainTexts_append, plainTexts_cons] at ht
  unfold loadPppoeServer
  rw [strstr_render hs, h]
  simp only [Option.map_some, hradius, hprofiles, husers]
  simp only [extractJsonBool_render hr, extractJsonU32_render hr, extractJsonU16_render hr, textFieldD_render hr]
  simp [pppoeRest, pppoeLines, openBlock, copyInto_orText, ht, PppoeServerConfig.reloaded, maxIfnameLen]

/-! ## VPN -/

/-- A peer without its optional key. -/
def peerHead (p : WireguardPeer) : List (Tok Key) :=
  line 10 .name (.str p.name) ++ line 10 .publicKey (.str p.publicKey)

def clientKeyToks (p : WireguardPeer) : List (Tok Key) :=
  if p.clientPrivateKey ≠ [] then line 10 .clientPrivateKey (.str p.clientPrivateKey) else []

def peerTail (p : WireguardPeer) : List (Tok Key) :=
  line 10 .presharedKey (.str p.presharedKey) ++ line 10 .allowedIps (.str p.allowedIps) ++
  line 10 .endpoint (.str p.endpoint) ++
  line 10 .persistentKeepalive (.num p.persistentKeepalive.toNat) ++ lastLine 10 .enabled (.flag p.enabled)

theorem peerToks_eq : peerToks p = peerHead p ++ (clientKeyToks p ++ peerTail p) := by
  simp [peerToks, peerHead, clientKeyToks, peerTail]

@[simp] theorem fieldAt_clientKeyToks (hk : Key.clientPrivateKey ≠ k) : fieldAt k (clientKeyToks p) = none := by
  simp [clientKeyToks, hk]

theorem loadPeer_render {p : WireguardPeer} (h : PlainTexts p.texts) (ind : Nat) :
    loadPeer (render (braced ind (peerToks p))) = p := by
  have hr := sound_braced ind (flat_peerToks h).sound
  simp only [WireguardPeer.texts, plainTexts_cons] at h
  have hkey : textField (render (braced ind (peerToks p))) .clientPrivateKey 64 64 = p.clientPrivateKey := by
    rw [textField_render hr, fieldAt_braced]
    by_cases hnil : p.clientPrivateKey = []
    · simp [peerToks_eq, peerHead, peerTail, clientKeyToks, hnil]
    · simp [peerToks_eq, peerHead, peerTail, clientKeyToks, hnil, copyInto_of_lt, h]
  simp only [loadPeer, hkey]
  simp only [extractJsonBool_render hr, extractJsonU16_render hr, textField_render hr, fieldAt_braced]
  simp [peerToks_eq, peerHead, peerTail, copyInto_of_lt, h]

theorem loadNetwork_render {n : ZerotierNetwork} (h : PlainTexts n.texts) (ind : Nat) :
    loadNetwork (render (braced ind (networkToks n))) = n := by
  have hr := sound_braced ind (flat_networkToks h).sound
  simp only [ZerotierNetwork.texts, plainTexts_cons] at h
  simp only [loadNetwork, extractJsonBool_render hr, textField_render hr, fieldAt_braced]
  simp [networkToks, copyInto_of_lt, h]

/-- The number of objects is at most the length of their text. -/
theorem length_le_render_objects (ind : Nat) (objs : List (List (Tok Key))) (r : CStr) :
    objs.length ≤ (render (objects ind objs) ++ r).length := by
  induction objs generalizing r with
  | nil => exact Nat.zero_le _
  | cons o os ih =>
    have ih := ih r
    rw [render_objects_cons]
    simp only [List.length_append, List.length_cons] at ih ⊢
    omega

/-- All the objects of an array that is cut by matching braces. -/
theorem bracedOf_objectArray (hs : Sound ts) {objs : List (List (Tok Key))} (hobjs : ∀ o ∈ objs, Inner o)
    (h : seek k ts = some ((objectArray ind k objs stop ++ rest).tail)) :
    bracedOf k (render ts) = objs.map fun o => render (braced (ind + 2) o) := by
  have hle : objs.length ≤ (render (objectArray ind k objs stop ++ rest).tail).length := by
    have hlen := length_le_render_objects (ind + 2) objs (render (.raw (indent ind ++ ']' :: stop) :: rest))
    rw [tail_objectArray, render_cons, render_cons, render_append]
    simp only [List.length_append] at hlen ⊢
    omega
  rw [bracedOf, strstr_render hs, h, Option.map_some, Option.elim_some, bracedAfter_objectArray hobjs hle]

/-- What is read back from such an array, without the records that are dropped. -/
theorem filter_load_objectArray {R : Type} {toks : R → List (Tok Key)} {load : CStr → R} {rs : List R} {n ind : Nat}
    {ts rest : List (Tok Key)} (hs : Sound ts) (hflat : ∀ o ∈ rs.map toks, Flat o)
    (hseek : seek k ts = some ((objectArray ind k (rs.map toks) stop ++ rest).tail))
    (hload : ∀ r ∈ rs, load (render (braced (ind + 2) (toks r))) = r) (hle : rs.length ≤ n) (keep : R → Bool) :
    (((bracedOf k (render ts)).map load).filter keep).take n = rs.filter keep := by
  rw [bracedOf_objectArray hs (fun o ho => (hflat o ho).inner) hseek, map_load_braced hload, List.map_id']
  exact List.take_of_length_le (Nat.le_trans (List.length_filter_le _ _) hle)

def WireguardConfig.reloaded (w : WireguardConfig) : WireguardConfig where
  enabled := w.enabled
  interface := orText w.interface "wg0".toList
  listenPort := orNum w.listenPort 51820
  address := orText w.address "10.250.0.1/24".toList
  privateKey := w.privateKey
  publicKey := w.publicKey
  allowRemoteMgmt := w.allowRemoteMgmt
  peers := w.peers.filter (·.publicKey ≠ [])
  peers_le := Nat.le_trans (List.length_filter_le _ _) w.peers_le

def ZerotierConfig.reloaded (z : ZerotierConfig) : ZerotierConfig where
  enabled := z.enabled
  nodeId := z.nodeId
  allowRemoteMgmt := z.allowRemoteMgmt
  networks := z.networks.filter (·.nwid ≠ [])
  networks_le := Nat.le_trans (List.length_filter_le _ _) z.networks_le

/-- The VPN block as it is read back: peers without a key and networks without an id are dropped. -/
def VpnConfig.reloaded (v : VpnConfig) : VpnConfig where
  wireguard := v.wireguard.reloaded
  zerotier := v.zerotier.reloaded
  tailscale := { v.tailscale with hostname := orText v.tailscale.hostname "FluxWAN".toList }

/-- The end of a block: its brace and what follows it. -/
theorem braceBalanced_wireguardLines {w : WireguardConfig} (h : PlainTexts w.texts) : BraceBalanced (wireguardLines w) :=
  (flat_wireguardHead h).inner.braces.append
    (braceBalanced_objectArray (fun o ho => (flat_peers h o ho).inner.braces) (by decide))

theorem braceBalanced_zerotierLines {z : ZerotierConfig} (h : PlainTexts z.texts) : BraceBalanced (zerotierLines z) :=
  (flat_zerotierHead h).inner.braces.append
    (braceBalanced_objectArray (fun o ho => (flat_networks h o ho).inner.braces) (by decide))

theorem braceBalanced_vpnLines {v : VpnConfig} (hwg : PlainTexts v.wireguard.texts) (hzt : PlainTexts v.zerotier.texts)
    (hts : PlainTexts v.tailscale.texts) : BraceBalanced (vpnLines v) := by
  have hcomma : '"' ∉ [',', '\n'] ∧ '\\' ∉ [',', '\n'] ∧ '\x7b' ∉ [',', '\n'] ∧ '\x7d' ∉ [',', '\n'] := by decide
  have hnewline : '"' ∉ ['\n'] ∧ '\\' ∉ ['\n'] ∧ '\x7b' ∉ ['\n'] ∧ '\x7d' ∉ ['\n'] := by decide
  have hwg' := (braceBalanced_wireguardLines hwg).block 4 .wireguard hcomma
  have hzt' := (braceBalanced_zerotierLines hzt).block 4 .zerotier hcomma
  have hts' := (flat_tailscaleLines hts).inner.braces.block 4 .tailscale hnewline
  have hassoc : vpnLines v =
      (openBlock 4 .wireguard ++ wireguardLines v.wireguard ++ [Tok.raw (indent 4 ++ '\x7d' :: [',', '\n'])]) ++
      ((openBlock 4 .zerotier ++ zerotierLines v.zerotier ++ [Tok.raw (indent 4 ++ '\x7d' :: [',', '\n'])]) ++
      (openBlock 4 .tailscale ++ tailscaleLines v.tailscale ++ [Tok.raw (indent 4 ++ '\x7d' :: ['\n'])])) := by
    simp [vpnLines, closeBlock, closeLast]
  rw [hassoc]
  exact hwg'.append (hzt'.append hts')

/-- A block that is looked for and cut out. -/
theorem objectAfter_seek (hs : Sound ts) (hbody : BraceBalanced body)
    (h : seek k ts = some (.key k :: .raw ['\x7b', '\n'] :: (body ++ .raw (indent ind ++ '\x7d' :: stop) :: rest))) :
    (strstr (render ts) (quoted k)).bind objectAfter = some (render (braced ind body)) := by
  rw [strstr_render hs, h, Option.map_some, Option.bind_some, objectAfter_block hbody]

section
variable {v : VpnConfig} (hwg : PlainTexts v.wireguard.texts) (hzt : PlainTexts v.zerotier.texts)
  (hts : PlainTexts v.tailscale.texts)
include hwg hzt hts

theorem sound_vpn : Sound (braced 2 (vpnLines v)) := sound_braced 2 (written_vpnLines hwg hzt hts).sound

theorem wireguard_object : (strstr (render (braced 2 (vpnLines v))) (quoted Key.wireguard)).bind objectAfter =
    some (render (braced 4 (wireguardLines v.wireguard))) := by
  have hseek : seek .wireguard (braced 2 (vpnLines v)) = some (.key .wireguard :: .raw ['\x7b', '\n'] ::
      (wireguardLines v.wireguard ++ .raw (indent 4 ++ '\x7d' :: [',', '\n']) ::
        (openBlock 4 .zerotier ++ (zerotierLines v.zerotier ++ (closeBlock 4 ++ (openBlock 4 .tailscale ++
          (tailscaleLines v.tailscale ++ (closeLast 4 ++ [.raw (indent 2 ++ ['\x7d'])])))))))) := by
    simp [braced, vpnLines, openBlock, closeBlock]
  exact objectAfter_seek (sound_vpn hwg hzt hts) (braceBalanced_wireguardLines hwg) hseek

theorem zerotier_object : (strstr (render (braced 2 (vpnLines v))) (quoted Key.zerotier)).bind objectAfter =
    some (render (braced 4 (zerotierLines v.zerotier))) := by
  have hskip := (written_wireguardLines hwg).seek (k := .zerotier) rfl (by decide)
  have hseek : seek .zerotier (braced 2 (vpnLines v)) = some (.key .zerotier :: .raw ['\x7b', '\n'] ::
      (zerotierLines v.zerotier ++ .raw (indent 4 ++ '\x7d' :: [',', '\n']) ::
        (openBlock 4 .tailscale ++ (tailscaleLines v.tailscale ++ (closeLast 4 ++ [.raw (indent 2 ++ ['\x7d'])]))))) := by
    simp [braced, vpnLines, openBlock, closeBlock, seek_append, hskip]
  exact objectAfter_seek (sound_vpn hwg hzt hts) (braceBalanced_zerotierLines hzt) hseek

theorem tailscale_object : (strstr (render (braced 2 (vpnLines v))) (quoted Key.tailscale)).bind objectAfter =
    some (render (braced 4 (tailscaleLines v.tailscale))) := by
  have hskip := (written_wireguardLines hwg).seek (k := .tailscale) rfl (by decide)
  have hskip' := (written_zerotierLines hzt).seek (k := .tailscale) rfl (by decide)
  have hseek : seek .tailscale (braced 2 (vpnLines v)) = some (.key .tailscale :: .raw ['\x7b', '\n'] ::
      (tailscaleLines v.tailscale ++ .raw (indent 4 ++ '\x7d' :: ['\n']) :: [.raw (indent 2 ++ ['\x7d'])])) := by
    simp [braced, vpnLines, openBlock, closeBlock, closeLast, seek_append, hskip, hskip']
  exact objectAfter_seek (sound_vpn hwg hzt hts) (flat_tailscaleLines hts).inner.braces hseek

theorem loadWireguard_render : loadWireguard (some (render (braced 2 (vpnLines v)))) = v.wireguard.reloaded := by
  have hr : Sound (braced 4 (wireguardLines v.wireguard)) := sound_braced 4 (written_wireguardLines hwg).sound
  have hseek : seek .peers (braced 4 (wireguardLines v.wireguard)) =
      some ((objectArray 6 .peers (v.wireguard.peers.map peerToks) ['\n'] ++ [Tok.raw (indent 4 ++ ['\x7d'])]).tail) := by
    simp [braced, wireguardLines, line, objectArray]
  have htexts := hwg
  simp only [WireguardConfig.texts, plainTexts_append, plainTexts_cons, plainTexts_flatMap] at htexts
  have hpeers := filter_load_objectArray hr (flat_peers hwg) hseek (fun p hp => loadPeer_render (htexts.2 p hp) _)
    v.wireguard.peers_le (·.publicKey ≠ [])
  unfold loadWireguard
  simp only [Option.bind_some, wireguard_object hwg hzt hts, hpeers]
  simp only [extractJsonBool_render hr, extractJsonU16_render hr, textField_render hr, textFieldD_render hr, fieldAt_braced]
  simp [wireguardLines, copyInto_of_lt, copyInto_orText, htexts, WireguardConfig.reloaded, maxIfnameLen]

theorem loadZerotier_render : loadZerotier (some (render (braced 2 (vpnLines v)))) = v.zerotier.reloaded := by
  have hr : Sound (braced 4 (zerotierLines v.zerotier)) := sound_braced 4 (written_zerotierLines hzt).sound
  have hseek : seek .networks (braced 4 (zerotierLines v.zerotier)) =
      some ((objectArray 6 .networks (v.zerotier.networks.map networkToks) ['\n'] ++ [Tok.raw (indent 4 ++ ['\x7d'])]).tail) := by
    simp [braced, zerotierLines, line, objectArray]
  have htexts := hzt
  simp only [ZerotierConfig.texts, plainTexts_append, plainTexts_cons, plainTexts_flatMap] at htexts
  have hnetworks := filter_load_objectArray hr (flat_networks hzt) hseek (fun n hn => loadNetwork_render (htexts.2 n hn) _)
    v.zerotier.networks_le (·.nwid ≠ [])
  unfold loadZerotier
  simp only [Option.bind_some, zerotier_object hwg hzt hts, hnetworks]
  simp only [extractJsonBool_render hr, textField_render hr, fieldAt_braced]
  simp [zerotierLines, copyInto_of_lt, htexts, ZerotierConfig.reloaded]

theorem loadTailscale_render : loadTailscale (some (render (braced 2 (vpnLines v)))) =
    { v.tailscale with hostname := orText v.tailscale.hostname "FluxWAN".toList } := by
  have hr : Sound (braced 4 (tailscaleLines v.tailscale)) := sound_braced 4 (flat_tailscaleLines hts).sound
  have htexts := hts
  simp only [TailscaleConfig.texts, plainTexts_cons] at htexts
  unfold loadTailscale
  simp only [Option.bind_some, tailscale_object hwg hzt hts]
  simp only [extractJsonBool_render hr, textField_render hr, textFieldD_render hr, fieldAt_braced]
  simp [tailscaleLines, copyInto_of_lt, copyInto_orText, htexts]

end

theorem loadVpn_render (hs : Sound ts) {v : VpnConfig} (hwg : PlainTexts v.wireguard.texts)
    (hzt : PlainTexts v.zerotier.texts) (hts : PlainTexts v.tailscale.texts)
    (h : seek .vpn ts = some (.key .vpn :: .raw ['\x7b', '\n'] :: (vpnLines v ++ .raw (indent 2 ++ '\x7d' :: stop) :: rest))) :
    loadVpn (render ts) = v.reloaded := by
  simp only [loadVpn, objectAfter_seek hs (braceBalanced_vpnLines hwg hzt hts) h, loadWireguard_render hwg hzt hts,
    loadZerotier_render hwg hzt hts, loadTailscale_render hwg hzt hts, VpnConfig.reloaded]

/-! ## Address lists -/

/-- The entries as they are read back: without the empty ones, and with the type their text has. -/
def reloadedEntries (es : List AddressListEntry) : List AddressListEntry :=
  ((es.map (·.value)).filter (· ≠ [])).map addressEntry

theorem length_reloadedEntries_le (es : List AddressListEntry) : (reloadedEntries es).length ≤ es.length := by
  rw [reloadedEntries, List.length_map]
  exact (List.length_filter_le _ _).trans_eq (List.length_map _)

def AddressList.reloaded (al : AddressList) : AddressList where
  name := al.name
  description := al.description
  targetType := orText al.targetType "group".toList
  targetId := al.targetId
  targetName := al.targetName
  enabled := al.enabled
  entries := reloadedEntries al.entries
  entries_le := Nat.le_trans (length_reloadedEntries_le al.entries) al.entries_le

theorem bracketBalanced_entryToks (h : ∀ x ∈ xs, PlainText Key x) : BracketBalanced (entryToks xs) := by
  have hall : Unbracketed (quotedAll (',' :: '\n' :: indent 8) xs) := unbracketed_quotedAll (by simp) h
  have htext : Unbracketed (render (entryToks xs)) := by
    rw [render_entryToks]
    simp [hall, unbracketed_entriesPad]
  exact htext.passed

/-- The entries of a list in the text, from their key on. -/
theorem seek_entries (al : AddressList) (ind : Nat) : seek .entries (braced ind (addressListToks al)) =
    some (.key .entries :: .raw ['[', '\n'] :: (entryToks (al.entries.map (·.value)) ++
      .raw (indent 6 ++ ']' :: ['\n']) :: [.raw (indent ind ++ ['\x7d'])])) := by
  simp [braced, addressListToks, line]

theorem loadEntries_render {al : AddressList} (h : PlainTexts al.texts) (ind : Nat) :
    loadEntries (render (braced ind (addressListToks al))) = reloadedEntries al.entries := by
  have hr := sound_braced ind (inner_addressListToks h).sound
  have hplain := plain_entries h
  have hle : al.entries.length ≤ maxEntriesPerList := al.entries_le
  simp only [AddressList.texts, plainTexts_append, plainTexts_map] at h
  generalize hxs : al.entries.map (·.value) = xs at hplain
  generalize hafter : '\n' :: render [(Tok.raw (indent ind ++ ['\x7d']) : Tok Key)] = after
  have harray : (strstr (render (braced ind (addressListToks al))) (quoted Key.entries)).bind arrayFrom =
      some ('[' :: (['\n'] ++ (render (entryToks xs) ++ (indent 6 ++ ']' :: after))), ']' :: after) := by
    rw [strstr_render hr, seek_entries, hxs, Option.map_some, Option.bind_some, ← hafter]
    exact arrayFrom_render (by decide) (bracketBalanced_entryToks hplain) (by decide) _
  have hassoc : '[' :: (['\n'] ++ (render (entryToks xs) ++ (indent 6 ++ ']' :: after))) =
      ('[' :: '\n' :: entriesPad xs (indent 8)) ++ (quotedAll (',' :: '\n' :: indent 8) xs ++
        ((entriesPad xs ['\n'] ++ indent 6) ++ ']' :: after)) := by
    rw [render_entryToks]
    simp
  have hsep : '"' ∉ ',' :: '\n' :: indent 8 := by decide
  have hpad {pad : CStr} (hp : '"' ∉ pad) : '"' ∉ entriesPad xs pad := fun hq => hp (mem_of_mem_entriesPad hq)
  have hpost : '"' ∉ entriesPad xs ['\n'] ++ indent 6 := by simp [hpad]
  have hpre : '"' ∉ '[' :: '\n' :: entriesPad xs (indent 8) := by simp [hpad]
  have hlen : xs.length ≤ ('[' :: (['\n'] ++ (render (entryToks xs) ++ (indent 6 ++ ']' :: after)))).length := by
    have hq := length_le_quotedAll (',' :: '\n' :: indent 8) xs
    rw [hassoc]
    simp only [List.length_append]
    omega
  have hnames := quotedNames_quotedAll 128 hsep hpost after (fun x hx => (hplain x hx).quote_not_mem) hlen _ hpre
  have hfits : xs.map (copyInto 128) = xs := by
    refine (List.map_congr_left fun x hx => ?_).trans (List.map_id _)
    rw [← hxs] at hx
    obtain ⟨e, he, rfl⟩ := List.mem_map.mp hx
    exact copyInto_of_lt (h.2 e he).2
  rw [← hassoc, hfits] at hnames
  have hshort : ((xs.filter (· ≠ [])).map addressEntry).length ≤ maxEntriesPerList := by
    have hfilter := List.length_filter_le (· ≠ []) xs
    have hxslen : xs.length = al.entries.length := by rw [← hxs, List.length_map]
    rw [List.length_map]
    omega
  unfold loadEntries
  simp only [harray, hnames, reloadedEntries, hxs]
  exact List.take_of_length_le hshort

theorem loadAddressList_render {al : AddressList} (h : PlainTexts al.texts) (ind : Nat) :
    loadAddressList (render (braced ind (addressListToks al))) = al.reloaded := by
  have hr := sound_braced ind (inner_addressListToks h).sound
  have hentries := loadEntries_render h ind
  simp only [AddressList.texts, plainTexts_append, plainTexts_cons] at h
  simp only [loadAddressList, hentries]
  simp only [extractJsonBool_render hr, extractJsonU32_render hr, textField_render hr, textFieldD_render hr, fieldAt_braced]
  simp [addressListToks_eq, addressListLines, copyInto_of_lt, copyInto_orText, h, AddressList.reloaded]

theorem loadAddressLists_render (hs : Sound ts) {lists : List AddressList}
    (ht : ∀ al ∈ lists, PlainTexts al.texts) (hle : lists.length ≤ maxAddressLists)
    (h : seek .addressLists ts = if lists = [] then none
      else some ((objectArray 2 .addressLists (lists.map addressListToks) ['\n'] ++ rest).tail))
    (wans : List WanConfig) (groups : List WanGroup) :
    loadAddressLists (render ts) wans groups = lists.map fun al => resolveTarget wans groups al.reloaded := by
  have hinner : ∀ o ∈ lists.map addressListToks, Inner o :=
    List.forall_mem_map.mpr fun al hal => inner_addressListToks (ht al hal)
  rw [loadAddressLists, strstr_render hs, h]
  by_cases hnil : lists = []
  · rw [if_pos hnil, hnil]
    rfl
  · rw [if_neg hnil, Option.map_some, Option.elim_some,
      bracedAfter_objectArray hinner ((List.length_map addressListToks).trans_le hle), List.map_map, List.map_map]
    exact List.map_congr_left fun al hal => congrArg (resolveTarget wans groups) (loadAddressList_render (ht al hal) _)

end FluxWAN
