/-
  Reading back one WAN.
-/
import FluxWAN.WanReload

namespace FluxWAN

open CString QuotedText

/-! ## Optional lines -/

@[simp] theorem fieldAt_pppToks (hu : Key.username ≠ k) (hp : Key.password ≠ k) (w : WanConfig) :
    fieldAt k (pppToks w) = none := by
  simp [pppToks, hu, hp]

@[simp] theorem fieldAt_wifiToks (hi : Key.wifiSsid ≠ k) (hp : Key.wifiPassword ≠ k) (hc : Key.wifiSecurity ≠ k)
    (w : WanConfig) : fieldAt k (wifiToks w) = none := by
  simp [-String.reduceToList, wifiToks, hi, hp, hc]

@[simp] theorem fieldAt_macToks (hm : Key.mac ≠ k) (w : WanConfig) : fieldAt k (macToks w) = none := by
  simp [macToks, hm]

/-- The keys of a tunnel. -/
def Key.isProxy : Key → Bool
  | .proxyProto | .proxyServer | .proxyPort | .proxyUuid | .proxySni | .proxyHost | .proxyPath | .proxyTransport
  | .proxySecurity | .proxyEncryption | .proxyStrategy | .proxyStrategyStr | .proxyRawUri | .proxyRawUri2
  | .proxyRawUri3 | .proxyTunDev => true
  | _ => false

/-- The end of a WAN: its tunnel. -/
def tunnelToks (w : WanConfig) : List (Tok Key) :=
  if w.hasProxy then proxyToks w.proxy else lastLine 6 .proxyProto (.str "vless".toList)

@[simp] theorem fieldAt_tunnelToks {k : Key} (hk : k.isProxy = false) (w : WanConfig) : fieldAt k (tunnelToks w) = none := by
  have hne {k' : Key} (hk' : k'.isProxy = true) : k' ≠ k := by
    rintro rfl
    exact absurd (hk.symm.trans hk') (by decide)
  simp [-String.reduceToList, tunnelToks, proxyToks, hne, Key.isProxy.eq_def]

/-- The lines that every WAN has before its optional ones. -/
def identityToks (w : WanConfig) : List (Tok Key) :=
  line 6 .id (.num w.id.toNat) ++ line 6 .name (.str w.name) ++ line 6 .label (.str w.label) ++
  line 6 .type (.str w.type.text)

/-- The lines that every WAN has behind its optional ones. -/
def linkToks (w : WanConfig) : List (Tok Key) :=
  line 6 .ip (.str (ipToStr w.ipAddr)) ++ line 6 .netmask (.str (ipToStr w.netmask)) ++
  line 6 .gateway (.str (ipToStr w.gateway)) ++ line 6 .probeTarget (.str (orText w.probeTarget "8.8.8.8".toList)) ++
  line 6 .weight (.num w.configWeight.toNat) ++ line 6 .bandwidthDownMbps (.num w.bandwidthDownMbps.toNat) ++
  line 6 .bandwidthUpMbps (.num w.bandwidthUpMbps.toNat) ++ line 6 .enabled (.flag w.enabled) ++
  line 6 .tableId (.num w.tableId.toNat) ++ line 6 .proxyEnabled (.flag w.proxyEnabled)

theorem wanToks_eq (w : WanConfig) :
    wanToks w = identityToks w ++ (pppToks w ++ (wifiToks w ++ (macToks w ++ (linkToks w ++ tunnelToks w)))) := by
  simp [-String.reduceToList, wanToks, identityToks, linkToks, tunnelToks]

/-! ## What is read back -/

/-- The strategies that have a name in the file. -/
def ProxyStrategy.reloaded : ProxyStrategy → ProxyStrategy
  | leastLoad => leastLoad
  | roundRobin => roundRobin
  | _ => failover

/-- The fields of the tunnel that are in the file. -/
def ProxyConfig.written (p : ProxyConfig) (ifname : CStr) : ProxyConfig :=
  let rawUri := copyInto 1024 (orText p.servers0.fields.rawUri p.primary.rawUri)
  { strategy := p.strategy.reloaded
    primary :=
      { p.primary with
        proto := proxyProtoOf (orText p.primary.protoStr "vless".toList)
        protoStr := orText p.primary.protoStr "vless".toList
        port := orNum p.primary.port 443
        transport := orText p.primary.transport "ws".toList
        security := orText p.primary.security "tls".toList
        rawUri }
    servers0 := { fields := { rawUri } }
    servers1 := { fields := { rawUri := p.servers1.fields.rawUri } }
    servers2 := { fields := { rawUri := p.servers2.fields.rawUri } }
    tunDev := p.tunDev
    bindInterface := copyInto 32 ifname }

/-- The tunnel of a WAN that has none. -/
def ProxyConfig.unused (ifname : CStr) : ProxyConfig where
  primary := { proto := .vless, protoStr := "vless".toList, port := 443 }
  bindInterface := copyInto 32 ifname

/-- The tunnel as it is read back. -/
def WanConfig.reloadedProxy (w : WanConfig) : ProxyConfig :=
  if w.hasProxy then
    let p := w.proxy.written w.name
    if w.proxyEnabled = true ∨ p.primary.rawUri ≠ [] ∨ p.servers1.fields.rawUri ≠ [] then syncServers p else p
  else .unused w.name

/-- The wireless settings are written. -/
def WanConfig.hasWifi (w : WanConfig) : Bool := w.type = .wifi || w.wifiSsid ≠ []

/-- One WAN as it is read back: the state follows `enabled`, MTU and MSS are the defaults. -/
def WanConfig.reloaded (w : WanConfig) : WanConfig where
  id := w.id
  name := w.name
  label := w.label
  type := w.type
  ipAddr := w.ipAddr
  netmask := w.netmask
  gateway := w.gateway
  tableId := w.tableId
  configWeight := w.configWeight
  dynamicWeight := if w.enabled then w.configWeight else 0
  bandwidthDownMbps := w.bandwidthDownMbps
  state := if w.enabled then .healthy else .down
  enabled := w.enabled
  probeTarget := orText w.probeTarget "8.8.8.8".toList
  probeTargetIp := strToIp (orText w.probeTarget "8.8.8.8".toList)
  mtu := 1500
  proxyEnabled := w.proxyEnabled
  customMac := w.customMac
  pppUsername := w.pppUsername
  pppPassword := w.pppPassword
  mssClamping := 1452
  wifiSsid := w.wifiSsid
  wifiPassword := if w.hasWifi then w.wifiPassword else []
  wifiSecurity := if w.hasWifi then orText w.wifiSecurity "WPA2-PSK".toList else []
  bandwidthUpMbps := w.bandwidthUpMbps
  linkMtu := 1500
  proxy := w.reloadedProxy

/-! ## Optional settings -/

section
variable {w : WanConfig} (h : PlainTexts w.texts) (ind : Nat)
include h

theorem sound_wan : Sound (braced ind (wanToks w)) := sound_braced ind (flat_wanToks h).sound

/-- The credentials are left out only if there are none. -/
theorem credentials_render :
    textField2 (render (braced ind (wanToks w))) .pppUsername .username 256 64 = w.pppUsername ∧
    textField2 (render (braced ind (wanToks w))) .pppPassword .password 256 64 = w.pppPassword := by
  have hr := sound_wan h ind
  simp only [WanConfig.texts, plainTexts_append, plainTexts_cons] at h
  simp only [textField2, extractJsonString_render hr, fieldAt_braced]
  by_cases hppp : w.type = .pppoe ∨ w.pppUsername ≠ [] ∨ w.pppPassword ≠ []
  · have htoks : pppToks w = line 6 .username (.str w.pppUsername) ++ line 6 .password (.str w.pppPassword) := if_pos hppp
    simp [wanToks_eq, htoks, identityToks, linkToks, Key.isProxy.eq_def, copyInto_of_lt, h]
  · have htoks : pppToks w = [] := if_neg hppp
    have hnone : w.pppUsername = [] ∧ w.pppPassword = [] := by
      simp only [not_or, not_not] at hppp
      exact hppp.2
    simp [wanToks_eq, htoks, hnone, identityToks, linkToks, Key.isProxy.eq_def]

theorem customMac_render : textField2 (render (braced ind (wanToks w))) .mac .customMac 256 20 = w.customMac := by
  have hr := sound_wan h ind
  simp only [WanConfig.texts, plainTexts_append, plainTexts_cons] at h
  simp only [textField2, extractJsonString_render hr, fieldAt_braced]
  by_cases hmac : w.customMac = []
  · have htoks : macToks w = [] := if_neg (not_not.mpr hmac)
    simp [wanToks_eq, htoks, hmac, identityToks, linkToks, Key.isProxy.eq_def]
  · have htoks : macToks w = line 6 .mac (.str w.customMac) := if_pos hmac
    simp [wanToks_eq, htoks, identityToks, linkToks, Key.isProxy.eq_def, copyInto_of_lt, h]

theorem loadType_render : loadType (render (braced ind (wanToks w))) = w.type := by
  have hr := sound_wan h ind
  have hvalue : extractJsonString (render (braced ind (wanToks w))) Key.type.text 256 = some (copyInto 256 w.type.text) := by
    rw [extractJsonString_render hr, fieldAt_braced]
    simp [wanToks_eq, identityToks]
  rw [loadType, hvalue]
  cases w.type <;> decide

/-- The state is not in the file. -/
theorem loadState_render : loadState (render (braced ind (wanToks w))) w.enabled = if w.enabled then .healthy else .down := by
  have hr := sound_wan h ind
  have hvalue : extractJsonString (render (braced ind (wanToks w))) Key.state.text 32 = none := by
    rw [extractJsonString_render hr, fieldAt_braced]
    simp [wanToks_eq, identityToks, linkToks, Key.isProxy.eq_def]
  rw [loadState, hvalue]

/-- The wireless settings of a WAN that is not wireless are kept only if it has an SSID. -/
theorem wifi_render :
    textField2 (render (braced ind (wanToks w))) .wifiSsid .ssid 256 64 = w.wifiSsid ∧
    textField (render (braced ind (wanToks w))) .wifiPassword 256 64 = (if w.hasWifi then w.wifiPassword else []) ∧
    loadWifiSecurity (render (braced ind (wanToks w))) =
      (if w.hasWifi then orText w.wifiSecurity "WPA2-PSK".toList else []) := by
  have hr := sound_wan h ind
  have htype := loadType_render h ind
  simp only [WanConfig.texts, plainTexts_append, plainTexts_cons] at h
  obtain ⟨⟨-, -, -, -, hssid, hpass, hsec, -⟩, -⟩ := h
  have hsec' : (orText w.wifiSecurity "WPA2-PSK".toList).length < 16 := length_orText_lt hsec.2 (by decide)
  simp only [textField2, textField, loadWifiSecurity, textFieldD, htype, extractJsonString_render hr, fieldAt_braced]
  by_cases hwifi : w.type = .wifi ∨ w.wifiSsid ≠ []
  · have htoks : wifiToks w = line 6 .wifiSsid (.str w.wifiSsid) ++ line 6 .wifiPassword (.str w.wifiPassword) ++
        line 6 .wifiSecurity (.str (orText w.wifiSecurity "WPA2-PSK".toList)) := if_pos hwifi
    have hhas : w.hasWifi = true := by simpa [WanConfig.hasWifi] using hwifi
    simp [-String.reduceToList, wanToks_eq, htoks, hhas, identityToks, linkToks, Key.isProxy.eq_def, copyInto_of_lt, hssid,
      hpass, hsec']
  · have htoks : wifiToks w = [] := if_neg hwifi
    have hhas : w.hasWifi = false := by simpa [WanConfig.hasWifi] using hwifi
    simp only [not_or, not_not] at hwifi
    simp [-String.reduceToList, wanToks_eq, htoks, hhas, hwifi, identityToks, linkToks, Key.isProxy.eq_def]

end

/-! ## The tunnel -/

/-- The lines of a tunnel before the optional one. -/
def proxyHead (p : ProxyConfig) : List (Tok Key) :=
  line 6 .proxyProto (.str (orText p.primary.protoStr "vless".toList)) ++ line 6 .proxyServer (.str p.primary.server) ++
  line 6 .proxyPort (.num (orNum p.primary.port 443).toNat) ++ line 6 .proxyUuid (.str p.primary.uuid) ++
  line 6 .proxySni (.str p.primary.sni) ++ line 6 .proxyHost (.str p.primary.host) ++
  line 6 .proxyPath (.str p.primary.path) ++ line 6 .proxyTransport (.str (orText p.primary.transport "ws".toList)) ++
  line 6 .proxySecurity (.str (orText p.primary.security "tls".toList))

def encryptionToks (p : ProxyConfig) : List (Tok Key) :=
  if p.primary.encryption ≠ [] then line 6 .proxyEncryption (.str p.primary.encryption) else []

/-- The lines behind it. -/
def proxyTail (p : ProxyConfig) : List (Tok Key) :=
  line 6 .proxyStrategy (.int p.strategy.toInt) ++ line 6 .proxyStrategyStr (.str p.strategy.text) ++
  line 6 .proxyRawUri (.str (orText p.servers0.fields.rawUri p.primary.rawUri)) ++
  line 6 .proxyRawUri2 (.str p.servers1.fields.rawUri) ++
  line 6 .proxyRawUri3 (.str p.servers2.fields.rawUri) ++ lastLine 6 .proxyTunDev (.str p.tunDev)

theorem proxyToks_eq : proxyToks p = proxyHead p ++ (encryptionToks p ++ proxyTail p) := by
  simp [-String.reduceToList, proxyToks, proxyHead, encryptionToks, proxyTail]

@[simp] theorem fieldAt_encryptionToks (hk : Key.proxyEncryption ≠ k) : fieldAt k (encryptionToks p) = none := by
  simp [encryptionToks, hk]

/-- The keys of a tunnel are looked for in its own lines. -/
theorem fieldAt_tunnel {w : WanConfig} (hproxy : w.hasProxy = true) {k : Key} (hk : k.isProxy = true) :
    fieldAt k (wanToks w) = fieldAt k (proxyToks w.proxy) := by
  have htunnel : tunnelToks w = proxyToks w.proxy := if_pos hproxy
  have hne {k' : Key} (hk' : k'.isProxy = false) : k' ≠ k := by
    rintro rfl
    exact absurd (hk.symm.trans hk') (by decide)
  simp [-String.reduceToList, wanToks_eq, htunnel, identityToks, linkToks, hne, Key.isProxy.eq_def]

/-- A tunnel that is in use is read back from its lines. -/
theorem readProxy_render {w : WanConfig} (h : PlainTexts w.texts) (hproxy : w.hasProxy = true) (ind : Nat) :
    readProxy (render (braced ind (wanToks w))) w.name = w.proxy.written w.name := by
  have hr := sound_wan h ind
  have hfield {k : Key} (hk : k.isProxy = true) : fieldAt k (braced ind (wanToks w)) =
      (fieldAt k (proxyToks w.proxy)).map (· ++ [.raw (indent ind ++ ['\x7d'])]) := by
    rw [fieldAt_braced, fieldAt_tunnel hproxy hk]
  have hstrategy : loadStrategy (render (braced ind (wanToks w))) = w.proxy.strategy.reloaded := by
    have hvalue : valueAt .proxyStrategyStr (braced ind (wanToks w)) = some (.str w.proxy.strategy.text) := by
      rw [valueAt, hfield rfl]
      simp [-String.reduceToList, proxyToks_eq, proxyHead, proxyTail]
    rw [loadStrategy, extractJsonString_valueAt hr 32 hvalue]
    cases w.proxy.strategy <;> rfl
  simp only [WanConfig.texts, plainTexts_append, ProxyConfig.texts, plainTexts_cons] at h
  have hproto : w.proxy.primary.protoStr.length < 256 := by omega
  have hencryption' : textField (render (braced ind (wanToks w))) .proxyEncryption 256 256 = w.proxy.primary.encryption := by
    rw [textField, extractJsonString_render hr, hfield rfl]
    by_cases hnil : w.proxy.primary.encryption = []
    · simp [-String.reduceToList, proxyToks_eq, proxyHead, proxyTail, encryptionToks, hnil]
    · simp [-String.reduceToList, proxyToks_eq, proxyHead, proxyTail, encryptionToks, hnil, copyInto_of_lt, h]
  simp only [readProxy, hstrategy, hencryption']
  simp only [textField, extractJsonString_render hr, extractJsonU16_render hr, hfield, Key.isProxy.eq_def]
  simp [proxyToks_eq, proxyHead, proxyTail, ProxyConfig.written, copyInto_of_lt, copyInto_orText, h, hproto]

theorem readProxy_unused {w : WanConfig} (h : PlainTexts w.texts) (hproxy : w.hasProxy = false) (ind : Nat) :
    readProxy (render (braced ind (wanToks w))) w.name = .unused w.name := by
  have hr := sound_wan h ind
  have htunnel : tunnelToks w = lastLine 6 .proxyProto (.str "vless".toList) := if_neg (by simp [hproxy])
  have hstrategy : ProxyStrategy.ofInt 0 = .failover := rfl
  have hproto : proxyProtoOf (copyInto 256 "vless".toList) = .vless := by decide
  have hvless : copyInto 16 "vless".toList = "vless".toList := by decide
  simp only [readProxy, loadStrategy, textField, extractJsonString_render hr, extractJsonU16_render hr,
    extractJsonInt_render hr, fieldAt_braced]
  simp [-String.reduceToList, wanToks_eq, htunnel, identityToks, linkToks, ProxyConfig.unused, hstrategy, hproto, hvless]

theorem loadProxy_render {w : WanConfig} (h : PlainTexts w.texts) (ind : Nat) :
    loadProxy (render (braced ind (wanToks w))) w.name w.proxyEnabled = w.reloadedProxy := by
  unfold loadProxy WanConfig.reloadedProxy
  cases hproxy : w.hasProxy with
  | true => simp only [readProxy_render h hproxy ind, if_true]
  | false =>
    have hoff : w.proxyEnabled = false := by
      simp only [WanConfig.hasProxy, Bool.or_eq_false_iff] at hproxy
      exact hproxy.1.1.1
    simp only [readProxy_unused h hproxy ind, hoff]
    rfl

/-! ## One WAN -/

theorem loadWan_render {w : WanConfig} (h : PlainTexts w.texts) (idx ind : Nat) :
    loadWan idx (render (braced ind (wanToks w))) = w.reloaded := by
  have hr := sound_wan h ind
  obtain ⟨huser, hpass⟩ := credentials_render h ind
  obtain ⟨hssid, hwpass, hwsec⟩ := wifi_render h ind
  have hmac := customMac_render h ind
  have htype := loadType_render h ind
  have hstate := loadState_render h ind
  have hproxy := loadProxy_render h ind
  simp only [WanConfig.texts, plainTexts_append, plainTexts_cons] at h
  obtain ⟨⟨hname, hlabel, -, -, -, -, -, -, hprobe, -⟩, -⟩ := h
  have hprobe' : (orText w.probeTarget "8.8.8.8".toList).length < 64 := length_orText_lt hprobe.2 (by decide)
  have hprobe'' : (orText w.probeTarget "8.8.8.8".toList).length < 256 := Nat.lt_trans hprobe' (by decide)
  have hname' : textField (render (braced ind (wanToks w))) .name 256 maxIfnameLen = w.name := by
    rw [textField, extractJsonString_render hr, fieldAt_braced]
    simp [wanToks_eq, identityToks, copyInto_of_lt, hname, maxIfnameLen]
  have henabled : extractJsonBool (render (braced ind (wanToks w))) Key.enabled.text true = w.enabled := by
    rw [extractJsonBool_render hr, fieldAt_braced]
    simp [wanToks_eq, identityToks, linkToks]
  have henabled' : extractJsonBool (render (braced ind (wanToks w))) Key.proxyEnabled.text false = w.proxyEnabled := by
    rw [extractJsonBool_render hr, fieldAt_braced]
    simp [wanToks_eq, identityToks, linkToks, Key.isProxy.eq_def]
  have hweight (x : UInt32) : (if w.enabled = false then 0
      else if (if w.enabled = true then WanState.healthy else .down) = .draining then 0 else x) =
        if w.enabled = true then x else 0 := by
    cases w.enabled <;> rfl
  simp only [loadWan, hname', henabled, henabled', hstate, hweight, huser, hpass, hssid, hwpass, hwsec, hmac, htype,
    hproxy]
  simp only [ipField, textField, extractJsonU32_render hr, extractJsonU16_render hr, extractJsonString_render hr,
    fieldAt_braced]
  simp [-String.reduceToList, wanToks_eq, identityToks, linkToks, Key.isProxy.eq_def, copyInto_of_lt, hlabel,
    hprobe', hprobe'', copyInto_ipToStr, strToIp_ipToStr, WanConfig.reloaded, maxLabelLen]

end FluxWAN
