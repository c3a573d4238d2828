/-
  Reading back what `config_save` wrote.
-/
import FluxWAN.ConfigPlain

namespace FluxWAN

open CString QuotedText

variable {bs : List Key} {k : Key} {n : Nat}

/-! ## Finding a section -/

/-- A section that does not open the block is passed over. -/
theorem seek_append_of_written (h : Written bs ts)
    (hk : k.isBlock = true) (hn : k ∉ bs) : seek k (ts ++ us) = seek k us := by
  rw [seek_append, h.seek hk hn]
  rfl

/-- A section that opens the block is found at its start. -/
theorem seek_tail {ts us : List (Tok Key)} (h : ts = .raw s :: .key k :: us) : seek k ts = some ts.tail := by
  simp [h]

/-! ## Text fields -/

/-- A text copied twice is cut to the smaller array. -/
@[simp] theorem copyInto_copyInto (m n : Nat) (s : CStr) : copyInto m (copyInto n s) = copyInto (min m n) s := by
  have hmin : min (m - 1) (n - 1) = min m n - 1 := by omega
  show (s.take (n - 1)).take (m - 1) = s.take (min m n - 1)
  rw [List.take_take, hmin]

theorem textField_render (hs : Sound ts) (k : Key) (n m : Nat) :
    textField (render ts) k n m = ((fieldAt k ts).elim none (strToks n)).elim [] (copyInto m) := by
  rw [textField, extractJsonString_render hs]

theorem textFieldD_render (hs : Sound ts) (k : Key) (n m : Nat) :
    textFieldD (render ts) k n m dflt = ((fieldAt k ts).elim none (strToks n)).elim dflt (copyInto m) := by
  rw [textFieldD, extractJsonString_render hs]

/-- The value written behind a key. -/
def valueAt (k : Key) (ts : List (Tok Key)) : Option Value :=
  (fieldAt k ts).bind fun
    | .val v _ :: _ => some v
    | _ => none

theorem extractJsonString_valueAt (hs : Sound ts) (n : Nat)
    (h : valueAt k ts = some (.str s)) : extractJsonString (render ts) k.text n = some (copyInto n s) := by
  rw [extractJsonString_render hs]
  unfold valueAt at h
  cases hfield : fieldAt k ts with
  | none => rw [hfield] at h; exact absurd h (by simp)
  | some r =>
    rw [hfield, Option.bind_some] at h
    split at h
    · obtain rfl := Option.some.inj h
      rfl
    · exact absurd h (by simp)

theorem ipToStr_ne_zeros {ip : UInt32} (h : ip ≠ 0) : ipToStr ip ≠ "0.0.0.0".toList := by
  intro heq
  have hzero : strToIp "0.0.0.0".toList = 0 := by decide
  rw [← heq, strToIp_ipToStr] at hzero
  exact h hzero

theorem ipToStr_ne_nil (ip : UInt32) : ipToStr ip ≠ [] := by
  rw [ipToStr_eq]
  simp

theorem copyInto_ipToStr (hn : 16 ≤ n) (ip : UInt32) : copyInto n (ipToStr ip) = ipToStr ip :=
  copyInto_of_lt (Nat.lt_of_lt_of_le (length_ipToStr ip) hn)

theorem orNum_ne_zero {x dflt : UInt32} (hd : dflt ≠ 0) : orNum x dflt ≠ 0 := by
  unfold orNum
  split
  · assumption
  · exact hd

/-- An address of the LAN is never written as zero, so it is read back. -/
theorem lanAddress_render {ts : List (Tok Key)} (hs : Sound ts) {ip : UInt32} {dflt : CStr}
    (hd : strToIp dflt ≠ 0) (h : valueAt k ts = some (.str (orIp ip dflt))) :
    lanAddress (render ts) k dflt = orNum ip (strToIp dflt) := by
  have hval : extractJsonString (render ts) k.text 64 = some (ipToStr (orNum ip (strToIp dflt))) := by
    rw [extractJsonString_valueAt hs 64 h, orIp, copyInto_ipToStr (by decide)]
  have hne : ipToStr (orNum ip (strToIp dflt)) ≠ [] ∧ ipToStr (orNum ip (strToIp dflt)) ≠ "0.0.0.0".toList :=
    ⟨ipToStr_ne_nil _, ipToStr_ne_zeros (orNum_ne_zero hd)⟩
  rw [lanAddress, hval]
  show (if _ then _ else _) = _
  rw [if_pos hne, strToIp_ipToStr]

/-! ## Flat sections -/

section
variable {ts rest : List (Tok Key)} (hs : Sound ts)
include hs

theorem loadProber_render (h : seek .prober ts = some ((proberToks p ++ rest).tail)) :
    loadProber (render ts) = { p with maxAcceptableLossPct := p.maxAcceptableLossPct.atTenths.toFloat } := by
  have hr := sound_of_seek hs h
  rw [loadProber, strstr_render hs, h]
  simp only [Option.map_some, extractJsonBool_render hr, extractJsonU32_render hr, extractJsonFloat_render hr]
  simp [proberToks, openBlock]

theorem loadSticky_render (h : seek .sticky ts = some ((stickyToks s ++ rest).tail)) : loadSticky (render ts) = s := by
  have hr := sound_of_seek hs h
  rw [loadSticky, strstr_render hs, h]
  simp only [Option.map_some, extractJsonBool_render hr, extractJsonU32_render hr]
  simp [stickyToks, openBlock]

theorem loadAppSteering_render
    (h : seek .appSteering ts = some ((appSteeringToks a ++ rest).tail)) : loadAppSteering (render ts) = a := by
  have hr := sound_of_seek hs h
  rw [loadAppSteering, strstr_render hs, h]
  simp only [Option.map_some, extractJsonBool_render hr, extractJsonU32_render hr]
  simp [appSteeringToks, openBlock]

theorem loadTelegram_render {t : TelegramConfig} (ht : PlainTexts t.texts)
    (h : seek .telegram ts = some ((telegramToks t ++ rest).tail)) :
    loadTelegram (render ts) = t := by
  have hr := sound_of_seek hs h
  simp only [TelegramConfig.texts, plainTexts_cons] at ht
  rw [loadTelegram, strstr_render hs, h]
  simp only [Option.map_some, extractJsonBool_render hr, textField_render hr]
  simp [telegramToks, openBlock, copyInto_of_lt, ht]

theorem loadWeb_render {w : WebConfig} (hw : w.bindIp.length < 64)
    (h : seek .web ts = some ((webToks w ++ rest).tail)) : loadWeb (render ts) = w := by
  have hr := sound_of_seek hs h
  rw [loadWeb, strstr_render hs, h]
  simp only [Option.map_some, extractJsonU16_render hr, textFieldD_render hr]
  simp [webToks, openBlock, copyInto_of_lt, hw]

theorem loadAuth_render {a : AuthConfig} (ha : PlainTexts a.texts)
    (h : seek .auth ts = some ((authToks a ++ rest).tail)) : loadAuth (render ts) = a := by
  have hr := sound_of_seek hs h
  simp only [AuthConfig.texts, plainTexts_cons] at ha
  rw [loadAuth, strstr_render hs, h]
  simp only [Option.map_some, Option.elim_some, Option.bind_some, extractJsonBool_render hr, extractJsonString_render hr]
  simp [authToks, openBlock, copyInto_of_lt, ha]

theorem loadNat46_render {n : Nat46Config} (hn : PlainTexts n.texts)
    (h : seek .nat46 ts = some ((nat46Toks n ++ rest).tail)) : loadNat46 (render ts) = n := by
  have hr := sound_of_seek hs h
  simp only [Nat46Config.texts, plainTexts_cons, maxIfnameLen] at hn
  rw [loadNat46, strstr_render hs, h]
  simp only [Option.map_some, extractJsonBool_render hr, textFieldD_render hr]
  simp [nat46Toks, openBlock, copyInto_of_lt, hn, maxIfnameLen]

theorem loadDpi_render (h : seek .dpi ts = some ((dpiToks d ++ rest).tail)) : loadDpi (render ts) = d := by
  have hr := sound_of_seek hs h
  rw [loadDpi, strstr_render hs, h]
  simp only [Option.map_some, extractJsonBool_render hr, extractJsonU32_render hr]
  simp [dpiToks, openBlock]

theorem loadStealth_render (h : seek .stealth ts = some ((stealthToks s ++ rest).tail)) :
    loadStealth (render ts) = { s with ttlValue := orNum s.ttlValue 65 } := by
  have hr := sound_of_seek hs h
  rw [loadStealth, strstr_render hs, h]
  simp only [Option.map_some, extractJsonBool_render hr, extractJsonU8_render hr]
  simp [stealthToks, openBlock]

end

/-! ## The LAN -/

/-- What is computed from the texts of a route. -/
def PolicyRoute.reloaded (pr : PolicyRoute) : PolicyRoute :=
  { pr with
    subnetIp := (parseCidrSubnet pr.subnetStr).1
    netmask := (parseCidrSubnet pr.subnetStr).2.1
    prefixLen := (parseCidrSubnet pr.subnetStr).2.2
    gatewayIp := strToIp pr.gatewayIpStr
    targetGroupId := 0 }

def StaticLease.reloaded (sl : StaticLease) : StaticLease :=
  { sl with macAddr := (parseMacStr sl.macStr).getD (Vector.replicate 6 0) }

def RateLimit.reloaded (rl : RateLimit) : RateLimit := { rl with ipAddr := strToIp rl.ipStr }

theorem sound_braced (ind : Nat) (ho : Sound o) : Sound (braced ind o) := by
  have hclose : '"' ∉ indent ind ++ ['\x7d'] ∧ '\\' ∉ indent ind ++ ['\x7d'] ∧ '\x00' ∉ indent ind ++ ['\x7d'] :=
    unquoted_indent_append ind (by decide)
  have hopen : '"' ∉ ['\x7b', '\n'] ∧ '\\' ∉ ['\x7b', '\n'] ∧ '\x00' ∉ ['\x7b', '\n'] := by decide
  rw [braced, List.cons_append, sound_cons, sound_append, sound_cons]
  exact ⟨hopen, ho, hclose, sound_nil⟩

/-- Reading from an object is reading from its tokens. -/
theorem fieldAt_braced (k : Key) (ind : Nat) (o : List (Tok Key)) :
    fieldAt k (braced ind o) = (fieldAt k o).map (· ++ [.raw (indent ind ++ ['\x7d'])]) := by
  rw [braced, List.cons_append, fieldAt_raw, fieldAt_append]
  cases fieldAt k o <;> rfl

theorem loadPolicyRoute_render {pr : PolicyRoute} (h : PlainTexts pr.texts) (ind : Nat) :
    loadPolicyRoute (render (braced ind (routeToks pr))) = pr.reloaded := by
  have hr := sound_braced ind (flat_routeToks h).sound
  simp only [PolicyRoute.texts, plainTexts_cons] at h
  have hsubnet : pr.subnetStr.length < 64 := by omega
  have hgateway : pr.gatewayIpStr.length < 64 := by omega
  simp only [loadPolicyRoute, ipField, extractJsonBool_render hr, extractJsonString_render hr, textField_render hr,
    fieldAt_braced]
  simp [routeToks, copyInto_of_lt, h, hsubnet, hgateway, PolicyRoute.reloaded]

theorem loadStaticLease_render {sl : StaticLease} (h : PlainTexts sl.texts) (ind : Nat) :
    loadStaticLease (render (braced ind (leaseToks sl))) = sl.reloaded := by
  have hr := sound_braced ind (flat_leaseToks h).sound
  simp only [StaticLease.texts, plainTexts_cons] at h
  have hmac : sl.macStr.length < 64 := by omega
  simp only [loadStaticLease, extractJsonBool_render hr, textField_render hr, fieldAt_braced]
  simp [leaseToks, copyInto_of_lt, h, hmac, StaticLease.reloaded, copyInto_ipToStr, strToIp_ipToStr]

theorem loadRateLimit_render {rl : RateLimit} (h : PlainTexts rl.texts) (ind : Nat) :
    loadRateLimit (render (braced ind (limitToks rl))) = rl.reloaded := by
  have hr := sound_braced ind (flat_limitToks h).sound
  simp only [RateLimit.texts, plainTexts_cons] at h
  have hip : rl.ipStr.length < 64 := by omega
  simp only [loadRateLimit, extractJsonBool_render hr, extractJsonU32_render hr, textField_render hr, fieldAt_braced]
  simp [limitToks, copyInto_of_lt, h, hip, RateLimit.reloaded]

theorem orText_orText (s dflt : CStr) : orText (orText s dflt) dflt = orText s dflt := by
  unfold orText
  by_cases hs : s = [] <;> simp [hs]

/-- A text or its default fits if both do. -/
theorem copyInto_orText {s dflt : CStr} (hs : s.length < n) (hd : dflt.length < n) :
    copyInto n (orText s dflt) = orText s dflt :=
  copyInto_of_lt (length_orText_lt hs hd)

theorem nonEmptyField_render (hs : Sound ts) (k : Key) (n m : Nat) :
    nonEmptyField (render ts) k n m dflt =
      copyInto m (orText (((fieldAt k ts).elim none (strToks n)).getD []) dflt) := by
  rw [nonEmptyField, extractJsonString_render hs]
  rfl

/-- Objects that are each read back are read back in a row. -/
theorem map_load_braced {R S : Type} {toks : R → List (Tok Key)} {load : CStr → S} {g : R → S} {rs : List R} {ind : Nat}
    (h : ∀ r ∈ rs, load (render (braced ind (toks r))) = g r) :
    ((rs.map toks).map fun o => render (braced ind o)).map load = rs.map g := by
  rw [List.map_map, List.map_map]
  exact List.map_congr_left h

/-- The objects of an array that is left out when it is empty. -/
theorem objects_optArray (hk : k.isBlock = true) {objs : List (List (Tok Key))} (hobjs : ∀ o ∈ objs, Inner o)
    (hn : objs.length ≤ n) (hpre : Written bs pre)
    (hpost : Written bs' post) (hkpre : k ∉ bs) (hkpost : k ∉ bs') (hs : Sound (pre ++ (optArray k objs ++ post))) :
    (strstr (render (pre ++ (optArray k objs ++ post))) (quoted k)).elim [] (objectsAfter n) =
      objs.map fun o => render (braced 6 o) := by
  rw [strstr_render hs, seek_append_of_written hpre hk hkpre]
  unfold optArray
  split
  · rename_i hnil
    rw [List.nil_append, hpost.seek hk hkpost, hnil]
    rfl
  · have hseek : seek k (objectArray 4 k objs [',', '\n'] ++ post) = _ := seek_tail rfl
    rw [hseek, Option.map_some, Option.elim_some, objectsAfter_objectArray hobjs hn]

/-- The LAN as it is read back. -/
def LanConfig.reloaded (lan : LanConfig) : LanConfig where
  name := orText lan.name "eth0".toList
  netmask := orNum lan.netmask (strToIp "255.255.255.0".toList)
  dhcpEnabled := lan.dhcpEnabled
  dhcpStart := orNum lan.dhcpStart (strToIp "192.168.90.100".toList)
  dhcpEnd := orNum lan.dhcpEnd (strToIp "192.168.90.200".toList)
  dhcpLeaseTime := lan.dhcpLeaseTime
  staticLeases := lan.staticLeases.map StaticLease.reloaded
  rateLimits := lan.rateLimits.map RateLimit.reloaded
  qos := { lan.qos with algorithm := orText lan.qos.algorithm "cake".toList }
  dns :=
    { lan.dns with
      primaryDns := orText lan.dns.primaryDns "1.1.1.1".toList
      secondaryDns := orText lan.dns.secondaryDns "8.8.8.8".toList }
  staticLeases_le := (List.length_map StaticLease.reloaded).trans_le lan.staticLeases_le
  rateLimits_le := (List.length_map RateLimit.reloaded).trans_le lan.rateLimits_le

/-- The text from the LAN block on. -/
def lanRest (c : Config) (rest : List (Tok Key)) : List (Tok Key) :=
  ((openBlock 2 .lan).tail ++ lanLines c) ++ (optArray .policyRoutes (c.policyRoutes.map routeToks) ++
    (optArray .staticLeases (c.lan.staticLeases.map leaseToks) ++
      (optArray .rateLimits (c.lan.rateLimits.map limitToks) ++
        (qosToks c.lan.qos ++ (dnsToks c.lan.dns ++ (closeBlock 2 ++ rest))))))

theorem tail_lanToks (c : Config) : (lanToks c ++ rest).tail = lanRest c rest := by
  simp [lanToks, lanRest, openBlock]

/-- The block keys of the sections behind the WANs. -/
def serviceBlocks : List Key :=
  [.prober, .sticky, .appSteering, .telegram, .web, .auth, .nat46, .dpi, .stealth, .pppoeServer,
   .radius, .profiles, .users, .vpn, .wireguard, .peers, .zerotier, .networks, .tailscale, .addressLists, .entries]

/-- The block keys of the sections behind the LAN. -/
def laterBlocks : List Key := .groups :: .wans :: serviceBlocks

theorem written_lanHead {c : Config} (hlan : PlainTexts c.lan.texts) :
    Written [.lan] ((openBlock 2 .lan).tail ++ lanLines c) :=
  written_append.mpr ⟨fun t ht => written_openBlock List.mem_cons_self t (List.mem_of_mem_tail ht),
    (flat_lanLines hlan).written⟩

/-- What follows the arrays of the LAN. -/
theorem written_lanEnd {lan : LanConfig} (hlan : PlainTexts lan.texts) (hrest : Written laterBlocks rest) :
    Written (.qos :: .dns :: laterBlocks) (qosToks lan.qos ++ (dnsToks lan.dns ++ (closeBlock 2 ++ rest))) := by
  have hqos : Written (.qos :: .dns :: laterBlocks) (qosToks lan.qos) := (written_qosToks hlan).mono (by decide)
  have hdns : Written (.qos :: .dns :: laterBlocks) (dnsToks lan.dns) := (written_dnsToks hlan).mono (by decide)
  have hrest' : Written (.qos :: .dns :: laterBlocks) rest := hrest.mono (by decide)
  simp [hqos, hdns, hrest']

section
variable {ts rest : List (Tok Key)} {c : Config} (hs : Sound ts) (h : seek .lan ts = some (lanRest c rest))
include hs h

theorem lanPos_render : lanPos (render ts) = some (render (lanRest c rest)) := by
  rw [lanPos, strstr_render hs, h]
  rfl

theorem sound_lanRest : Sound (lanRest c rest) := sound_of_seek hs h

theorem loadLanIp_render : loadLanIp (render ts) = orNum c.lanIpAddr (strToIp "192.168.90.1".toList) := by
  have hvalue : valueAt .ip (lanRest c rest) = some (.str (orIp c.lanIpAddr "192.168.90.1".toList)) := by
    simp [-String.reduceToList, valueAt, lanRest, lanLines, openBlock]
  rw [loadLanIp, lanPos_render hs h]
  exact lanAddress_render (sound_lanRest hs h) (by decide) hvalue

/-- An array of the LAN block, with what is written before and behind it. -/
theorem lanObjects_render {objs : List (List (Tok Key))}
    (hsplit : lanRest c rest = pre ++ (optArray k objs ++ post)) (hk : k.isBlock = true)
    (hobjs : ∀ o ∈ objs, Flat o) (hn : objs.length ≤ n) (hpre : Written bs pre) (hpost : Written bs' post)
    (hkpre : k ∉ bs) (hkpost : k ∉ bs') :
    lanObjects n k (render ts) = objs.map fun o => render (braced 6 o) := by
  have hsound := sound_lanRest hs h
  rw [hsplit] at hsound
  rw [lanObjects, lanPos_render hs h, Option.bind_some, hsplit]
  exact objects_optArray hk (fun o ho => (hobjs o ho).inner) hn hpre hpost hkpre hkpost hsound

end

section
variable {c : Config} (hlan : PlainTexts c.lan.texts)

section
include hlan

theorem written_leases :
    Written [.staticLeases] (optArray .staticLeases (c.lan.staticLeases.map leaseToks)) :=
  written_optArray (by decide) (flat_leases hlan)

theorem written_limits : Written [.rateLimits] (optArray .rateLimits (c.lan.rateLimits.map limitToks)) :=
  written_optArray (by decide) (flat_limits hlan)

end

variable (hroutes : ∀ pr ∈ c.policyRoutes, PlainTexts pr.texts)
include hroutes

theorem written_routes : Written [.policyRoutes] (optArray .policyRoutes (c.policyRoutes.map routeToks)) :=
  written_optArray (by decide) (flat_routes hroutes)

include hlan

/-- The LAN block up to its last two blocks. -/
theorem written_lanArrays :
    Written [.lan, .policyRoutes, .staticLeases, .rateLimits]
      (((((openBlock 2 .lan).tail ++ lanLines c) ++ optArray .policyRoutes (c.policyRoutes.map routeToks)) ++
        optArray .staticLeases (c.lan.staticLeases.map leaseToks)) ++
          optArray .rateLimits (c.lan.rateLimits.map limitToks)) :=
  (((written_lanHead hlan).append (written_routes hroutes)).append (written_leases hlan)).append (written_limits hlan)

theorem seek_qos_lanRest (rest : List (Tok Key)) : seek .qos (lanRest c rest) =
    some ((qosToks c.lan.qos ++ (dnsToks c.lan.dns ++ (closeBlock 2 ++ rest))).tail) := by
  rw [lanRest, ← List.append_assoc, ← List.append_assoc, ← List.append_assoc,
    seek_append_of_written (written_lanArrays hlan hroutes) rfl (by decide)]
  exact seek_tail rfl

theorem seek_dns_lanRest (rest : List (Tok Key)) : seek .dns (lanRest c rest) =
    some ((dnsToks c.lan.dns ++ (closeBlock 2 ++ rest)).tail) := by
  rw [lanRest, ← List.append_assoc, ← List.append_assoc, ← List.append_assoc,
    seek_append_of_written (written_lanArrays hlan hroutes) rfl (by decide),
    seek_append_of_written (written_qosToks hlan) rfl (by decide)]
  exact seek_tail rfl

variable {ts rest : List (Tok Key)} (hs : Sound ts) (h : seek .lan ts = some (lanRest c rest))
  (hrest : Written laterBlocks rest)
include hs h hrest

theorem lanObjects_policyRoutes : lanObjects maxPolicyRoutes .policyRoutes (render ts) =
    (c.policyRoutes.map routeToks).map fun o => render (braced 6 o) :=
  lanObjects_render hs h rfl rfl (flat_routes hroutes) ((List.length_map _).trans_le c.policyRoutes_le)
    (written_lanHead hlan) ((written_leases hlan).append ((written_limits hlan).append (written_lanEnd hlan hrest)))
    (by decide) (by decide)

theorem lanObjects_staticLeases : lanObjects maxStaticLeases .staticLeases (render ts) =
    (c.lan.staticLeases.map leaseToks).map fun o => render (braced 6 o) := by
  refine lanObjects_render hs h ?_ rfl (flat_leases hlan) ((List.length_map _).trans_le c.lan.staticLeases_le)
    ((written_lanHead hlan).append (written_routes hroutes))
    ((written_limits hlan).append (written_lanEnd hlan hrest)) (by decide) (by decide)
  rw [lanRest, ← List.append_assoc]

theorem lanObjects_rateLimits : lanObjects maxRateLimits .rateLimits (render ts) =
    (c.lan.rateLimits.map limitToks).map fun o => render (braced 6 o) := by
  refine lanObjects_render hs h ?_ rfl (flat_limits hlan) ((List.length_map _).trans_le c.lan.rateLimits_le)
    (((written_lanHead hlan).append (written_routes hroutes)).append (written_leases hlan))
    (written_lanEnd hlan hrest) (by decide) (by decide)
  rw [lanRest, ← List.append_assoc, ← List.append_assoc]

end

theorem loadQos_render (hs : Sound ts) {q : QosConfig} (hq : q.algorithm.length < 16)
    (h : seek .qos ts = some ((qosToks q ++ rest).tail)) :
    loadQos (render ts) = { q with algorithm := orText q.algorithm "cake".toList } := by
  have hr := sound_of_seek hs h
  have hlt : q.algorithm.length < 32 := by omega
  rw [loadQos, strstr_render hs, h]
  simp only [Option.map_some, extractJsonBool_render hr, extractJsonU32_render hr, nonEmptyField_render hr]
  simp [qosToks, openBlock, copyInto_orText, orText_orText, hq, hlt]

theorem loadDns_render (hs : Sound ts) {d : DnsFeatures} (hd1 : d.primaryDns.length < 32)
    (hd2 : d.secondaryDns.length < 32) (h : seek .dns ts = some ((dnsToks d ++ rest).tail)) :
    loadDns (render ts) = { d with
      primaryDns := orText d.primaryDns "1.1.1.1".toList, secondaryDns := orText d.secondaryDns "8.8.8.8".toList } := by
  have hr := sound_of_seek hs h
  rw [loadDns, strstr_render hs, h]
  simp only [Option.map_some, extractJsonBool_render hr, nonEmptyField_render hr]
  simp [dnsToks, openBlock, copyInto_orText, orText_orText, hd1, hd2]

/-- The LAN block is read back as `LanConfig.reloaded`. -/
theorem loadLan_render {ts rest : List (Tok Key)} {c : Config} (hs : Sound ts)
    (h : seek .lan ts = some (lanRest c rest)) (hlan : PlainTexts c.lan.texts)
    (hroutes : ∀ pr ∈ c.policyRoutes, PlainTexts pr.texts) (hrest : Written laterBlocks rest) :
    loadLan (render ts) = c.lan.reloaded := by
  have hr := sound_lanRest hs h
  have hleases := lanObjects_staticLeases hlan hroutes hs h hrest
  have hlimits := lanObjects_rateLimits hlan hroutes hs h hrest
  have htexts := hlan
  simp only [LanConfig.texts, plainTexts_append, plainTexts_cons, plainTexts_flatMap] at htexts
  obtain ⟨⟨⟨hname, halg, hdns1, hdns2, -⟩, hleaseTexts⟩, hlimitTexts⟩ := htexts
  have hfits : c.lan.name.length < 32 := hname.2
  have hlong : c.lan.name.length < 64 := by omega
  have hmask : valueAt .netmask (lanRest c rest) = some (.str (orIp c.lan.netmask "255.255.255.0".toList)) := by
    simp [-String.reduceToList, valueAt, lanRest, lanLines, openBlock]
  have hstart : valueAt .dhcpStart (lanRest c rest) = some (.str (orIp c.lan.dhcpStart "192.168.90.100".toList)) := by
    simp [-String.reduceToList, valueAt, lanRest, lanLines, openBlock]
  have hend : valueAt .dhcpEnd (lanRest c rest) = some (.str (orIp c.lan.dhcpEnd "192.168.90.200".toList)) := by
    simp [-String.reduceToList, valueAt, lanRest, lanLines, openBlock]
  have hmask' := lanAddress_render hr (by decide) hmask
  have hstart' := lanAddress_render hr (by decide) hstart
  have hend' := lanAddress_render hr (by decide) hend
  have hqos := loadQos_render hr halg.2 (seek_qos_lanRest hlan hroutes rest)
  have hdns := loadDns_render hr hdns1.2 hdns2.2 (seek_dns_lanRest hlan hroutes rest)
  unfold loadLan
  simp only [lanPos_render hs h, hleases, hlimits, hmask', hstart', hend', hqos, hdns, nonEmptyField_render hr,
    extractJsonBool_render hr, extractJsonU32_render hr, LanConfig.reloaded,
    map_load_braced fun sl hsl => loadStaticLease_render (hleaseTexts sl hsl) 6,
    map_load_braced fun rl hrl => loadRateLimit_render (hlimitTexts rl hrl) 6]
  simp [lanRest, lanLines, openBlock, copyInto_orText, orText_orText, hfits, hlong, maxIfnameLen]

theorem loadPolicyRoutes_render {ts rest : List (Tok Key)} {c : Config} (hs : Sound ts)
    (h : seek .lan ts = some (lanRest c rest)) (hlan : PlainTexts c.lan.texts)
    (hroutes : ∀ pr ∈ c.policyRoutes, PlainTexts pr.texts) (hrest : Written laterBlocks rest) :
    loadPolicyRoutes (render ts) = c.policyRoutes.map PolicyRoute.reloaded := by
  rw [loadPolicyRoutes, lanObjects_policyRoutes hlan hroutes hs h hrest]
  exact map_load_braced fun pr hpr => loadPolicyRoute_render (hroutes pr hpr) 6

end FluxWAN
