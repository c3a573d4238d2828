/-
  Saving and loading again.
-/
import FluxWAN.ServiceReload
import FluxWAN.WanLinks
import Mathlib.Data.List.TakeWhile
import Mathlib.Tactic.MkIffOfInductiveProp

namespace FluxWAN

open CString QuotedText

/-! ## What a plain configuration consists of -/

/-- The texts of the sections. -/
@[mk_iff]
structure PlainParts (c : FluxwanConfig) : Prop where
  lan : PlainTexts c.core.lan.texts
  routes : ∀ pr ∈ c.core.policyRoutes, PlainTexts pr.texts
  groups : ∀ g ∈ c.core.groups, PlainTexts g.texts
  wans : ∀ w ∈ c.core.wans, PlainTexts w.texts
  auth : PlainTexts c.core.auth.texts
  telegram : PlainTexts c.telegram.texts
  web : PlainTexts [(c.web.bindIp, 64)]
  nat46 : PlainTexts c.nat46.texts
  pppoe : PlainTexts c.pppoeServer.texts
  wireguard : PlainTexts c.vpn.wireguard.texts
  zerotier : PlainTexts c.vpn.zerotier.texts
  tailscale : PlainTexts c.vpn.tailscale.texts
  lists : ∀ al ∈ c.addressLists, PlainTexts al.texts

theorem plainTexts_iff_parts {c : FluxwanConfig} : PlainTexts c.texts ↔ PlainParts c := by
  simp only [FluxwanConfig.texts, Config.texts, plainTexts_append, plainTexts_flatMap, plainParts_iff, and_assoc]

theorem FluxwanConfig.Plain.parts {c : FluxwanConfig} (h : c.Plain) : PlainParts c := plainTexts_iff_parts.mp h.texts

theorem PlainParts.plain {c : FluxwanConfig} (h : PlainParts c)
    (hcount : ∀ g ∈ c.core.groups, g.wanCount = g.wanNames.length) : c.Plain := ⟨plainTexts_iff_parts.mpr h, hcount⟩

/-! ## The file as a list of sections -/

/-- The block keys of the end of the file. -/
def tailBlocks : List Key := [.vpn, .wireguard, .peers, .zerotier, .networks, .tailscale, .addressLists, .entries]

/-- The VPN block and the address lists. -/
def tailToks (c : FluxwanConfig) : List (Tok Key) :=
  openBlock 2 .vpn ++ vpnLines c.vpn ++ addressListsToks c.addressLists ++ [.raw ['\x7d', '\n']]

/-- The sections behind the WANs, each with the block keys in it. -/
def laterSections (c : FluxwanConfig) : List (List Key × List (Tok Key)) :=
  [([.prober], proberToks c.core.prober), ([.sticky], stickyToks c.sticky),
   ([.appSteering], appSteeringToks c.appSteering), ([.telegram], telegramToks c.telegram), ([.web], webToks c.web),
   ([.auth], authToks c.core.auth), ([.nat46], nat46Toks c.nat46), ([.dpi], dpiToks c.dpi),
   ([.stealth], stealthToks c.stealth), (pppoeBlocks, pppoeToks c.pppoeServer), (tailBlocks, tailToks c)]

/-- The sections of the file. -/
def sections (c : FluxwanConfig) : List (List Key × List (Tok Key)) :=
  (lanBlocks, .raw ['\x7b', '\n'] :: lanToks c.core) ::
  ([.groups, .wans], topArray .groups (c.core.groups.map groupToks)) ::
  ([.wans], topArray .wans (c.core.wans.map wanToks)) :: laterSections c

theorem configToks_eq (c : FluxwanConfig) : configToks c = (sections c).flatMap Prod.snd := by
  simp [configToks, sections, laterSections, middleToks, tailToks]

/-- A search passes over the sections that do not have the block. -/
theorem seek_sections {ss : List (List Key × List (Tok Key))} (h : ∀ s ∈ ss, Written s.1 s.2) {k : Key}
    (hk : k.isBlock = true) :
    seek k (ss.flatMap Prod.snd) = seek k ((ss.dropWhile fun s => decide (k ∉ s.1)).flatMap Prod.snd) := by
  induction ss with
  | nil => rfl
  | cons s ss ih =>
    have ih := ih fun s' hs' => h s' (List.mem_cons_of_mem s hs')
    by_cases hmem : k ∈ s.1
    · rw [List.dropWhile_cons, if_neg (by simpa using hmem)]
    · rw [List.dropWhile_cons, if_pos (by simpa using hmem), ← ih, List.flatMap_cons,
        seek_append_of_written (h s List.mem_cons_self) hk hmem]

section
variable {c : FluxwanConfig} (h : PlainParts c)
include h

theorem written_tailToks : Written tailBlocks (tailToks c) := by
  have hopen : Written tailBlocks (openBlock 2 .vpn) := written_openBlock (by decide)
  have hvpn : Written tailBlocks (vpnLines c.vpn) := (written_vpnLines h.wireguard h.zerotier h.tailscale).mono (by decide)
  have hlists : Written tailBlocks (addressListsToks c.addressLists) := (written_addressListsToks h.lists).mono (by decide)
  have hend : Written tailBlocks [.raw ['\x7d', '\n']] := written_raw (by decide)
  exact written_append.mpr ⟨written_append.mpr ⟨written_append.mpr ⟨hopen, hvpn⟩, hlists⟩, hend⟩

theorem written_laterSections : ∀ s ∈ laterSections c, Written s.1 s.2 := by
  have hweb : PlainText Key c.web.bindIp := (h.web _ List.mem_cons_self).1
  have htelegram := h.telegram
  have hauth := h.auth
  have hnat46 := h.nat46
  simp only [TelegramConfig.texts, AuthConfig.texts, Nat46Config.texts, plainTexts_cons] at htelegram hauth hnat46
  simp only [laterSections, List.forall_mem_cons]
  refine ⟨?_, ?_, ?_, ?_, ?_, ?_, ?_, ?_, ?_, written_pppoeToks h.pppoe, written_tailToks h, by simp⟩
  all_goals simp [proberToks, stickyToks, appSteeringToks, telegramToks, webToks, authToks, nat46Toks, dpiToks, stealthToks,
    Key.isBlock.eq_def, hweb, htelegram, hauth, hnat46]

theorem written_sections : ∀ s ∈ sections c, Written s.1 s.2 := by
  have hopen : Written lanBlocks [.raw ['\x7b', '\n']] := written_raw (by decide)
  simp only [sections, List.forall_mem_cons]
  exact ⟨written_cons hopen (written_lanToks h.lan h.routes), written_groups h.groups, written_wans h.wans,
    written_laterSections h⟩

theorem sound_configToks : Sound (configToks c) := by
  rw [configToks_eq]
  intro t ht
  obtain ⟨s, hs, hts⟩ := List.mem_flatMap.mp ht
  exact (written_sections h s hs).sound t hts

/-- Where the search for a block ends. -/
theorem seek_configToks {k : Key} (hk : k.isBlock = true) :
    seek k (configToks c) = seek k (((sections c).dropWhile fun s => decide (k ∉ s.1)).flatMap Prod.snd) := by
  rw [configToks_eq, seek_sections (written_sections h) hk]

/-- The search for a block ends at the section that opens it. -/
theorem seek_section {k : Key} (hk : k.isBlock = true)

    (hdrop : ((sections c).dropWhile fun s => decide (k ∉ s.1)) = (bs, toks) :: post)
    (hopen : ∀ rest, seek k (toks ++ rest) = some ((toks ++ rest).tail)) :
    ∃ rest, seek k (configToks c) = some ((toks ++ rest).tail) := by
  refine ⟨post.flatMap Prod.snd, ?_⟩
  rw [seek_configToks h hk, hdrop]
  exact hopen _

/-- A section is read back from the file if it is read back wherever it is found. -/
theorem load_section {α : Type} {load : CStr → α} {x : α} {k : Key} {bs : List Key} {toks : List (Tok Key)}
    {post : List (List Key × List (Tok Key))}
    (hload : ∀ {ts rest}, Sound ts → seek k ts = some ((toks ++ rest).tail) → load (render ts) = x) (hk : k.isBlock = true)
    (hdrop : ((sections c).dropWhile fun s => decide (k ∉ s.1)) = (bs, toks) :: post)
    (hopen : ∀ rest, seek k (toks ++ rest) = some ((toks ++ rest).tail)) : load (configSave c) = x := by
  obtain ⟨rest, hseek⟩ := seek_section h hk hdrop hopen
  exact hload (sound_configToks h) hseek

theorem written_services : Written serviceBlocks ((laterSections c).flatMap Prod.snd) := by
  intro t ht
  obtain ⟨s, hs, hts⟩ := List.mem_flatMap.mp ht
  have hsub : ∀ s ∈ laterSections c, ∀ k ∈ s.1, k ∈ serviceBlocks := by
    simp only [laterSections, List.forall_mem_cons]
    decide
  exact ((written_laterSections h s hs).mono (hsub s hs)) t hts

end

/-! ## The record that is read back -/

/-- The WANs as they are read back, with their ids made unique. -/
def reloadedWans (ws : List WanConfig) : List WanConfig :=
  (ws.map WanConfig.reloaded).foldl (fun done wi => done ++ [uniqueIds done wi]) []

theorem length_reloadedWans (ws : List WanConfig) : (reloadedWans ws).length = ws.length := by
  rw [reloadedWans, length_foldl_append_one, List.length_map, List.length_nil, Nat.zero_add]

def reloadedGroups (wans : List WanConfig) (gs : List WanGroup) : List WanGroup :=
  gs.map fun g => resolveGroup wans g.bare

def Config.reloaded (c : Config) : Config where
  lan := c.lan.reloaded
  lanIpAddr := orNum c.lanIpAddr (strToIp "192.168.90.1".toList)
  policyRoutes := c.policyRoutes.map fun pr =>
    resolvePolicy (reloadedGroups (reloadedWans c.wans) c.groups) pr.reloaded
  wans := reloadedWans c.wans
  groups := reloadedGroups (reloadedWans c.wans) c.groups
  prober := { c.prober with maxAcceptableLossPct := c.prober.maxAcceptableLossPct.atTenths.toFloat }
  auth := c.auth
  wans_le := (length_reloadedWans c.wans).trans_le c.wans_le
  groups_le := (List.length_map _).trans_le c.groups_le
  policyRoutes_le := (List.length_map _).trans_le c.policyRoutes_le

def FluxwanConfig.reloaded (c : FluxwanConfig) : FluxwanConfig where
  core := c.core.reloaded
  sticky := c.sticky
  appSteering := c.appSteering
  telegram := c.telegram
  web := c.web
  nat46 := c.nat46
  dpi := c.dpi
  stealth := { c.stealth with ttlValue := orNum c.stealth.ttlValue 65 }
  pppoeServer := c.pppoeServer.reloaded
  vpn := c.vpn.reloaded
  addressLists := c.addressLists.map fun al =>
    resolveTarget c.core.reloaded.wans c.core.reloaded.groups al.reloaded
  addressLists_le := (List.length_map _).trans_le c.addressLists_le

section
variable {c : FluxwanConfig} (h : PlainParts c)
include h

theorem loadProber_configSave : loadProber (configSave c) = c.reloaded.core.prober :=
  load_section h (fun hs hseek => loadProber_render hs hseek) rfl rfl fun _ => rfl

theorem loadSticky_configSave : loadSticky (configSave c) = c.sticky :=
  load_section h (fun hs hseek => loadSticky_render hs hseek) rfl rfl fun _ => rfl

theorem loadAppSteering_configSave : loadAppSteering (configSave c) = c.appSteering :=
  load_section h (fun hs hseek => loadAppSteering_render hs hseek) rfl rfl fun _ => rfl

theorem loadTelegram_configSave : loadTelegram (configSave c) = c.telegram :=
  load_section h (fun hs hseek => loadTelegram_render hs h.telegram hseek) rfl rfl fun _ => rfl

theorem loadWeb_configSave : loadWeb (configSave c) = c.web :=
  load_section h (fun hs hseek => loadWeb_render hs (h.web _ List.mem_cons_self).2 hseek) rfl rfl fun _ => rfl

theorem loadAuth_configSave : loadAuth (configSave c) = c.core.auth :=
  load_section h (fun hs hseek => loadAuth_render hs h.auth hseek) rfl rfl fun _ => rfl

theorem loadNat46_configSave : loadNat46 (configSave c) = c.nat46 :=
  load_section h (fun hs hseek => loadNat46_render hs h.nat46 hseek) rfl rfl fun _ => rfl

theorem loadDpi_configSave : loadDpi (configSave c) = c.dpi :=
  load_section h (fun hs hseek => loadDpi_render hs hseek) rfl rfl fun _ => rfl

theorem loadStealth_configSave : loadStealth (configSave c) = c.reloaded.stealth :=
  load_section h (fun hs hseek => loadStealth_render hs hseek) rfl rfl fun _ => rfl

theorem loadPppoeServer_configSave (now : UInt64) (lanName : CStr) :
    loadPppoeServer now lanName (configSave c) = c.pppoeServer.reloaded := by
  refine load_section (k := .pppoeServer) h (fun hs hseek => ?_) rfl rfl fun _ => rfl
  rw [tail_pppoeToks] at hseek
  exact loadPppoeServer_render hs h.pppoe hseek

/-- The VPN block is closed by the first brace of what follows it. -/
theorem loadVpn_configSave : loadVpn (configSave c) = c.vpn.reloaded := by
  obtain ⟨rest, hseek⟩ : ∃ rest, seek .vpn (configToks c) = some ((tailToks c ++ rest).tail) :=
    seek_section h rfl rfl fun _ => rfl
  obtain ⟨stop, rest', hclose⟩ : ∃ stop rest', addressListsToks c.addressLists ++ ([.raw ['\x7d', '\n']] ++ rest) =
      .raw (indent 2 ++ '\x7d' :: stop) :: rest' := by
    unfold addressListsToks
    split
    · exact ⟨_, _, rfl⟩
    · exact ⟨_, _, rfl⟩
  have htail : (tailToks c ++ rest).tail =
      .key .vpn :: .raw ['\x7b', '\n'] :: (vpnLines c.vpn ++ .raw (indent 2 ++ '\x7d' :: stop) :: rest') := by
    rw [← hclose]
    simp [tailToks, openBlock]
  rw [htail] at hseek
  exact loadVpn_render (sound_configToks h) h.wireguard h.zerotier h.tailscale hseek

theorem loadAddressLists_configSave (wans : List WanConfig) (groups : List WanGroup) :
    loadAddressLists (configSave c) wans groups = c.addressLists.map fun al => resolveTarget wans groups al.reloaded := by
  have hvpn := (written_vpnLines h.wireguard h.zerotier h.tailscale).seek (k := .addressLists) rfl (by decide)
  have hseek : seek .addressLists (configToks c) = if c.addressLists = [] then none
      else some ((objectArray 2 .addressLists (c.addressLists.map addressListToks) ['\n'] ++
        [Tok.raw ['\x7d', '\n']]).tail) := by
    have hdrop : ((sections c).dropWhile fun s => decide (Key.addressLists ∉ s.1)) = [(tailBlocks, tailToks c)] := rfl
    rw [seek_configToks h rfl, hdrop, List.flatMap_singleton]
    by_cases hnil : c.addressLists = []
    · simp [tailToks, openBlock, seek_append, hvpn, addressListsToks, hnil, closeLast]
    · simp [tailToks, openBlock, seek_append, hvpn, addressListsToks, hnil, closeBlock, objectArray]
  exact loadAddressLists_render (sound_configToks h) h.lists c.addressLists_le hseek wans groups

/-! ## LAN, groups and WANs -/

omit h in
theorem configSave_eq : configSave c = render ((.raw ['\x7b', '\n'] :: lanToks c.core) ++
    (topArray .groups (c.core.groups.map groupToks) ++ (topArray .wans (c.core.wans.map wanToks) ++
      (laterSections c).flatMap Prod.snd))) := by
  rw [configSave, configToks_eq]
  rfl

omit h in
theorem seek_lan : seek .lan (configToks c) = some (lanRest c.core
    (topArray .groups (c.core.groups.map groupToks) ++ (topArray .wans (c.core.wans.map wanToks) ++
      (laterSections c).flatMap Prod.snd))) := by
  rw [← tail_lanToks, configToks_eq]
  simp [sections, lanToks, openBlock]

theorem written_later : Written laterBlocks (topArray .groups (c.core.groups.map groupToks) ++
    (topArray .wans (c.core.wans.map wanToks) ++ (laterSections c).flatMap Prod.snd)) :=
  written_append.mpr ⟨(written_groups h.groups).mono (by decide),
    written_append.mpr ⟨(written_wans h.wans).mono (by decide), (written_services h).mono (by decide)⟩⟩

theorem loadLan_configSave : loadLan (configSave c) = c.core.lan.reloaded :=
  loadLan_render (sound_configToks h) seek_lan h.lan h.routes (written_later h)

theorem loadLanIp_configSave : loadLanIp (configSave c) = orNum c.core.lanIpAddr (strToIp "192.168.90.1".toList) :=
  loadLanIp_render (sound_configToks h) seek_lan

theorem loadPolicyRoutes_configSave : loadPolicyRoutes (configSave c) = c.core.policyRoutes.map PolicyRoute.reloaded :=
  loadPolicyRoutes_render (sound_configToks h) seek_lan h.lan h.routes (written_later h)

theorem loadWans_configSave : loadWans (configSave c) = reloadedWans c.core.wans := by
  have hopen : Written lanBlocks [.raw ['\x7b', '\n']] := written_raw (by decide)
  have hload : (c.core.wans.mapIdx fun i w => loadWan i (render (braced 4 (wanToks w)))) =
      c.core.wans.map WanConfig.reloaded := by
    refine List.ext_getElem (by simp) fun i hi _ => ?_
    rw [List.getElem_mapIdx, List.getElem_map]
    exact loadWan_render (h.wans _ (List.getElem_mem _)) i 4
  rw [configSave_eq, loadWans_render h.groups h.wans c.core.wans_le
    (written_cons hopen (written_lanToks h.lan h.routes)) (by decide) (written_services h) (by decide), hload]
  rfl

theorem loadGroups_configSave (hcount : ∀ g ∈ c.core.groups, g.wanCount = g.wanNames.length) (wans : List WanConfig) :
    loadGroups (configSave c) wans = reloadedGroups wans c.core.groups := by
  obtain ⟨rest, hseek⟩ : ∃ rest, seek .groups (configToks c) =
      some ((topArray .groups (c.core.groups.map groupToks) ++ rest).tail) :=
    seek_section h rfl rfl fun rest => seek_topArray .groups
  exact loadGroups_render (sound_configToks h) (fun g hg => ⟨h.groups g hg, hcount g hg⟩) c.core.groups_le hseek wans

end

/-! ## The whole file -/

theorem cstr_configSave (h : PlainParts c) : cstr (configSave c) = configSave c := by
  have hnul := nul_not_mem_render (sound_configToks h)
  refine List.takeWhile_eq_self_iff.mpr fun x hx => ?_
  exact decide_eq_true fun heq => hnul (heq ▸ hx)

theorem configLoad_configSave {c : FluxwanConfig} (h : c.Plain) : configLoad (configSave c) = some c.core.reloaded := by
  have hparts := h.parts
  have hne : configSave c ≠ [] := by
    rw [configSave_eq]
    simp [render_cons, Tok.text]
  rw [configLoad, if_neg hne]
  simp only [cstr_configSave hparts, loadWans_configSave hparts, loadGroups_configSave hparts h.wanCount,
    loadLan_configSave hparts, loadLanIp_configSave hparts, loadPolicyRoutes_configSave hparts,
    loadProber_configSave hparts, loadAuth_configSave hparts, List.map_map]
  rfl

/-- Loading what was saved: the record that `FluxwanConfig.reloaded` says, whatever the time. -/
theorem configLoadAll_configSave {c : FluxwanConfig} (h : c.Plain) :
    configLoadAll now (configSave c) = some c.reloaded := by
  have hparts := h.parts
  rw [configLoadAll, configLoad_configSave h, Option.map_some]
  simp only [cstr_configSave hparts, loadSticky_configSave hparts, loadAppSteering_configSave hparts,
    loadTelegram_configSave hparts, loadWeb_configSave hparts, loadNat46_configSave hparts, loadDpi_configSave hparts,
    loadStealth_configSave hparts, loadPppoeServer_configSave hparts, loadVpn_configSave hparts,
    loadAddressLists_configSave hparts]
  rfl

end FluxWAN
