/-
  Configurations whose texts can be written without escaping.

  `config_save` prints every text as it is.  A configuration is `Plain` if each of its texts fits the
  `char` array it is kept in, has no quote, backslash, brace, bracket or control character, and is not
  spelled like a key.  The file of a plain configuration is a sound list of tokens (`sound_configToks`):
  searching it for a key finds the places where `config_save` wrote that key and no others.

  A section is found by its key, so it matters which keys of blocks and arrays stand before it
  (`Blocks`).
-/
import FluxWAN.JsonBlocks
import Mathlib.Data.Nat.Digits.Defs

namespace FluxWAN

open CString QuotedText

variable {s : CStr} {bs : List Key} {xs : List CStr} {g : WanGroup} {al : AddressList} {c : Config}
  {lan : LanConfig} {w : WireguardConfig} {z : ZerotierConfig}

/-! ## The texts of a configuration, each with the size of its array -/

def PolicyRoute.texts (pr : PolicyRoute) : List (CStr × Nat) :=
  [(pr.subnetStr, 32), (pr.gatewayIpStr, 32), (pr.targetGroup, 32), (pr.description, 64)]

def StaticLease.texts (sl : StaticLease) : List (CStr × Nat) := [(sl.macStr, 18), (sl.hostname, 64)]

def RateLimit.texts (rl : RateLimit) : List (CStr × Nat) := [(rl.ipStr, 32), (rl.description, 64)]

def LanConfig.texts (lan : LanConfig) : List (CStr × Nat) :=
  [(lan.name, maxIfnameLen), (lan.qos.algorithm, 16), (lan.dns.primaryDns, 32), (lan.dns.secondaryDns, 32)] ++
  lan.staticLeases.flatMap StaticLease.texts ++ lan.rateLimits.flatMap RateLimit.texts

def WanGroup.texts (g : WanGroup) : List (CStr × Nat) :=
  [(g.name, 32), (g.description, 64)] ++ g.wanNames.map fun x => (x, maxLabelLen)

def ProxyConfig.texts (p : ProxyConfig) : List (CStr × Nat) :=
  [(p.primary.protoStr, 16), (p.primary.server, 128), (p.primary.uuid, 64), (p.primary.sni, 128),
   (p.primary.host, 128), (p.primary.path, 128), (p.primary.transport, 16), (p.primary.security, 16),
   (p.primary.encryption, 256), (p.primary.rawUri, 2048), (p.servers0.fields.rawUri, 2048),
   (p.servers1.fields.rawUri, 2048), (p.servers2.fields.rawUri, 2048), (p.tunDev, 16)]

def WanConfig.texts (w : WanConfig) : List (CStr × Nat) :=
  [(w.name, maxIfnameLen), (w.label, maxLabelLen), (w.pppUsername, 64), (w.pppPassword, 64), (w.wifiSsid, 64),
   (w.wifiPassword, 64), (w.wifiSecurity, 16), (w.customMac, 20), (w.probeTarget, 64)] ++ w.proxy.texts

def AuthConfig.texts (a : AuthConfig) : List (CStr × Nat) :=
  [(a.username, 64), (a.password, 64), (a.sessionToken, 64)]

def Config.texts (c : Config) : List (CStr × Nat) :=
  c.lan.texts ++ c.policyRoutes.flatMap PolicyRoute.texts ++ c.groups.flatMap WanGroup.texts ++
  c.wans.flatMap WanConfig.texts ++ c.auth.texts

def TelegramConfig.texts (t : TelegramConfig) : List (CStr × Nat) := [(t.botToken, 128), (t.chatId, 64)]

def Nat46Config.texts (n : Nat46Config) : List (CStr × Nat) :=
  [(n.syntheticPrefix, 32), (n.upstreamDns, 64), (n.starlinkWanName, maxIfnameLen)]

def RadiusConfig.texts (r : RadiusConfig) : List (CStr × Nat) :=
  [(r.server, 128), (r.secret, 64), (r.nasIdentifier, 64), (r.caCertPath, 256), (r.clientCertPath, 256),
   (r.clientKeyPath, 256), (r.sniHostname, 64)]

def PppoeProfile.texts (p : PppoeProfile) : List (CStr × Nat) := [(p.name, 64), (p.description, 64)]

def PppoeUser.texts (u : PppoeUser) : List (CStr × Nat) :=
  [(u.username, 64), (u.password, 64), (u.profile, 64), (u.staticIp, 32), (u.comment, 128)]

def PppoeServerConfig.texts (p : PppoeServerConfig) : List (CStr × Nat) :=
  [(p.lanMode, 16), (p.interface, maxIfnameLen), (p.serviceName, 64), (p.acName, 64), (p.localIp, 32),
   (p.poolStart, 32), (p.poolEnd, 32), (p.dns1, 32), (p.dns2, 32)] ++ p.radius.texts ++
  p.profiles.flatMap PppoeProfile.texts ++ p.users.flatMap PppoeUser.texts

def WireguardPeer.texts (p : WireguardPeer) : List (CStr × Nat) :=
  [(p.name, 64), (p.publicKey, 64), (p.clientPrivateKey, 64), (p.presharedKey, 64), (p.allowedIps, 128),
   (p.endpoint, 128)]

def WireguardConfig.texts (w : WireguardConfig) : List (CStr × Nat) :=
  [(w.interface, maxIfnameLen), (w.address, 64), (w.privateKey, 64), (w.publicKey, 64)] ++
  w.peers.flatMap WireguardPeer.texts

def ZerotierNetwork.texts (n : ZerotierNetwork) : List (CStr × Nat) := [(n.nwid, 32), (n.name, 64)]

def ZerotierConfig.texts (z : ZerotierConfig) : List (CStr × Nat) :=
  [(z.nodeId, 32)] ++ z.networks.flatMap ZerotierNetwork.texts

def TailscaleConfig.texts (t : TailscaleConfig) : List (CStr × Nat) :=
  [(t.authKey, 128), (t.hostname, 64), (t.loginServer, 128), (t.advertiseRoutes, 128)]

def AddressList.texts (al : AddressList) : List (CStr × Nat) :=
  [(al.name, 64), (al.description, 128), (al.targetType, 16), (al.targetName, 64)] ++
  al.entries.map fun e => (e.value, 128)

def FluxwanConfig.texts (c : FluxwanConfig) : List (CStr × Nat) :=
  c.core.texts ++ c.telegram.texts ++ [(c.web.bindIp, 64)] ++ c.nat46.texts ++ c.pppoeServer.texts ++
  c.vpn.wireguard.texts ++ c.vpn.zerotier.texts ++ c.vpn.tailscale.texts ++ c.addressLists.flatMap AddressList.texts

/-! ## Plain texts -/

/-- Every text fits its array and can be written as it is. -/
def PlainTexts (texts : List (CStr × Nat)) : Prop := ∀ t ∈ texts, PlainText Key t.1 ∧ t.1.length < t.2

@[simp] theorem plainTexts_cons :
    PlainTexts ((s, n) :: ts) ↔ (PlainText Key s ∧ s.length < n) ∧ PlainTexts ts := List.forall_mem_cons

@[simp] theorem plainTexts_append : PlainTexts (ts ++ us) ↔ PlainTexts ts ∧ PlainTexts us := List.forall_mem_append

@[simp] theorem plainTexts_flatMap {α : Type} {f : α → List (CStr × Nat)} {xs : List α} :
    PlainTexts (xs.flatMap f) ↔ ∀ x ∈ xs, PlainTexts (f x) := by
  constructor
  · intro h x hx t ht
    exact h t (List.mem_flatMap.mpr ⟨x, hx, ht⟩)
  · intro h t ht
    obtain ⟨x, hx, ht⟩ := List.mem_flatMap.mp ht
    exact h x hx t ht

@[simp] theorem plainTexts_map {α : Type} {f : α → CStr × Nat} {xs : List α} :
    PlainTexts (xs.map f) ↔ ∀ x ∈ xs, PlainText Key (f x).1 ∧ (f x).1.length < (f x).2 :=
  List.forall_mem_map

/-- A configuration that can be written without escaping.  The number of names of a group is a field of
    its own in the record. -/
structure FluxwanConfig.Plain (c : FluxwanConfig) : Prop where
  texts : PlainTexts c.texts
  wanCount : ∀ g ∈ c.core.groups, g.wanCount = g.wanNames.length

/-- A text that fits its array is copied into it as it is. -/
theorem copyInto_of_lt (h : s.length < n) : copyInto n s = s :=
  List.take_of_length_le (by omega)

theorem plainText_nil : PlainText Key [] :=
  ⟨fun _ h => absurd h List.not_mem_nil, fun k h => Spelled.name_ne_nil k h.symm⟩

/-! ## Texts that the writer itself puts in -/

/-- A test for plain texts that does not look at the keys. -/
def plainLiteral (l : CStr) : Bool :=
  l.all (fun c => !isSpecial c && decide (32 ≤ c.toNat) && decide (c.toNat ≠ 127)) &&
    (l.any (fun c => !isWord c) || decide (l ∈ Key.fixedWords))

theorem plainText_of_literal (h : plainLiteral l = true) : PlainText Key l := by
  simp only [plainLiteral, Bool.and_eq_true, Bool.or_eq_true, List.all_eq_true, List.any_eq_true, Bool.not_eq_true',
    decide_eq_true_eq] at h
  obtain ⟨hplain, hword⟩ := h
  have hchars : ∀ c ∈ l, isSpecial c = false ∧ 32 ≤ c.toNat ∧ c.toNat ≠ 127 := fun c hc =>
    ⟨(hplain c hc).1.1, (hplain c hc).1.2, (hplain c hc).2⟩
  rcases hword with hword | hfixed
  · exact plainText_of_not_word hchars hword
  · refine ⟨hchars, fun k hk => (Key.spelling_text k).2.2 ?_⟩
    have hname : l = k.text := hk
    rwa [hname] at hfixed

/-- The same for a string literal. -/
theorem plainText_literal {s : String} (hs : s = String.ofList l) (h : plainLiteral l = true) :
    PlainText Key s.toList := Key.of_literal hs (plainText_of_literal h)

theorem plainText_orText (hs : PlainText Key s) (ht : PlainText Key t) : PlainText Key (orText s t) := by
  unfold orText
  split
  · exact hs
  · exact ht

/-- What is written for a text that is left out. -/
abbrev defaultTexts : List String :=
  ["1.1.1.1", "8.8.8.8", "10.100.0.1", "10.100.0.2", "10.100.0.254", "10.250.0.1/24", "FluxWAN", "FluxWAN-BRAS",
    "FluxWAN-BRAS-01", "FluxWAN-Broadband", "WPA2-PSK", "cake", "dual", "eth0", "group", "tls", "vless", "wg0", "ws"]

theorem plainText_of_mem_defaultTexts (ht : t ∈ defaultTexts) : PlainText Key t.toList := by
  have hall : defaultTexts.all (fun t => plainLiteral t.toList) = true := by decide
  exact plainText_of_literal (List.all_eq_true.mp hall t ht)

theorem plainText_default (hs : PlainText Key s) (ht : t ∈ defaultTexts) : PlainText Key (orText s t.toList) :=
  plainText_orText hs (plainText_of_mem_defaultTexts ht)

theorem plainText_type (t : WanType) : PlainText Key t.text := by
  cases t <;> exact plainText_literal rfl (by decide)

theorem plainText_strategy (t : ProxyStrategy) : PlainText Key t.text := by
  cases t <;> exact plainText_literal rfl (by decide)

theorem plainText_radiusProto (p : RadiusProto) : PlainText Key p.text := by
  cases p <;> exact plainText_literal rfl (by decide)

theorem ipToStr_eq (ip : UInt32) :
    ipToStr ip = showNat ip.toUInt8.toNat ++ '.' :: (showNat (ip >>> 8).toUInt8.toNat ++
      '.' :: (showNat (ip >>> 16).toUInt8.toNat ++ '.' :: showNat (ip >>> 24).toUInt8.toNat)) := by
  simp [ipToStr, List.intercalate, List.intersperse]

theorem plainText_ipToStr (ip : UInt32) : PlainText Key (ipToStr ip) := by
  have hdigit (n : Nat) : ∀ c ∈ showNat n, isSpecial c = false ∧ 32 ≤ c.toNat ∧ c.toNat ≠ 127 := by
    intro c hc
    have hd := isDigit_of_mem_showNat hc
    have hrange : 48 ≤ c.toNat ∧ c.toNat ≤ 57 := by
      simp only [Char.isDigit, Bool.and_eq_true, decide_eq_true_eq] at hd
      exact ⟨UInt32.le_iff_toNat_le.mp hd.1, UInt32.le_iff_toNat_le.mp hd.2⟩
    refine ⟨?_, by omega, by omega⟩
    cases hs : isSpecial c with
    | false => rfl
    | true =>
      rw [isDigit_of_isSpecial hs] at hd
      exact absurd hd (by decide)
  have hdot : isSpecial '.' = false ∧ 32 ≤ '.'.toNat ∧ '.'.toNat ≠ 127 := by decide
  rw [ipToStr_eq]
  refine plainText_of_not_word (fun c hc => ?_) ⟨'.', by simp, rfl⟩
  simp only [List.mem_append, List.mem_cons] at hc
  rcases hc with hc | rfl | hc | rfl | hc | rfl | hc
  all_goals first | exact hdot | exact hdigit _ c hc

theorem length_ipToStr (ip : UInt32) : (ipToStr ip).length < 16 := by
  have hoctet (x : UInt32) : (showNat x.toUInt8.toNat).length ≤ 3 :=
    Nat.toDigits_length 10 _ 3 (by decide) (Nat.lt_trans x.toUInt8.toNat_lt (by decide))
  have h0 := hoctet ip
  have h1 := hoctet (ip >>> 8)
  have h2 := hoctet (ip >>> 16)
  have h3 := hoctet (ip >>> 24)
  rw [ipToStr_eq]
  simp only [List.length_append, List.length_cons]
  omega

/-- An address written as a dotted quad is read back. -/
theorem strToIp_ipToStr (ip : UInt32) : strToIp (ipToStr ip) = ip := by
  have hlt (x : UInt32) : x.toUInt8.toNat < 256 := x.toUInt8.toNat_lt
  have hquad := inetPton4_dotted (hlt ip) (hlt (ip >>> 8)) (hlt (ip >>> 16)) (hlt (ip >>> 24))
  have hbytes (x k : Nat) : (x >>> k) % 256 = x / 2 ^ k % 256 := by rw [Nat.shiftRight_eq_div_pow]
  rw [strToIp, ipToStr_eq, hquad]
  have hip : ip.toNat < 2 ^ 32 := ip.toNat_lt
  apply UInt32.toNat.inj
  simp only [UInt32.toNat_ofNat', UInt32.toNat_toUInt8, UInt32.toNat_shiftRight]
  have h8 : (8 : UInt32).toNat % 32 = 8 := rfl
  have h16 : (16 : UInt32).toNat % 32 = 16 := rfl
  have h24 : (24 : UInt32).toNat % 32 = 24 := rfl
  rw [h8, h16, h24, hbytes, hbytes, hbytes]
  omega

/-! ## The objects are flat -/

theorem flat_routeToks {pr : PolicyRoute} (h : PlainTexts pr.texts) : Flat (routeToks pr) := by
  simp only [PolicyRoute.texts, plainTexts_cons] at h
  simp [routeToks, Key.isBlock.eq_def, h]

theorem flat_leaseToks {sl : StaticLease} (h : PlainTexts sl.texts) : Flat (leaseToks sl) := by
  simp only [StaticLease.texts, plainTexts_cons] at h
  simp [leaseToks, Key.isBlock.eq_def, h, plainText_ipToStr]

theorem flat_limitToks {rl : RateLimit} (h : PlainTexts rl.texts) : Flat (limitToks rl) := by
  simp only [RateLimit.texts, plainTexts_cons] at h
  simp [limitToks, Key.isBlock.eq_def, h]

theorem flat_proxyToks {p : ProxyConfig} (h : PlainTexts p.texts) : Flat (proxyToks p) := by
  simp only [ProxyConfig.texts, plainTexts_cons] at h
  unfold proxyToks
  simp [-String.reduceToList, Key.isBlock.eq_def, plainText_default, plainText_orText, plainText_strategy, h]

theorem flat_wanToks {w : WanConfig} (h : PlainTexts w.texts) : Flat (wanToks w) := by
  simp only [WanConfig.texts, plainTexts_append, plainTexts_cons] at h
  unfold wanToks pppToks wifiToks macToks
  simp [-String.reduceToList, Key.isBlock.eq_def, plainText_default,
    plainText_ipToStr, plainText_type, plainText_of_mem_defaultTexts, flat_proxyToks, h]

theorem flat_profileToks {p : PppoeProfile} (h : PlainTexts p.texts) : Flat (profileToks p) := by
  simp only [PppoeProfile.texts, plainTexts_cons] at h
  simp [profileToks, Key.isBlock.eq_def, h]

theorem flat_userToks {u : PppoeUser} (h : PlainTexts u.texts) : Flat (userToks u) := by
  simp only [PppoeUser.texts, plainTexts_cons] at h
  simp [userToks, Key.isBlock.eq_def, h]

theorem flat_peerToks {p : WireguardPeer} (h : PlainTexts p.texts) : Flat (peerToks p) := by
  simp only [WireguardPeer.texts, plainTexts_cons] at h
  simp [peerToks, Key.isBlock.eq_def, h]

theorem flat_networkToks {n : ZerotierNetwork} (h : PlainTexts n.texts) : Flat (networkToks n) := by
  simp only [ZerotierNetwork.texts, plainTexts_cons] at h
  simp [networkToks, Key.isBlock.eq_def, h]

/-! ## Groups and address lists: objects with an array of strings -/

theorem render_nameToks : ∀ xs : List CStr, render (nameToks xs) = quotedAll [',', ' '] xs ++ [']', ',', '\n']
  | [] => by simp [nameToks, render_cons, Tok.text, quotedAll]
  | [x] => by simp [nameToks, render_cons, Tok.text, Value.text, quotedAll]
  | x :: y :: xs => by
    rw [nameToks, render_cons, render_nameToks (y :: xs)]
    simp [Tok.text, Value.text, quotedAll]

theorem written_str (hx : PlainText Key x) (hsep : Separates sep) : Written bs [.val (.str x) sep] := by
  intro t ht
  obtain rfl := List.mem_singleton.mp ht
  exact ⟨⟨hx, hsep⟩, fun k hk => absurd hk (by simp)⟩

theorem written_nameToks : ∀ {xs : List CStr}, (∀ x ∈ xs, PlainText Key x) → Written bs (nameToks xs)
  | [], _ => written_raw (by decide)
  | [x], h => written_str (h x List.mem_cons_self)
      ⟨⟨']', [',', '\n'], rfl, by decide, rfl⟩, by decide, by decide, by decide⟩
  | x :: y :: xs, h => by
    have hsep : Separates [',', ' '] := ⟨⟨',', [' '], rfl, by decide, rfl⟩, by decide, by decide, by decide⟩
    exact written_cons (written_str (h x List.mem_cons_self) hsep)
      (written_nameToks fun z hz => h z (List.mem_cons_of_mem x hz))

/-- The array of names of a group. -/
def wansToks (xs : List CStr) : List (Tok Key) := [.raw (indent 6), .key .wans, .raw ['[']] ++ nameToks xs

theorem written_wansToks (h : ∀ x ∈ xs, PlainText Key x) : Written [.wans] (wansToks xs) :=
  written_cons (written_indent 6) (written_cons (written_key List.mem_cons_self)
    (written_cons (written_raw (by decide)) (written_nameToks h)))

theorem inner_wansToks (h : ∀ x ∈ xs, PlainText Key x) : Inner (wansToks xs) := by
  have htext : render (wansToks xs) =
      (indent 6 ++ (Tok.key Key.wans).text) ++ '[' :: (quotedAll [',', ' '] xs ++ ']' :: [',', '\n']) := by
    rw [wansToks, render_append, render_nameToks]
    simp [render_cons, Tok.text]
  exact inner_of_array (written_wansToks h).sound htext (by simp) (unbracketed_quotedAll (by simp) h) (by simp)

theorem groupToks_eq (g : WanGroup) : groupToks g = (line 6 .id (.num g.id.toNat) ++ line 6 .name (.str g.name) ++
    line 6 .description (.str g.description)) ++ wansToks (g.wanNames.take g.wanCount) ++
      lastLine 6 .enabled (.flag g.enabled) := by
  simp [groupToks, wansToks]

theorem plain_wanNames (h : PlainTexts g.texts) :
    ∀ x ∈ g.wanNames.take g.wanCount, PlainText Key x := by
  simp only [WanGroup.texts, plainTexts_append, plainTexts_map] at h
  exact fun x hx => (h.2 x (List.mem_of_mem_take hx)).1

theorem flat_groupLines (h : PlainTexts g.texts) : Flat (line 6 .id (.num g.id.toNat) ++ line 6 .name (.str g.name) ++
    line 6 .description (.str g.description)) ∧ Flat (lastLine 6 .enabled (.flag g.enabled)) := by
  simp only [WanGroup.texts, plainTexts_append, plainTexts_cons] at h
  simp [Key.isBlock.eq_def, h]

theorem inner_groupToks (h : PlainTexts g.texts) : Inner (groupToks g) := by
  obtain ⟨hhead, hlast⟩ := flat_groupLines h
  rw [groupToks_eq]
  exact (hhead.inner.append (inner_wansToks (plain_wanNames h))).append hlast.inner

theorem written_groupToks (h : PlainTexts g.texts) : Written [.wans] (groupToks g) := by
  obtain ⟨hhead, hlast⟩ := flat_groupLines h
  rw [groupToks_eq]
  exact written_append.mpr ⟨written_append.mpr ⟨hhead.written, written_wansToks (plain_wanNames h)⟩, hlast.written⟩

theorem render_entryToks : ∀ xs : List CStr, render (entryToks xs) =
    entriesPad xs (indent 8) ++ (quotedAll (',' :: '\n' :: indent 8) xs ++ entriesPad xs ['\n'])
  | [] => rfl
  | [x] => by simp [entryToks, render_cons, Tok.text, Value.text, quotedAll, entriesPad]
  | x :: y :: xs => by
    rw [entryToks, render_cons, render_cons, render_entryToks (y :: xs)]
    simp [Tok.text, Value.text, quotedAll, entriesPad]

theorem written_entryToks : ∀ {xs : List CStr}, (∀ x ∈ xs, PlainText Key x) → Written bs (entryToks xs)
  | [], _ => written_nil
  | [x], h => written_cons (written_indent 8) (written_str (h x List.mem_cons_self) separates_newline)
  | x :: _ :: _, h => written_cons (written_indent 8) (written_cons (written_str (h x List.mem_cons_self) separates_comma)
      (written_entryToks fun z hz => h z (List.mem_cons_of_mem x hz)))

/-- The array of entries of an address list. -/
def entriesToks (xs : List CStr) : List (Tok Key) :=
  [.raw (indent 6), .key .entries, .raw ['[', '\n']] ++ entryToks xs ++ [.raw (indent 6 ++ [']', '\n'])]

theorem written_entriesToks (h : ∀ x ∈ xs, PlainText Key x) : Written [.entries] (entriesToks xs) :=
  written_append.mpr ⟨written_append.mpr ⟨written_cons (written_indent 6) (written_cons (written_key List.mem_cons_self)
    (written_raw (by decide))), written_entryToks h⟩, written_raw (unquoted_indent_append 6 (by decide))⟩

theorem render_entriesToks : render (entriesToks xs) =
    (indent 6 ++ (Tok.key Key.entries).text) ++ '[' :: (('\n' :: (entriesPad xs (indent 8) ++
      (quotedAll (',' :: '\n' :: indent 8) xs ++ (entriesPad xs ['\n'] ++ indent 6)))) ++ ']' :: ['\n']) := by
  rw [entriesToks, render_append, render_append, render_entryToks]
  simp [render_cons, Tok.text]

theorem inner_entriesToks (h : ∀ x ∈ xs, PlainText Key x) : Inner (entriesToks xs) := by
  have hall : Unbracketed (quotedAll (',' :: '\n' :: indent 8) xs) := unbracketed_quotedAll (by simp) h
  refine inner_of_array (written_entriesToks h).sound render_entriesToks (by simp) ?_ (by simp)
  simp [unbracketed_entriesPad, hall]

/-- The settings of an address list. -/
def addressListLines (al : AddressList) : List (Tok Key) :=
  line 6 .name (.str al.name) ++ line 6 .description (.str al.description) ++
  line 6 .targetType (.str (orText al.targetType "group".toList)) ++
  line 6 .targetId (.num al.targetId.toNat) ++ line 6 .targetName (.str al.targetName) ++
  line 6 .enabled (.flag al.enabled)

theorem addressListToks_eq (al : AddressList) :
    addressListToks al = addressListLines al ++ entriesToks (al.entries.map (·.value)) := by
  simp [-String.reduceToList, addressListToks, addressListLines, entriesToks]

theorem flat_addressListLines (h : PlainTexts al.texts) : Flat (addressListLines al) := by
  simp only [AddressList.texts, plainTexts_append, plainTexts_cons] at h
  unfold addressListLines
  simp [-String.reduceToList, Key.isBlock.eq_def, plainText_default, h]

theorem plain_entries (h : PlainTexts al.texts) :
    ∀ x ∈ al.entries.map (·.value), PlainText Key x := by
  simp only [AddressList.texts, plainTexts_append, plainTexts_map] at h
  intro x hx
  obtain ⟨e, he, rfl⟩ := List.mem_map.mp hx
  exact (h.2 e he).1

theorem inner_addressListToks (h : PlainTexts al.texts) : Inner (addressListToks al) := by
  rw [addressListToks_eq]
  exact (flat_addressListLines h).inner.append (inner_entriesToks (plain_entries h))

theorem written_addressListToks (h : PlainTexts al.texts) :
    Written [.entries] (addressListToks al) := by
  rw [addressListToks_eq]
  exact written_append.mpr ⟨(flat_addressListLines h).written, written_entriesToks (plain_entries h)⟩

/-! ## The sections -/

theorem written_optArray (hk : k ∈ bs) (hobjs : ∀ o ∈ objs, Flat o) : Written bs (optArray k objs) := by
  unfold optArray
  split
  · exact written_nil
  · exact written_objectArray hk (fun o ho => (hobjs o ho).written) (by decide)

/-- The block keys of the LAN section. -/
def lanBlocks : List Key := [.lan, .policyRoutes, .staticLeases, .rateLimits, .qos, .dns]

theorem flat_lanLines (h : PlainTexts c.lan.texts) : Flat (lanLines c) := by
  simp only [LanConfig.texts, plainTexts_append, plainTexts_cons] at h
  unfold lanLines orIp
  simp [-String.reduceToList, Key.isBlock.eq_def, plainText_default, plainText_ipToStr, h]

theorem written_qosToks (h : PlainTexts lan.texts) : Written [.qos] (qosToks lan.qos) := by
  simp only [LanConfig.texts, plainTexts_append, plainTexts_cons] at h
  unfold qosToks
  simp [-String.reduceToList, Key.isBlock.eq_def, plainText_default, h]

theorem written_dnsToks (h : PlainTexts lan.texts) : Written [.dns] (dnsToks lan.dns) := by
  simp only [LanConfig.texts, plainTexts_append, plainTexts_cons] at h
  unfold dnsToks
  simp [-String.reduceToList, Key.isBlock.eq_def, plainText_default, h]

theorem flat_routes (h : ∀ pr ∈ c.policyRoutes, PlainTexts pr.texts) :
    ∀ o ∈ c.policyRoutes.map routeToks, Flat o :=
  List.forall_mem_map.mpr fun pr hpr => flat_routeToks (h pr hpr)

theorem flat_leases (h : PlainTexts lan.texts) : ∀ o ∈ lan.staticLeases.map leaseToks, Flat o := by
  simp only [LanConfig.texts, plainTexts_append, plainTexts_flatMap] at h
  exact List.forall_mem_map.mpr fun sl hsl => flat_leaseToks (h.1.2 sl hsl)

theorem flat_limits (h : PlainTexts lan.texts) : ∀ o ∈ lan.rateLimits.map limitToks, Flat o := by
  simp only [LanConfig.texts, plainTexts_append, plainTexts_flatMap] at h
  exact List.forall_mem_map.mpr fun rl hrl => flat_limitToks (h.2 rl hrl)

theorem written_lanToks (hlan : PlainTexts c.lan.texts)
    (hroutes : ∀ pr ∈ c.policyRoutes, PlainTexts pr.texts) : Written lanBlocks (lanToks c) := by
  have hlines : Written lanBlocks (lanLines c) := (flat_lanLines hlan).written
  have hqos : Written lanBlocks (qosToks c.lan.qos) := (written_qosToks hlan).mono (by decide)
  have hdns : Written lanBlocks (dnsToks c.lan.dns) := (written_dnsToks hlan).mono (by decide)
  simp (disch := decide) [lanToks, written_openBlock, hlines, hqos, hdns, written_optArray _ (flat_routes hroutes),
    written_optArray _ (flat_leases hlan), written_optArray _ (flat_limits hlan)]

theorem written_topArray (hk : k ∈ bs) (hobjs : ∀ o ∈ objs, Written bs o) : Written bs (topArray k objs) := by
  unfold topArray
  split
  · exact written_cons (written_indent 2) (written_cons (written_key hk) (written_raw (by decide)))
  · exact written_objectArray hk hobjs (by decide)

theorem written_groups {gs : List WanGroup} (h : ∀ g ∈ gs, PlainTexts g.texts) :
    Written [.groups, .wans] (topArray .groups (gs.map groupToks)) :=
  written_topArray (by decide) (List.forall_mem_map.mpr fun g hg => (written_groupToks (h g hg)).mono (by decide))

theorem written_wans {ws : List WanConfig} (h : ∀ w ∈ ws, PlainTexts w.texts) :
    Written [.wans] (topArray .wans (ws.map wanToks)) :=
  written_topArray (by decide) (List.forall_mem_map.mpr fun w hw => (flat_wanToks (h w hw)).written)

theorem written_radiusToks {r : RadiusConfig} (h : PlainTexts r.texts) : Written [.radius] (radiusToks r) := by
  simp only [RadiusConfig.texts, plainTexts_cons] at h
  unfold radiusToks
  simp [-String.reduceToList, Key.isBlock.eq_def, plainText_default, plainText_radiusProto, h]

theorem flat_pppoeLines {p : PppoeServerConfig} (h : PlainTexts p.texts) : Flat (pppoeLines p) := by
  simp only [PppoeServerConfig.texts, plainTexts_append, plainTexts_cons] at h
  unfold pppoeLines
  simp [-String.reduceToList, Key.isBlock.eq_def, plainText_default, h]

/-- The block keys of the PPPoE server. -/
def pppoeBlocks : List Key := [.pppoeServer, .radius, .profiles, .users]

theorem written_pppoeToks {p : PppoeServerConfig} (h : PlainTexts p.texts) : Written pppoeBlocks (pppoeToks p) := by
  have hlines : Written pppoeBlocks (pppoeLines p) := (flat_pppoeLines h).written
  simp only [PppoeServerConfig.texts, plainTexts_append, plainTexts_flatMap] at h
  obtain ⟨⟨⟨-, hradius⟩, hprofiles⟩, husers⟩ := h
  have hradius' : Written pppoeBlocks (radiusToks p.radius) := (written_radiusToks hradius).mono (by decide)
  have hobjects {α : Type} {f : α → List (Tok Key)} {xs : List α} (hf : ∀ x ∈ xs, Flat (f x)) :
      ∀ o ∈ xs.map f, Written pppoeBlocks o := List.forall_mem_map.mpr fun x hx => (hf x hx).written
  have hprofiles' : Written pppoeBlocks (objectArray 4 .profiles (p.profiles.map profileToks) [',', '\n']) :=
    written_objectArray (by decide) (hobjects fun q hq => flat_profileToks (hprofiles q hq)) (by decide)
  have husers' : Written pppoeBlocks (objectArray 4 .users (p.users.map userToks) ['\n']) :=
    written_objectArray (by decide) (hobjects fun u hu => flat_userToks (husers u hu)) (by decide)
  have hopen : Written pppoeBlocks (openBlock 2 .pppoeServer) := written_openBlock (by decide)
  simp [pppoeToks, hopen, hlines, hradius', hprofiles', husers']

/-- The settings of the WireGuard block before its peers. -/
def wireguardHead (w : WireguardConfig) : List (Tok Key) :=
  line 6 .enabled (.flag w.enabled) ++ line 6 .interface (.str (orText w.interface "wg0".toList)) ++
  line 6 .listenPort (.num (orNum w.listenPort 51820).toNat) ++
  line 6 .address (.str (orText w.address "10.250.0.1/24".toList)) ++
  line 6 .privateKey (.str w.privateKey) ++ line 6 .publicKey (.str w.publicKey) ++
  line 6 .allowRemoteMgmt (.flag w.allowRemoteMgmt)

/-- The settings of the ZeroTier block before its networks. -/
def zerotierHead (z : ZerotierConfig) : List (Tok Key) :=
  line 6 .enabled (.flag z.enabled) ++ line 6 .nodeId (.str z.nodeId) ++
  line 6 .allowRemoteMgmt (.flag z.allowRemoteMgmt)

theorem flat_wireguardHead (h : PlainTexts w.texts) : Flat (wireguardHead w) := by
  simp only [WireguardConfig.texts, plainTexts_append, plainTexts_cons] at h
  unfold wireguardHead
  simp [-String.reduceToList, Key.isBlock.eq_def, plainText_default, h]

theorem flat_zerotierHead (h : PlainTexts z.texts) : Flat (zerotierHead z) := by
  simp only [ZerotierConfig.texts, plainTexts_append, plainTexts_cons] at h
  unfold zerotierHead
  simp [Key.isBlock.eq_def, h]

theorem flat_tailscaleLines {t : TailscaleConfig} (h : PlainTexts t.texts) : Flat (tailscaleLines t) := by
  simp only [TailscaleConfig.texts, plainTexts_cons] at h
  unfold tailscaleLines
  simp [-String.reduceToList, Key.isBlock.eq_def, plainText_default, h]

theorem flat_peers (h : PlainTexts w.texts) : ∀ o ∈ w.peers.map peerToks, Flat o := by
  simp only [WireguardConfig.texts, plainTexts_append, plainTexts_flatMap] at h
  exact List.forall_mem_map.mpr fun p hp => flat_peerToks (h.2 p hp)

theorem flat_networks (h : PlainTexts z.texts) : ∀ o ∈ z.networks.map networkToks, Flat o := by
  simp only [ZerotierConfig.texts, plainTexts_append, plainTexts_flatMap] at h
  exact List.forall_mem_map.mpr fun n hn => flat_networkToks (h.2 n hn)

/-- The block keys inside the VPN block. -/
def vpnBlocks : List Key := [.wireguard, .peers, .zerotier, .networks, .tailscale]

theorem written_wireguardLines (h : PlainTexts w.texts) : Written [.peers] (wireguardLines w) :=
  written_append.mpr ⟨(flat_wireguardHead h).written,
    written_objectArray (by decide) (fun o ho => (flat_peers h o ho).written) (by decide)⟩

theorem written_zerotierLines (h : PlainTexts z.texts) : Written [.networks] (zerotierLines z) :=
  written_append.mpr ⟨(flat_zerotierHead h).written,
    written_objectArray (by decide) (fun o ho => (flat_networks h o ho).written) (by decide)⟩

theorem written_vpnLines {v : VpnConfig} (hwg : PlainTexts v.wireguard.texts) (hzt : PlainTexts v.zerotier.texts)
    (hts : PlainTexts v.tailscale.texts) : Written vpnBlocks (vpnLines v) := by
  have hwg' : Written vpnBlocks (wireguardLines v.wireguard) := (written_wireguardLines hwg).mono (by decide)
  have hzt' : Written vpnBlocks (zerotierLines v.zerotier) := (written_zerotierLines hzt).mono (by decide)
  have hts' : Written vpnBlocks (tailscaleLines v.tailscale) := (flat_tailscaleLines hts).written
  simp (disch := decide) [vpnLines, written_openBlock, hwg', hzt', hts']

theorem written_addressListsToks (h : ∀ al ∈ lists, PlainTexts al.texts) :
    Written [.addressLists, .entries] (addressListsToks lists) := by
  unfold addressListsToks
  split
  · exact written_closeLast
  · exact written_append.mpr ⟨written_closeBlock, written_objectArray (by decide)
      (List.forall_mem_map.mpr fun al hal => (written_addressListToks (h al hal)).mono (by decide)) (by decide)⟩

end FluxWAN
