/-
  Share links: nesting, and the servers of a tunnel (`src/proxy_manager.c`: `proxy_manager_parse_endpoint`,
  `proxy_manager_sync_servers`).

  1. **Nesting** — a `v2box://` link is parsed by parsing what it wraps.  A level costs a quarter of the text and
     the eight characters in front of it, so 27 calls are enough for every string (`parseWithin_enough`).

  2. **Servers** — `syncServers` copies from the single fields to the first server, parses the links that have no
     server yet, and copies back.  A parsed link keeps its text (`parseLink_rawUri`), so parsing it again gives the
     same; that makes one pass a fixed point (`syncServers_settles`).
-/
import FluxWAN.ProxyManager

namespace FluxWAN

open CString

/-! ## Nested links -/

/-- `proxy_manager_parse_endpoint` with room on the stack for so many calls. -/
def parseWithin : Nat → CStr → Option (Bool × ProxyServer)
  | 0, _ => none
  | calls + 1, uri =>
    match v2boxPayload (copyInto 2048 uri) with
    | none => some (parseLink (copyInto 2048 uri))
    | some p =>
      if base64Decode 2048 p = [] then some (false, blankServer (copyInto 2048 uri))
      else (parseWithin calls (cstr (base64Decode 2048 p))).map fun (ok, ep) =>
        (ok, if ok then { ep with rawUri := copyInto 2048 uri } else ep)

/-- A level takes a quarter of the text, and no link is shorter than eight characters. -/
theorem parseWithin_of_lt (n : Nat) : ∀ uri : CStr, 3 ^ n * (copyInto 2048 uri).length < 8 * 4 ^ n →
    parseWithin (n + 1) uri = some (parseEndpoint uri) := by
  induction n with
  | zero =>
    intro uri hlt
    rw [parseWithin, parseEndpoint_eq]
    cases hp : v2boxPayload (copyInto 2048 uri) with
    | none => rfl
    | some p =>
      have := length_v2boxPayload_le hp
      omega
  | succ n ih =>
    intro uri hlt
    rw [parseWithin, parseEndpoint_eq]
    cases hp : v2boxPayload (copyInto 2048 uri) with
    | none => rfl
    | some p =>
      have hpayload := length_v2boxPayload_le hp
      have hdecoded := length_cstr_base64Decode_le 2048 p
      have hcut : (copyInto 2048 (cstr (base64Decode 2048 p))).length ≤ (cstr (base64Decode 2048 p)).length :=
        List.length_take_le' _ _
      have hscaled : 4 * (3 ^ n * (copyInto 2048 (cstr (base64Decode 2048 p))).length) ≤
          3 * (3 ^ n * (copyInto 2048 uri).length) := by
        rw [Nat.mul_left_comm 4, Nat.mul_left_comm 3]
        exact Nat.mul_le_mul_left _ (by omega)
      rw [Nat.pow_succ', Nat.pow_succ', Nat.mul_assoc] at hlt
      dsimp only
      by_cases hempty : base64Decode 2048 p = []
      · rw [if_pos hempty, if_pos hempty]
      · rw [if_neg hempty, if_neg hempty, ih _ (by omega)]
        rfl

/-- **Nesting ends.**  Whatever the string, each nested call gets at most three quarters of the payload around it,
    and 27 calls are enough. -/
theorem parseWithin_enough (uri : CStr) :
    (∀ p, v2boxPayload (copyInto 2048 uri) = some p → 4 * (cstr (base64Decode 2048 p)).length ≤ 3 * p.length) ∧
      parseWithin 27 uri = some (parseEndpoint uri) := by
  refine ⟨fun p _ => length_cstr_base64Decode_le 2048 p, parseWithin_of_lt 26 uri ?_⟩
  have hle : (copyInto 2048 uri).length ≤ 2047 := List.length_take_le _ _
  omega

/-! ## The servers of a tunnel -/

section
variable (ep : ProxyServer) (b : Bool) (p uri : CStr)

@[simp] theorem rawUri_fillHost : ep.fillHost.rawUri = ep.rawUri := by
  unfold ProxyServer.fillHost
  split <;> rfl

@[simp] theorem rawUri_fillSni : ep.fillSni.rawUri = ep.rawUri := by
  unfold ProxyServer.fillSni
  split <;> rfl

@[simp] theorem rawUri_plainPort80 : ep.plainPort80.rawUri = ep.rawUri := by
  unfold ProxyServer.plainPort80
  split <;> rfl

@[simp] theorem rawUri_parseAuthority : (parseAuthority ep b p).2.rawUri = ep.rawUri := by
  unfold parseAuthority
  cases strchr p '@' with
  | none => rfl
  | some at_ =>
    dsimp only
    cases strchr (at_.drop 1) ':' with
    | none => rfl
    | some colon =>
      cases strchr (at_.drop 1) '?' <;> simp

@[simp] theorem rawUri_parseShadowsocks : (parseShadowsocks ep p).2.rawUri = ep.rawUri := by
  unfold parseShadowsocks
  split
  · rfl
  · dsimp only
    split <;> rfl

/-- Whatever becomes of a link, its text is kept. -/
theorem parseLink_rawUri : (parseLink uri).2.rawUri = uri := by
  unfold parseLink
  split_ifs <;> simp [blankServer, parseVmess]

end

/-- A link that ends inside its array and wraps no other one. -/
def PlainLink (uri : CStr) : Prop := uri.length < 2048 ∧ v2boxPayload uri = none

theorem PlainLink.rawUri_parse (h : PlainLink uri) : (parseEndpoint uri).2.rawUri = uri := by
  have hcut : copyInto 2048 uri = uri := List.take_of_length_le (Nat.le_sub_one_of_lt h.1)
  rw [parseEndpoint_eq, hcut, h.2]
  exact parseLink_rawUri uri

/-- A server that the loop leaves as it is: parsing its link gives nothing new, and it has a weight. -/
structure ProxyEndpoint.Synced (ep : ProxyEndpoint) : Prop where
  link : ep.fields.rawUri ≠ [] → ep.fields.server = [] → { fields := (parseEndpoint ep.fields.rawUri).2 } = ep
  weight : ep.fields.server ≠ [] → ep.weight ≠ 0

theorem ProxyEndpoint.Synced.syncEndpoint_eq {ep : ProxyEndpoint} (h : ep.Synced) : syncEndpoint ep = ep := by
  have hlink : (if ep.fields.rawUri ≠ [] ∧ ep.fields.server = [] then
      { fields := (parseEndpoint ep.fields.rawUri).2 } else ep) = ep := by
    split_ifs with hparse
    · exact h.link hparse.1 hparse.2
    · rfl
  rw [syncEndpoint, hlink]
  exact if_neg fun hw => h.weight hw.1 hw.2

theorem synced_syncEndpoint {ep : ProxyEndpoint} (h : PlainLink ep.fields.rawUri) : (syncEndpoint ep).Synced := by
  have hraw := h.rawUri_parse
  have hundred : (100 : UInt32) ≠ 0 := by decide
  rw [syncEndpoint]
  by_cases hparse : ep.fields.rawUri ≠ [] ∧ ep.fields.server = []
  · rw [if_pos hparse]
    split_ifs with hserver
    · exact ⟨fun _ hnone => absurd hnone hserver.1, fun _ => hundred⟩
    · have hnone : (parseEndpoint ep.fields.rawUri).2.server = [] := by simpa using hserver
      exact ⟨fun _ _ => by simp only [hraw], fun hs => absurd hnone hs⟩
  · rw [if_neg hparse]
    split_ifs with hserver
    · exact ⟨fun _ hnone => absurd hnone hserver.1, fun _ => hundred⟩
    · exact ⟨fun hlink hnone => absurd ⟨hlink, hnone⟩ hparse, fun hs hw => hserver ⟨hs, hw⟩⟩

theorem syncEndpoint_of_server {ep : ProxyEndpoint} (h : ep.fields.server ≠ []) :
    (syncEndpoint ep).fields = ep.fields := by
  simp only [syncEndpoint, h, and_false, if_false]
  split <;> rfl

theorem rawUri_syncEndpoint {ep : ProxyEndpoint} (h : PlainLink ep.fields.rawUri) :
    (syncEndpoint ep).fields.rawUri = ep.fields.rawUri := by
  rw [syncEndpoint]
  split_ifs <;> first | exact h.rawUri_parse | rfl

def ProxyConfig.servers (p : ProxyConfig) : List ProxyEndpoint := [p.servers0, p.servers1, p.servers2]

/-- All four links are plain. -/
structure ProxyConfig.PlainLinks (p : ProxyConfig) : Prop where
  primary : PlainLink p.primary.rawUri
  servers : ∀ s ∈ p.servers, PlainLink s.fields.rawUri

section
variable {p : ProxyConfig}

/-- A server in the first place keeps its address; the link may be filled in. -/
theorem firstServer_of_server (hs : p.servers0.fields.server ≠ []) :
    (firstServer p).fields.server = p.servers0.fields.server ∧ (firstServer p).fields.port = p.servers0.fields.port := by
  unfold firstServer
  dsimp only
  split_ifs <;> simp_all

/-- Without a server in the first place there is none to take over, nor a link. -/
theorem primary_of_firstServer (hs : (firstServer p).fields.server = []) :
    p.primary.server = [] ∧ ((firstServer p).fields.rawUri = [] → p.primary.rawUri = []) := by
  revert hs
  unfold firstServer
  dsimp only
  split_ifs <;> simp_all

theorem firstServer_eq_self (hserver : p.servers0.fields.server = [] → p.primary.server = [])
    (hlink : p.servers0.fields.rawUri = [] → p.primary.rawUri = []) : firstServer p = p.servers0 := by
  unfold firstServer
  dsimp only
  have hfirst : ¬(p.servers0.fields.rawUri = [] ∧ p.primary.rawUri ≠ []) := fun hs => hs.2 (hlink hs.1)
  rw [if_neg hfirst, if_neg fun hs => hs.2 (hserver hs.1)]

theorem plainLink_firstServer (h : p.PlainLinks) : PlainLink (firstServer p).fields.rawUri := by
  have h0 := h.servers p.servers0 List.mem_cons_self
  have hp := h.primary
  unfold firstServer
  dsimp only
  split_ifs <;> assumption

/-- What is copied back is what would be taken over again. -/
theorem firstServer_syncServers (h : p.PlainLinks) : firstServer (syncServers p) = (syncServers p).servers0 := by
  have hraw := rawUri_syncEndpoint (plainLink_firstServer h)
  have hnone (hs : (syncEndpoint (firstServer p)).fields.server = []) : (firstServer p).fields.server = [] := by
    by_contra hne
    rw [syncEndpoint_of_server hne] at hs
    exact hne hs
  by_cases hs : (syncEndpoint (firstServer p)).fields.server = []
  · have hprimary : (syncServers p).primary = p.primary := if_neg (not_not.mpr hs)
    obtain ⟨hserver, hlink⟩ := primary_of_firstServer (hnone hs)
    refine firstServer_eq_self (fun _ => hprimary ▸ hserver) fun hr => ?_
    rw [hprimary]
    exact hlink (hraw.symm.trans hr)
  · have hprimary : (syncServers p).primary = (syncServers p).servers0.fields := if_pos hs
    exact firstServer_eq_self (fun hs' => hprimary ▸ hs') fun hr => hprimary ▸ hr

theorem synced_syncServers (h : p.PlainLinks) : ∀ s ∈ (syncServers p).servers, s.Synced := by
  show ∀ s ∈ [syncEndpoint (firstServer p), syncEndpoint p.servers1, syncEndpoint p.servers2], s.Synced
  simp only [List.forall_mem_cons]
  exact ⟨synced_syncEndpoint (plainLink_firstServer h), synced_syncEndpoint (h.servers _ (by simp [ProxyConfig.servers])),
    synced_syncEndpoint (h.servers _ (by simp [ProxyConfig.servers])), fun _ hs => absurd hs List.not_mem_nil⟩

theorem syncServers_syncServers (h : p.PlainLinks) : syncServers (syncServers p) = syncServers p := by
  have hsynced := synced_syncServers h
  have h0 : syncEndpoint (firstServer (syncServers p)) = (syncServers p).servers0 := by
    rw [firstServer_syncServers h]
    exact (hsynced _ List.mem_cons_self).syncEndpoint_eq
  have h1 : syncEndpoint (syncServers p).servers1 = (syncServers p).servers1 :=
    (hsynced _ (by simp [ProxyConfig.servers])).syncEndpoint_eq
  have h2 : syncEndpoint (syncServers p).servers2 = (syncServers p).servers2 :=
    (hsynced _ (by simp [ProxyConfig.servers])).syncEndpoint_eq
  rw [syncServers, h0, h1, h2]
  by_cases hs : (syncEndpoint (firstServer p)).fields.server = [] <;> simp [syncServers, hs]

/-- The primary fields and `server_count` after a call. -/
def ProxyConfig.Mirrors (p : ProxyConfig) : Prop :=
  p.servers0.fields.server ≠ [] →
    p.primary = p.servers0.fields ∧
    p.serverCount.toNat = (p.servers.filter fun s => s.fields.server ≠ []).length ∧
    ∀ s ∈ p.servers, s.fields.server ≠ [] → s.weight ≠ 0

theorem mirrors_syncServers (h : p.PlainLinks) : (syncServers p).Mirrors := by
  intro hs
  refine ⟨if_pos hs, ?_, fun s hmem => (synced_syncServers h s hmem).weight⟩
  have hle := List.countP_le_length (p := fun s => decide (s.fields.server ≠ [])) (l := (syncServers p).servers)
  have hpos : 0 < (syncServers p).servers.countP fun s => decide (s.fields.server ≠ []) :=
    List.countP_pos_iff.mpr ⟨_, List.mem_cons_self, decide_eq_true hs⟩
  have hthree : (syncServers p).servers.length < UInt32.size := show 3 < _ by decide
  rw [← List.countP_eq_length_filter]
  exact (congrArg UInt32.toNat (if_pos hpos)).trans (UInt32.toNat_ofNat_of_lt (hle.trans_lt hthree))

/--
`proxy_manager_sync_servers` keeps the address of every server that has one, settles in one call, and
leaves the primary fields and the count in step with the servers.
-/
theorem syncServers_settles (h : p.PlainLinks) :
    List.Forall₂ (fun s s' => s.fields.server ≠ [] →
      s'.fields.server = s.fields.server ∧ s'.fields.port = s.fields.port) p.servers (syncServers p).servers ∧
    syncServers (syncServers p) = syncServers p ∧ (syncServers p).Mirrors := by
  refine ⟨?_, syncServers_syncServers h, mirrors_syncServers h⟩
  have hkeeps (s : ProxyEndpoint) (hs : s.fields.server ≠ []) :
      (syncEndpoint s).fields.server = s.fields.server ∧ (syncEndpoint s).fields.port = s.fields.port := by
    rw [syncEndpoint_of_server hs]
    exact ⟨rfl, rfl⟩
  refine .cons (fun hs => ?_) (.cons (hkeeps _) (.cons (hkeeps _) .nil))
  obtain ⟨hserver, hport⟩ := firstServer_of_server hs
  exact hserver ▸ hport ▸ hkeeps _ (hserver ▸ hs)

/-- A single link in the primary fields moves to `servers[0]` and is read there. -/
theorem syncServers_settles_link :
    let p : ProxyConfig := { primary := { rawUri := "ss://k@h:1".toList } }
    (syncServers p).servers0.fields.server = ['h'] ∧ (syncServers p).Mirrors := by
  intro p
  have hplain : p.PlainLinks := ⟨by unfold PlainLink; decide, by unfold PlainLink; decide⟩
  exact ⟨by decide +kernel, (syncServers_settles hplain).2.2⟩

end

end FluxWAN
