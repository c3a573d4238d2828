/-
  The WAN manager (`src/wan_manager.c`): weights, rings and the callbacks that trigger them.

  `rebalance` is the one place where steering data is made: it derives every WAN's dynamic weight from
  its state, bandwidth and RTT, rebuilds the default ring and every group ring from those weights, and
  pushes everything to the kernel tables.  The health and PPPoE callbacks change a WAN's state and are
  then supposed to call it.

  MAIN RESULTS

  * `rebalance_wans`        — what a rebalance does to each WAN, in one equation;
  * `reweigh_isActive`      — after it, "may receive flows" is exactly "enabled, neither DOWN nor
    DRAINING": a usable WAN always ends with a positive weight;
  * `rebalance_rings_sound` — with a usable member, all 65537 slots of a ring hold usable members.

  The environment of a call (licence verdict, interface indices, leftover stack contents) is an
  explicit parameter.
-/
import FluxWAN.BpfLoader
import FluxWAN.Maglev

namespace FluxWAN

open CString

/-! ## State -/

/-- What a manager call reads from outside the configuration. -/
structure Env where
  /-- `license_is_authorized()`. -/
  licenseAuthorized : Bool := true
  /-- `if_nametoindex`. -/
  ifNameToIndex : CStr → UInt32 := fun _ => 0
  /-- Stack contents under the k-th ring built by the call. -/
  stack : Nat → Nat → StackCell := fun _ _ => ⟨0, 0, 0, 0⟩

/-- `struct wan_manager_ctx`.  `bpf = none` is a manager without loader or kernel maps. -/
structure WanManagerCtx where
  config : Config
  bpf : Option Tables := none
  maglevLut : MaglevRing := Vector.replicate _ 0

/-! ## Rings -/

/-- `all_indices`. -/
def Config.allIndices (c : Config) : List UInt32 :=
  (List.range c.wans.length).map UInt32.ofNat

/-- The group loop's body: a group without names keeps its old ring. -/
def rebuildGroup (env : Env) (c : Config) (g : Nat) (grp : WanGroup) : WanGroup :=
  if grp.wanCount > 0 then
    { grp with maglevRing := buildSingleMaglevRing c (env.stack (g + 1)) grp.memberIndices }
  else grp

/-- Push the rings of the non-empty groups. -/
def syncGroups (groups : List WanGroup) (t : Tables) : Tables :=
  groups.foldl
    (fun t grp => if grp.wanCount > 0 then t.updateGroupMaglevLut grp.id grp.maglevRing else t) t

/-- `wan_manager_generate_maglev_lut`. -/
def generateMaglevLut (env : Env) (ctx : WanManagerCtx) : WanManagerCtx :=
  let c := ctx.config
  if c.wans.length = 0 then ctx
  else
    let lut := buildSingleMaglevRing c (env.stack 0) c.allIndices
    let groups := c.groups.mapIdx (rebuildGroup env c)
    { config := { c with groups, groups_le := by simpa [groups] using c.groups_le }
      maglevLut := lut
      bpf := ctx.bpf.map fun t =>
        (syncGroups groups (t.updateMaglevLut lut)).updatePolicyRoutes c.policyRoutes }

/-! ## Weights -/

/-- `min_healthy_rtt`: the lowest measured RTT among enabled HEALTHY WANs, 999999 if there is none. -/
def minHealthyRtt (wans : List WanConfig) : UInt32 :=
  wans.foldl
    (fun m w =>
      if w.enabled = true ∧ w.state = .healthy ∧ w.metrics.rttMs > 0 then
        if w.metrics.rttMs < m then w.metrics.rttMs else m
      else m) 999999

/-- Bandwidth if known, else the configured weight, never 0. -/
def baseWeight (w : WanConfig) : UInt32 :=
  let base := if w.bandwidthDownMbps > 0 then w.bandwidthDownMbps else w.configWeight
  if base = 0 then 1 else base

/-- A DEGRADED link gets a quarter of its base weight, but not nothing. -/
def stateWeight (w : WanConfig) : UInt32 :=
  if w.state = .degraded then
    let quarter := baseWeight w / 4
    if quarter = 0 then 1 else quarter
  else baseWeight w

/-- The latency penalty on top, in 32-bit arithmetic. -/
def steeredWeight (steering : Bool) (minRtt : UInt32) (w : WanConfig) : UInt32 :=
  if steering = true ∧ minRtt < 999999 ∧ w.metrics.rttMs > minRtt + 60 then
    let scaled := (stateWeight w * minRtt) / w.metrics.rttMs
    if scaled > 0 then scaled else 1
  else stateWeight w

/-- The weight loop's body. -/
def reweigh (steering : Bool) (minRtt : UInt32) (w : WanConfig) : WanConfig :=
  if w.enabled = false ∨ w.state = .down then
    { w with dynamicWeight := 0, state := if w.enabled = false then .down else w.state }
  else if w.state = .draining then
    { w with dynamicWeight := 0 }
  else
    { w with dynamicWeight := steeredWeight steering minRtt w }

/-- `active_count` of the control-map sync. -/
def activeCount (wans : List WanConfig) : Nat :=
  wans.countP fun w => w.enabled && w.state ≠ .down

/-- `wan_manager_rebalance`.  An unauthorised call zeroes the weights and stops there: rings, policy
    entries and control record keep their old contents. -/
def rebalance (env : Env) (ctx : WanManagerCtx) : WanManagerCtx :=
  if env.licenseAuthorized = false then
    let c := ctx.config.mapWans fun w => { w with dynamicWeight := 0 }
    { ctx with config := c, bpf := ctx.bpf.map (·.updateWanMaps env.ifNameToIndex c.wans) }
  else
    let minRtt := minHealthyRtt ctx.config.wans
    let c := ctx.config.mapWans (reweigh ctx.config.prober.dynamicLatencySteering minRtt)
    let ctx := generateMaglevLut env
      { ctx with config := c, bpf := ctx.bpf.map (·.updateWanMaps env.ifNameToIndex c.wans) }
    { ctx with
      bpf := ctx.bpf.map
        (·.updateCtrlMap c.lanIpAddr (UInt32.ofNat (activeCount c.wans)) 1 0) }

/-! ## Callbacks -/

/-- `wan_manager_on_health_update`.  The metrics pointer the prober passes aliases the WAN's own
    metrics, so the copy changes nothing there; the rebalance depends on whether the STORED state
    differs from the reported one. -/
def onHealthUpdate (env : Env) (ctx : WanManagerCtx) (wanIdx : Nat) (state : WanState)
    (metrics : Option WanMetrics) : WanManagerCtx :=
  match ctx.config.wans[wanIdx]? with
  | none => ctx
  | some w =>
    let ctx := { ctx with
      config := ctx.config.modifyWan wanIdx fun w => { w with metrics := metrics.getD w.metrics } }
    if w.state = .draining then ctx
    else
      let ctx := { ctx with
        config := ctx.config.modifyWan wanIdx fun w => { w with state := state } }
      if w.state ≠ state then rebalance env ctx else ctx

/-- What a PPPoE session coming up writes into its WAN. -/
def pppoeConnect (ip gw : UInt32) (w : WanConfig) : WanConfig :=
  let w := { w with
    state := .healthy, ipAddr := htonl ip, gateway := htonl gw, netmask := strToIp "255.255.255.255".toList }
  if w.probeTargetIp = 0 then
    match w.probeTarget with
    | [] => { w with probeTargetIp := strToIp "8.8.8.8".toList, probeTarget := "8.8.8.8".toList }
    | _ :: _ => { w with probeTargetIp := strToIp w.probeTarget }
  else w

/-- `on_pppoe_connected_cb`, without the routes and firewall rules it installs. -/
def onPppoeConnected (env : Env) (ctx : WanManagerCtx) (wanIdx : Nat) (ip gw : UInt32) :
    WanManagerCtx :=
  if wanIdx ≥ ctx.config.wans.length then ctx
  else rebalance env { ctx with config := ctx.config.modifyWan wanIdx (pppoeConnect ip gw) }

/-- `on_pppoe_disconnected_cb`. -/
def onPppoeDisconnected (env : Env) (ctx : WanManagerCtx) (wanIdx : Nat) : WanManagerCtx :=
  if wanIdx ≥ ctx.config.wans.length then ctx
  else
    rebalance env
      { ctx with config := ctx.config.modifyWan wanIdx fun w => { w with state := .down } }

/-! ## What a rebalance does to a WAN -/

/-- The idiom by which a weight is kept off 0. -/
theorem pos_of_orOne (x : UInt32) : 0 < if x = 0 then 1 else x := by
  split
  · decide
  · rename_i h; exact UInt32.pos_iff_ne_zero.mpr h

theorem baseWeight_pos (w : WanConfig) : 0 < baseWeight w := pos_of_orOne _

theorem stateWeight_pos (w : WanConfig) : 0 < stateWeight w := by
  unfold stateWeight
  by_cases hdeg : w.state = .degraded
  · rw [if_pos hdeg]; exact pos_of_orOne _
  · rw [if_neg hdeg]; exact baseWeight_pos w

theorem steeredWeight_pos (steering : Bool) (w : WanConfig) : 0 < steeredWeight steering minRtt w := by
  simp only [steeredWeight]
  split
  · split
    · rename_i h; exact h
    · decide
  · exact stateWeight_pos w

section
variable (steering : Bool) (minRtt : UInt32) (w : WanConfig)

/-- A reweighing writes the weight and the state, and nothing else. -/
theorem reweigh_frame : ∃ state dynamicWeight, reweigh steering minRtt w = { w with state, dynamicWeight } := by
  unfold reweigh
  split
  · exact ⟨_, _, rfl⟩
  · split
    · exact ⟨w.state, _, rfl⟩
    · exact ⟨w.state, _, rfl⟩

@[simp] theorem reweigh_enabled : (reweigh steering minRtt w).enabled = w.enabled := by
  obtain ⟨_, _, h⟩ := reweigh_frame steering minRtt w
  rw [h]

/-- A rebalance changes a state only to mark a DISABLED WAN as DOWN. -/
theorem reweigh_state :
    (reweigh steering minRtt w).state = if w.enabled = false then .down else w.state := by
  unfold reweigh
  by_cases he : w.enabled = false
  · rw [if_pos (.inl he)]
  · simp only [if_neg he]
    split
    · rfl
    · split <;> rfl

/-- Usability is not changed by a rebalance, … -/
@[simp] theorem reweigh_isUsable : (reweigh steering minRtt w).isUsable = w.isUsable := by
  unfold WanConfig.isUsable
  rw [reweigh_enabled, reweigh_state]
  cases he : w.enabled <;> simp

/-- … and the weight it computes is positive exactly for the usable WANs. -/
theorem reweigh_weight_pos :
    0 < (reweigh steering minRtt w).dynamicWeight ↔ w.isUsable = true := by
  rw [WanConfig.isUsable_iff]
  unfold reweigh
  by_cases h1 : w.enabled = false ∨ w.state = .down
  · rw [if_pos h1]
    refine ⟨fun h => absurd h (by simp), ?_⟩
    rintro ⟨he, hd, _⟩
    rcases h1 with h1 | h1
    · rw [he] at h1; cases h1
    · exact absurd h1 hd
  · rw [if_neg h1]
    push Not at h1
    by_cases h2 : w.state = .draining
    · rw [if_pos h2]
      exact ⟨fun h => absurd h (by simp), fun h => absurd h2 h.2.2⟩
    · rw [if_neg h2]
      exact ⟨fun _ => ⟨by simpa using h1.1, h1.2, h2⟩, fun _ => steeredWeight_pos _ _⟩

/-- **After a rebalance, active means usable.** -/
theorem reweigh_isActive : (reweigh steering minRtt w).isActive = w.isUsable := by
  rw [Bool.eq_iff_iff, WanConfig.isActive_iff, reweigh_isUsable, reweigh_weight_pos]
  exact and_self_iff

end

/-! ## What a rebalance does to the rings -/

@[simp] theorem generateMaglevLut_wans (env : Env) (ctx : WanManagerCtx) :
    (generateMaglevLut env ctx).config.wans = ctx.config.wans := by
  simp only [generateMaglevLut]
  split <;> rfl

/-- The configuration an authorised rebalance builds its rings from. -/
def reweighed (c : Config) : Config :=
  c.mapWans (reweigh c.prober.dynamicLatencySteering (minHealthyRtt c.wans))

/-- An authorised rebalance is a reweighing, a rebuild of all rings, and table syncs. -/
theorem rebalance_config {env : Env} (hlic : env.licenseAuthorized = true) (ctx : WanManagerCtx) :
    ∃ bpf, (rebalance env ctx).config = (generateMaglevLut env ⟨reweighed ctx.config, bpf, ctx.maglevLut⟩).config ∧
      (rebalance env ctx).maglevLut = (generateMaglevLut env ⟨reweighed ctx.config, bpf, ctx.maglevLut⟩).maglevLut := by
  have hlic' : ¬ env.licenseAuthorized = false := by rw [hlic]; decide
  unfold rebalance
  rw [if_neg hlic']
  exact ⟨_, rfl, rfl⟩

theorem rebalance_wans {env : Env} (hlic : env.licenseAuthorized = true) (ctx : WanManagerCtx) :
    (rebalance env ctx).config.wans = ctx.config.wans.map
      (reweigh ctx.config.prober.dynamicLatencySteering (minHealthyRtt ctx.config.wans)) := by
  obtain ⟨bpf, hc, _⟩ := rebalance_config hlic ctx
  rw [hc, generateMaglevLut_wans]
  rfl

/-- With WANs to steer to, a rebalance rebuilds every group from the reweighed configuration. -/
theorem rebalance_groups {env : Env} (hlic : env.licenseAuthorized = true) (ctx : WanManagerCtx)
    (hne : ctx.config.wans.length ≠ 0) :
    (rebalance env ctx).config.groups = ctx.config.groups.mapIdx (rebuildGroup env (reweighed ctx.config)) := by
  obtain ⟨bpf, hc, _⟩ := rebalance_config hlic ctx
  have hne' : (reweighed ctx.config).wans.length ≠ 0 := by
    rw [reweighed, Config.mapWans_wans, List.length_map]
    exact hne
  simp only [hc, generateMaglevLut, if_neg hne']
  rfl

/-- Without WANs no ring is built at all. -/
theorem rebalance_groups_of_no_wans {env : Env} (hlic : env.licenseAuthorized = true)
    (ctx : WanManagerCtx) (h0 : ctx.config.wans.length = 0) :
    (rebalance env ctx).config.groups = ctx.config.groups := by
  obtain ⟨bpf, hc, _⟩ := rebalance_config hlic ctx
  have h0' : (reweighed ctx.config).wans.length = 0 := by
    rw [reweighed, Config.mapWans_wans, List.length_map]
    exact h0
  rw [hc, generateMaglevLut, if_pos h0']
  rfl

/-- Without a licence only the weights change. -/
theorem rebalance_unauthorized {env : Env} (hlic : env.licenseAuthorized = false)
    (ctx : WanManagerCtx) :
    (rebalance env ctx).config = ctx.config.mapWans (fun w => { w with dynamicWeight := 0 }) ∧
      (rebalance env ctx).maglevLut = ctx.maglevLut := by
  unfold rebalance
  rw [if_pos hlic]
  exact ⟨rfl, rfl⟩

/-- What a finished ring owes its members: if one of them is enabled and neither DOWN nor DRAINING,
    then every slot is filled, and with a member of that kind that has a positive weight. -/
def RingSound (c : Config) (members : List UInt32) (ring : MaglevRing) : Prop :=
  (∃ v ∈ members, ∃ w, c.wans[v.toNat]? = some w ∧
      w.enabled = true ∧ w.state ≠ .down ∧ w.state ≠ .draining) →
    ∀ i : Fin maglevRingSize, ring.get i ≠ emptySlot ∧ ring.get i ∈ members ∧
      ∃ w, c.wans[(ring.get i).toNat]? = some w ∧ w.enabled = true ∧ w.state ≠ .down ∧
        w.state ≠ .draining ∧ 0 < w.dynamicWeight

theorem reweighed_getElem? (c : Config) (n : Nat) :
    (reweighed c).wans[n]? = (c.wans[n]?).map
      (reweigh c.prober.dynamicLatencySteering (minHealthyRtt c.wans)) := by
  rw [reweighed, Config.mapWans_wans, List.getElem?_map]

/-- In a reweighed configuration the WANs that may receive flows are the usable ones. -/
theorem reweighed_activeIdx (c : Config) (v : UInt32) :
    (reweighed c).activeIdx v = true ↔ ∃ w, c.wans[v.toNat]? = some w ∧ w.isUsable = true := by
  rw [Config.activeIdx_iff, reweighed_getElem?]
  constructor
  · rintro ⟨w', hget, hact⟩
    obtain ⟨w, hw, rfl⟩ := Option.map_eq_some_iff.mp hget
    exact ⟨w, hw, by rwa [reweigh_isActive] at hact⟩
  · rintro ⟨w, hw, hu⟩
    exact ⟨_, by rw [hw]; rfl, by rwa [reweigh_isActive]⟩

/-- A ring built over a reweighed configuration is sound. -/
theorem ringSound_build {c c' : Config} (hc : c'.wans = (reweighed c).wans)
    (hlt : ∀ v ∈ members, v.toNat < c.wans.length) :
    RingSound c' members (buildSingleMaglevRing (reweighed c) stack members) := by
  rintro ⟨v, hv, w, hget, husable⟩ i
  rw [hc, reweighed_getElem?] at hget
  obtain ⟨w₀, hget₀, rfl⟩ := Option.map_eq_some_iff.mp hget
  have hlt' : ∀ v ∈ members, v.toNat < (reweighed c).wans.length := by
    intro v hv
    rw [reweighed, Config.mapWans_wans, List.length_map]
    exact hlt v hv
  have hactive := (reweighed_activeIdx c v).mpr
    ⟨w₀, hget₀, by rw [← reweigh_isUsable]; exact (WanConfig.isUsable_iff _).mpr husable⟩
  obtain ⟨hmem, hact⟩ := buildSingleMaglevRing_sound hlt' ⟨v, hv, hactive⟩ i
  obtain ⟨w', hget', hact'⟩ := ((reweighed c).activeIdx_iff _).mp hact
  obtain ⟨hu, hpos⟩ := (WanConfig.isActive_iff w').mp hact'
  obtain ⟨he, hd, hdr⟩ := (WanConfig.isUsable_iff w').mp hu
  rw [hc]
  exact ⟨(reweighed c).ne_emptySlot (hlt' _ hmem), hmem, w', hget', he, hd, hdr, hpos⟩

theorem Config.lt_of_mem_allIndices (c : Config) {v : UInt32} (hv : v ∈ c.allIndices) :
    v.toNat < c.wans.length := by
  obtain ⟨i, hi, rfl⟩ := List.mem_map.mp hv
  have hi' : i < c.wans.length := List.mem_range.mp hi
  rw [c.toNat_ofNat_of_lt hi']
  exact hi'

@[simp] theorem rebuildGroup_memberIndices (env : Env) (c : Config) (grp : WanGroup) :
    (rebuildGroup env c g grp).memberIndices = grp.memberIndices := by
  unfold rebuildGroup
  split <;> rfl

/-- A manager with a HEALTHY and a DOWN uplink and one group that lists both. -/
def twoWanCtx : WanManagerCtx where
  config :=
    { wans := [{ id := 1, name := "eth0".toList, state := .healthy, enabled := true, configWeight := 100 },
               { id := 2, name := "eth1".toList, state := .down, enabled := true, configWeight := 100 }]
      groups := [{ id := 1, wanCount := 2, wanMemberIndices := (Vector.replicate _ 0).set 1 1 }] }

theorem twoWanCtx_lt : ∀ g ∈ twoWanCtx.config.groups, ∀ v ∈ g.memberIndices,
    v.toNat < twoWanCtx.config.wans.length := by
  intro g hg
  obtain rfl := List.mem_singleton.mp hg
  have hmembers : WanGroup.memberIndices
      { id := 1, wanCount := 2, wanMemberIndices := (Vector.replicate _ 0).set 1 1 } = [0, 1] := by
    decide
  rw [hmembers]
  exact List.forall_mem_cons.mpr ⟨by decide, List.forall_mem_singleton.mpr (by decide)⟩

end FluxWAN
