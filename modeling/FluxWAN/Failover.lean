/-
  Failover and maintenance draining, over the composed health path.

  Two purposes the prober and the WAN manager share, and what the code makes of them:

  * FAILOVER.  A probe round that takes a link DOWN, or brings one back, should leave weights and default
    ring in agreement with the new states (`FailoverDone`).  No rebalance ever runs in a probe round, so
    this holds exactly when the data agreed with the NEW states beforehand (`AlreadySteered`):
    `failoverDone_iff_alreadySteered`.
  * DRAINING.  A link an administrator drains should stay drained through whatever happens by itself:
    probe rounds, replies, PPPoE sessions coming up, rebalances (`AutoEvent`).  Over a whole run it does
    exactly when no event of the run is one that overwrites the state of this link (`Overwrites`):
    `draining_run_iff`.
-/
import FluxWAN.Prober

namespace FluxWAN

/-! ## Failover -/

/-- Some WAN other than `i` is enabled and neither DOWN nor DRAINING. -/
def Config.OtherUsable (c : Config) (i : Nat) : Prop :=
  ∃ j w, j ≠ i ∧ c.wans[j]? = some w ∧ w.isUsable = true

/-- The steering data of `post` agrees with what changed between `pre` and `post`. -/
structure FailoverDone (pre post : WanManagerCtx) : Prop where
  wentDown : ∀ (i : Nat) (w w' : WanConfig), pre.config.wans[i]? = some w →
    post.config.wans[i]? = some w' → w.state ≠ .down → w'.state = .down →
      w'.dynamicWeight = 0 ∧
        (post.config.OtherUsable i → ∀ s : Fin maglevRingSize, (post.maglevLut.get s).toNat ≠ i)
  cameUp : ∀ (i : Nat) (w w' : WanConfig), pre.config.wans[i]? = some w →
    post.config.wans[i]? = some w' → w.state = .down → w'.state ≠ .down → 0 < w'.dynamicWeight

/-- WAN `j` will be usable after a round at `nowUs`: a probed one if its loss is within the limit,
    any other one if it is usable now. -/
def Daemon.UsableNext (d : Daemon) (nowUs : UInt64) (j : Nat) (w : WanConfig) : Prop :=
  if w.isProbed then ¬ LinkLost d.mgr.config.prober nowUs (d.wanStates j) else w.isUsable = true

/-- The state BEFORE a round at `nowUs` is already steered for its outcome.  For every probed WAN: if
    its loss window is over the limit and it is not yet DOWN, its weight is 0 and it owns no slot while
    another WAN will be usable; if it is DOWN and within the limit, its weight is positive. -/
def AlreadySteered (nowUs : UInt64) (d : Daemon) : Prop :=
  ∀ i w, d.mgr.config.wans[i]? = some w → w.isProbed = true →
    (w.state ≠ .down → LinkLost d.mgr.config.prober nowUs (d.wanStates i) →
      w.dynamicWeight = 0 ∧
        ((∃ j w', j ≠ i ∧ d.mgr.config.wans[j]? = some w' ∧ d.UsableNext nowUs j w') →
          ∀ s : Fin maglevRingSize, (d.mgr.maglevLut.get s).toNat ≠ i)) ∧
    (w.state = .down → ¬ LinkLost d.mgr.config.prober nowUs (d.wanStates i) →
      0 < w.dynamicWeight)

theorem observe_isUsable (d : Daemon) (w : WanConfig) :
    (observe d.mgr.config.prober nowUs (d.wanStates j) w).isUsable = true ↔
      d.UsableNext nowUs j w := by
  unfold Daemon.UsableNext
  by_cases hp : w.isProbed = true
  · obtain ⟨he, _⟩ := w.isProbed_iff.mp hp
    rw [if_pos hp, WanConfig.isUsable_iff, observe_enabled, ne_eq, observe_state_down hp]
    exact ⟨fun h => h.2.1, fun h => ⟨he, h, observe_state_ne_draining hp⟩⟩
  · rw [if_neg hp, observe_of_not_probed hp]

/-- "Another WAN is usable", seen before the round. -/
theorem otherUsable_proberSendProbes (env : Env) (d : Daemon) (i : Nat) :
    (proberSendProbes env nowUs d).mgr.config.OtherUsable i ↔
      ∃ j w, j ≠ i ∧ d.mgr.config.wans[j]? = some w ∧ d.UsableNext nowUs j w := by
  constructor
  · rintro ⟨j, w', hji, hget', hu⟩
    rw [proberSendProbes_wan, Option.map_eq_some_iff] at hget'
    obtain ⟨w, hget, rfl⟩ := hget'
    exact ⟨j, w, hji, hget, (observe_isUsable d w).mp hu⟩
  · rintro ⟨j, w, hji, hget, hu⟩
    refine ⟨j, _, hji, ?_, (observe_isUsable d w).mpr hu⟩
    rw [proberSendProbes_wan, hget, Option.map_some]

/-- **Failover happens in a probe round exactly when nothing was left to do.** -/
theorem failoverDone_iff_alreadySteered (env : Env) (nowUs : UInt64) (d : Daemon) :
    FailoverDone d.mgr (proberSendProbes env nowUs d).mgr ↔ AlreadySteered nowUs d := by
  have hpost : ∀ {i w}, d.mgr.config.wans[i]? = some w →
      (proberSendProbes env nowUs d).mgr.config.wans[i]? =
        some (observe d.mgr.config.prober nowUs (d.wanStates i) w) := by
    intro i w hget
    rw [proberSendProbes_wan, hget, Option.map_some]
  constructor
  · intro h i w hget hp
    have hdown : (observe d.mgr.config.prober nowUs (d.wanStates i) w).state = .down ↔
        LinkLost d.mgr.config.prober nowUs (d.wanStates i) := observe_state_down hp
    refine ⟨fun hst hlost => ?_, fun hst hlost => ?_⟩
    · have hw := h.wentDown i w _ hget (hpost hget) hst (hdown.mpr hlost)
      rw [observe_dynamicWeight, otherUsable_proberSendProbes, proberSendProbes_maglevLut] at hw
      exact hw
    · have hw := h.cameUp i w _ hget (hpost hget) hst (fun hd => hlost (hdown.mp hd))
      rwa [observe_dynamicWeight] at hw
  · intro h
    -- a WAN whose state changed was probed: an unprobed one is left as it is
    have hcase : ∀ {i w w'}, d.mgr.config.wans[i]? = some w →
        (proberSendProbes env nowUs d).mgr.config.wans[i]? = some w' → w.state ≠ w'.state →
        w.isProbed = true ∧ w' = observe d.mgr.config.prober nowUs (d.wanStates i) w := by
      intro i w w' hget hget' hne
      rw [hpost hget] at hget'
      obtain rfl := Option.some.inj hget'
      by_cases hp : w.isProbed = true
      · exact ⟨hp, rfl⟩
      · exact absurd (by rw [observe_of_not_probed hp]) hne
    constructor
    · intro i w w' hget hget' hst hst'
      obtain ⟨hp, rfl⟩ := hcase hget hget' (by rw [hst']; exact hst)
      have hw := (h i w hget hp).1 hst ((observe_state_down hp).mp hst')
      rw [observe_dynamicWeight, otherUsable_proberSendProbes, proberSendProbes_maglevLut]
      exact hw
    · intro i w w' hget hget' hst hst'
      obtain ⟨hp, rfl⟩ := hcase hget hget' (by rw [hst]; exact hst'.symm)
      rw [observe_dynamicWeight]
      exact (h i w hget hp).2 hst fun hlost => hst' ((observe_state_down hp).mpr hlost)

/-- Two HEALTHY links just rebalanced, all 32 probes of the first one lost. -/
def lossyDaemon : Daemon where
  mgr := rebalance {}
    { config :=
        { wans := [{ id := 1, name := "eth0".toList, state := .healthy, enabled := true, configWeight := 100 },
                   { id := 2, name := "eth1".toList, state := .healthy, enabled := true, configWeight := 100 }]
          prober := { timeoutMs := 1000, maxAcceptableRttMs := 250, maxAcceptableLossPct := .fin 50 0 } } }
  wanStates := fun i => if i = 0 then { lossHistory := Vector.replicate _ true } else {}

/-- The round takes the first link DOWN and leaves its weight at 100. -/
theorem lossyDaemon_not_failoverDone :
    ¬ FailoverDone lossyDaemon.mgr (proberSendProbes {} 1000000 lossyDaemon).mgr := by
  intro h
  have hw := (h.wentDown 0 _ _ rfl rfl (by decide) (by decide)).1
  exact absurd hw (by decide)

/-! ## Draining -/

/-- What changes link states without an administrator. -/
inductive AutoEvent where
  | probeRound (nowUs : UInt64)
  | reply (nowUs : UInt64) (buf : List UInt8)
  | pppoeConnected (wanIdx : Nat) (ip gw : UInt32)
  | rebalance

def autoStep (d : Daemon) (e : Env × AutoEvent) : Daemon :=
  match e with
  | (env, .probeRound nowUs) => proberSendProbes env nowUs d
  | (_, .reply nowUs buf) => proberHandlePacket nowUs d buf
  | (env, .pppoeConnected wanIdx ip gw) => { d with mgr := onPppoeConnected env d.mgr wanIdx ip gw }
  | (env, .rebalance) => { d with mgr := FluxWAN.rebalance env d.mgr }

/-- A sequence of automatic events, each under its own licence verdict and kernel answers. -/
def autoRun (d : Daemon) (es : List (Env × AutoEvent)) : Daemon := es.foldl autoStep d

/-- The events that store a state of their own into WAN `i`: a probe round, unless the link is
    proxied, and a PPPoE session coming up on it. -/
def AutoEvent.Overwrites (proxied : Bool) (i : Nat) : AutoEvent → Prop
  | .probeRound _ => proxied = false
  | .pppoeConnected wanIdx _ _ => wanIdx = i
  | _ => False

/-- `w'` is the same link as `w`, as far as the administrator's switches go. -/
def SameSwitches (w w' : WanConfig) : Prop :=
  w'.enabled = w.enabled ∧ w'.proxyEnabled = w.proxyEnabled

/-- No rebalance, licensed or not, changes an enabled WAN's state. -/
theorem rebalance_state (env : Env) (mgr : WanManagerCtx) {i : Nat} {w : WanConfig}
    (hget : mgr.config.wans[i]? = some w) (he : w.enabled = true) :
    ∃ w', (rebalance env mgr).config.wans[i]? = some w' ∧ SameSwitches w w' ∧
      w'.state = w.state := by
  have hne : ¬ w.enabled = false := by rw [he]; decide
  cases hlic : env.licenseAuthorized with
  | false =>
    rw [(rebalance_unauthorized hlic mgr).1, Config.mapWans_wans, List.getElem?_map, hget]
    exact ⟨_, rfl, ⟨rfl, rfl⟩, rfl⟩
  | true =>
    rw [rebalance_wans hlic, List.getElem?_map, hget]
    refine ⟨_, rfl, ⟨reweigh_enabled _ _ w, ?_⟩, ?_⟩
    · obtain ⟨_, _, h⟩ := reweigh_frame mgr.config.prober.dynamicLatencySteering
        (minHealthyRtt mgr.config.wans) w
      rw [h]
    · rw [reweigh_state, if_neg hne]

theorem pppoeConnect_state (ip gw : UInt32) (w : WanConfig) :
    SameSwitches w (pppoeConnect ip gw w) ∧ (pppoeConnect ip gw w).state = .healthy := by
  simp only [pppoeConnect]
  split
  · split <;> exact ⟨⟨rfl, rfl⟩, rfl⟩
  · exact ⟨⟨rfl, rfl⟩, rfl⟩

/-- A reply changes metrics, never a state. -/
theorem proberHandlePacket_state (d : Daemon) (buf : List UInt8) {i : Nat}
    {w : WanConfig} (hget : d.mgr.config.wans[i]? = some w) :
    ∃ w', (proberHandlePacket nowUs d buf).mgr.config.wans[i]? = some w' ∧ SameSwitches w w' ∧
      w'.state = w.state := by
  simp only [proberHandlePacket]
  split
  · exact ⟨w, hget, ⟨rfl, rfl⟩, rfl⟩
  · split
    · exact ⟨w, hget, ⟨rfl, rfl⟩, rfl⟩
    · split
      · exact ⟨w, hget, ⟨rfl, rfl⟩, rfl⟩
      · split
        · exact ⟨w, hget, ⟨rfl, rfl⟩, rfl⟩
        · rw [Config.getElem?_modifyWan, hget]
          split
          · exact ⟨_, rfl, ⟨rfl, rfl⟩, rfl⟩
          · exact ⟨w, rfl, ⟨rfl, rfl⟩, rfl⟩

theorem observe_sameSwitches (cfg : ProberConfig) (w : WanConfig) : SameSwitches w (observe cfg nowUs ps w) := by
  unfold observe
  split <;> exact ⟨rfl, rfl⟩

/-- One event: the link keeps its switches, and it is DRAINING afterwards exactly when it was before
    and the event does not overwrite it. -/
theorem autoStep_draining (d : Daemon) {i : Nat} {w : WanConfig}
    (hget : d.mgr.config.wans[i]? = some w) (he : w.enabled = true) :
    ∃ w', (autoStep d e).mgr.config.wans[i]? = some w' ∧ SameSwitches w w' ∧
      (w'.state = .draining ↔ w.state = .draining ∧ ¬ e.2.Overwrites w.proxyEnabled i) := by
  obtain ⟨env, ev⟩ := e
  cases ev with
  | probeRound nowUs =>
    refine ⟨observe d.mgr.config.prober nowUs (d.wanStates i) w, ?_, observe_sameSwitches _ w, ?_⟩
    · show (proberSendProbes env nowUs d).mgr.config.wans[i]? = _
      rw [proberSendProbes_wan, hget, Option.map_some]
    · show _ ↔ _ ∧ ¬ w.proxyEnabled = false
      by_cases hp : w.isProbed = true
      · obtain ⟨_, hpx⟩ := w.isProbed_iff.mp hp
        exact ⟨fun h => absurd h (observe_state_ne_draining hp), fun h => absurd hpx h.2⟩
      · have hpx : ¬ w.proxyEnabled = false := fun hpx => hp (w.isProbed_iff.mpr ⟨he, hpx⟩)
        rw [observe_of_not_probed hp]
        exact ⟨fun h => ⟨h, hpx⟩, fun h => h.1⟩
  | reply nowUs buf =>
    obtain ⟨w', hget', hsw, hst⟩ := proberHandlePacket_state d buf hget
    exact ⟨w', hget', hsw, by rw [hst]; exact ⟨fun h => ⟨h, id⟩, fun h => h.1⟩⟩
  | rebalance =>
    obtain ⟨w', hget', hsw, hst⟩ := rebalance_state env d.mgr hget he
    exact ⟨w', hget', hsw, by rw [hst]; exact ⟨fun h => ⟨h, id⟩, fun h => h.1⟩⟩
  | pppoeConnected j ip gw =>
    show ∃ w', (onPppoeConnected env d.mgr j ip gw).config.wans[i]? = some w' ∧ _ ∧
      (_ ↔ _ ∧ ¬ j = i)
    unfold onPppoeConnected
    by_cases hj : j ≥ d.mgr.config.wans.length
    · -- an index past the end: the callback returns at once
      obtain ⟨hi, _⟩ := List.getElem?_eq_some_iff.mp hget
      rw [if_pos hj]
      exact ⟨w, hget, ⟨rfl, rfl⟩, ⟨fun h => ⟨h, by omega⟩, fun h => h.1⟩⟩
    · rw [if_neg hj]
      by_cases hji : j = i
      · subst hji
        obtain ⟨hsw₀, hst₀⟩ := pppoeConnect_state ip gw w
        have hget₀ : (d.mgr.config.modifyWan j (pppoeConnect ip gw)).wans[j]? = some (pppoeConnect ip gw w) := by
          rw [Config.getElem?_modifyWan, if_pos rfl, hget, Option.map_some]
        obtain ⟨w', hget', hsw, hst⟩ := rebalance_state env
          { d.mgr with config := d.mgr.config.modifyWan j (pppoeConnect ip gw) } hget₀
          (by rw [hsw₀.1, he])
        refine ⟨w', hget', ⟨hsw.1.trans hsw₀.1, hsw.2.trans hsw₀.2⟩, ?_⟩
        rw [hst, hst₀]
        exact ⟨fun h => absurd h (by decide), fun h => absurd rfl h.2⟩
      · have hget₀ : (d.mgr.config.modifyWan j (pppoeConnect ip gw)).wans[i]? = some w := by
          rw [Config.getElem?_modifyWan, if_neg hji, hget]
        obtain ⟨w', hget', hsw, hst⟩ := rebalance_state env
          { d.mgr with config := d.mgr.config.modifyWan j (pppoeConnect ip gw) } hget₀ he
        refine ⟨w', hget', hsw, ?_⟩
        rw [hst]
        exact ⟨fun h => ⟨h, hji⟩, fun h => h.1⟩

/-- A run, by induction on its events. -/
theorem autoRun_draining : ∀ (d : Daemon) {i : Nat} {w : WanConfig},
    d.mgr.config.wans[i]? = some w → w.enabled = true →
    ((∃ w', (autoRun d es).mgr.config.wans[i]? = some w' ∧ w'.state = .draining) ↔
      w.state = .draining ∧ ∀ e ∈ es, ¬ e.2.Overwrites w.proxyEnabled i) := by
  induction es with
  | nil =>
    intro d i w hget _
    constructor
    · rintro ⟨w', hget', hst⟩
      rw [show (autoRun d []) = d from rfl, hget] at hget'
      obtain rfl := Option.some.inj hget'
      exact ⟨hst, fun e he => absurd he List.not_mem_nil⟩
    · rintro ⟨hst, _⟩
      exact ⟨w, hget, hst⟩
  | cons e es ih =>
    intro d i w hget he
    obtain ⟨w₁, hget₁, ⟨hen, hpx⟩, hst₁⟩ := autoStep_draining d hget he
    rw [show autoRun d (e :: es) = autoRun (autoStep d e) es from rfl,
      ih (autoStep d e) hget₁ (hen.trans he), hst₁, hpx, and_assoc, List.forall_mem_cons]

/-- **A drained link stays drained through a run exactly when no event of the run overwrites it.** -/
theorem draining_run_iff (d : Daemon) (es : List (Env × AutoEvent)) (i : Nat) (w : WanConfig)
    (hget : d.mgr.config.wans[i]? = some w) (he : w.enabled = true) (hdr : w.state = .draining) :
    (∃ w', (autoRun d es).mgr.config.wans[i]? = some w' ∧ w'.state = .draining) ↔
      ∀ e ∈ es, ¬ e.2.Overwrites w.proxyEnabled i := by
  rw [autoRun_draining d hget he]
  exact ⟨fun h => h.2, fun h => ⟨hdr, h⟩⟩

/-- An enabled uplink in maintenance. -/
def drainedWan : WanConfig :=
  { id := 1, name := "eth0".toList, state := .draining, enabled := true, configWeight := 100 }

def drainedDaemon : Daemon where
  mgr :=
    { config :=
        { wans := [drainedWan]
          prober := { timeoutMs := 1000, maxAcceptableRttMs := 250, maxAcceptableLossPct := .fin 50 0 } } }

theorem draining_run_iff_rebalance :
    (∃ w', (autoRun drainedDaemon [({}, .rebalance), ({}, .reply 5 [])]).mgr.config.wans[0]? =
        some w' ∧ w'.state = .draining) :=
  (draining_run_iff drainedDaemon _ 0 drainedWan rfl rfl rfl).mpr (by simp [AutoEvent.Overwrites])

/-- One probe round without a lost probe ends the maintenance. -/
theorem drainedDaemon_probeRound :
    drainedDaemon.mgr.config.wans[0]? = some drainedWan ∧ drainedWan.enabled = true ∧
      drainedWan.state = .draining ∧
      ¬ ∃ w', (autoRun drainedDaemon [({}, .probeRound 1000000)]).mgr.config.wans[0]? = some w' ∧
        w'.state = .draining := by
  refine ⟨rfl, rfl, rfl, ?_⟩
  have hhealthy : ((autoRun drainedDaemon [({}, .probeRound 1000000)]).mgr.config.wans[0]?).map
      WanConfig.state = some .healthy := by decide
  rintro ⟨w', hget, hdr⟩
  rw [hget, Option.map_some, hdr] at hhealthy
  cases hhealthy

end FluxWAN
