/-
  The reactor loop of the daemon (`src/main.c`) and the licence.

  One iteration, as far as WANs and licence go: replies to probes are read, a probe round runs if it is due,
  `wan_manager_periodic_tick` handles PPPoE sessions and DHCP leases, and `license_manager_tick` looks at
  the clock.  What follows in the source — proxies, whose tick is empty, and the watchdog, which repairs
  firewall rules and files — touches neither weights nor licence; nor do the LAN's DHCP server, the netlink
  log and the PPPoE server.  The web and proxy threads are left out.

  The licence is ENFORCED in `wan_manager_rebalance` and LOST in `license_manager_tick`, the last step of
  the iteration; nothing leads from the one to the other.  A rebalance in the first half of the same
  iteration still runs under the old verdict (`Tick.Since`), so the weights at the end are those that
  were there before, or fresh ones for every usable WAN.  Hence `enforced_iff`: losing the licence
  stops the steering if and only if there was nothing to stop.
-/
import FluxWAN.Failover
import FluxWAN.License.Runs
import Mathlib.Logic.Function.Basic

namespace FluxWAN

open CString License

/-! ## The WAN manager's periodic tick -/

/-- The per-WAN clocks of the DHCP client. -/
structure DhcpTimers where
  lastDhcpRenewMs : Nat → UInt64 := fun _ => 0
  dhcpDeadCycles : Nat → UInt32 := fun _ => 0
  lastDhcpRebindMs : Nat → UInt64 := fun _ => 0

/-- What the hook script wrote into a lease file. -/
structure Lease where
  ip : UInt32
  gw : UInt32
  netmask : UInt32

/-- What `pppoe_manager_tick` reports. -/
inductive PppoeEvent where
  | connected (wanIdx : Nat) (ip gw : UInt32)
  | disconnected (wanIdx : Nat)

/-- What one iteration finds outside the daemon. -/
structure LoopInput where
  /-- Interface indices and stack contents; the licence verdict in it is not used. -/
  env : Env := {}
  /-- Packets on the prober's sockets, with the time at which they are read. -/
  replies : List (UInt64 × List UInt8) := []
  /-- `CLOCK_MONOTONIC`. -/
  nowMs : UInt64
  /-- The prober's clock in a probe round. -/
  probeUs : UInt64 := 0
  pppoe : List PppoeEvent := []
  /-- Lease file and interface address of a WAN; 0 is none. -/
  lease : Nat → Option Lease := fun _ => none
  liveAddr : Nat → UInt32 := fun _ => 0
  /-- `time (NULL)` in the licence tick. -/
  clock : UInt64 := 0

/-- The state of the periodic tick, and whether it has called `wan_manager_rebalance`. -/
structure Tick where
  mgr : WanManagerCtx
  timers : DhcpTimers
  rebalanced : Bool := false

/-- The two session callbacks. -/
def pppoeStep (env : Env) (t : Tick) (e : PppoeEvent) : Tick :=
  match e with
  | .connected wanIdx ip gw =>
    { t with
      mgr := onPppoeConnected env t.mgr wanIdx ip gw
      rebalanced := t.rebalanced || wanIdx < t.mgr.config.wans.length }
  | .disconnected wanIdx =>
    { t with
      mgr := onPppoeDisconnected env t.mgr wanIdx
      rebalanced := t.rebalanced || wanIdx < t.mgr.config.wans.length }

/-- Change one WAN and rebalance. -/
def Tick.adopt (env : Env) (t : Tick) (i : Nat) (f : WanConfig → WanConfig) : Tick :=
  { t with
    mgr := rebalance env { t.mgr with config := t.mgr.config.modifyWan i f }
    rebalanced := true }

/-- What a new lease writes into its WAN. -/
def bindLease (l : Lease) (w : WanConfig) : WanConfig :=
  let w := { w with
    ipAddr := l.ip
    gateway := l.gw
    netmask := if l.netmask = 0 then strToIp "255.255.255.0".toList else l.netmask
    state := .healthy }
  if w.probeTargetIp = 0 then
    match w.probeTarget with
    | [] => { w with probeTargetIp := strToIp "8.8.8.8".toList, probeTarget := "8.8.8.8".toList }
    | _ :: _ => { w with probeTargetIp := strToIp w.probeTarget }
  else w

/-- "Read lease file if written by hook script", else ask the interface. -/
def dhcpPoll (env : Env) (lease : Option Lease) (liveAddr : UInt32) (i : Nat) (w : WanConfig) (t : Tick) :
    Tick :=
  match lease with
  | some l =>
    if l.ip ≠ 0 ∧ (l.ip ≠ w.ipAddr ∨ l.gw ≠ w.gateway) then t.adopt env i (bindLease l) else t
  | none =>
    if w.ipAddr = 0 ∧ liveAddr ≠ 0 ∧ liveAddr ≠ strToIp "127.0.0.1".toList then
      t.adopt env i fun w => { w with ipAddr := liveAddr, state := .healthy }
    else t

/-- `packet_loss_pct >= 99.0f`. -/
def lossOver99 (w : WanConfig) : Bool :=
  w.metrics.packetLossPct ≠ .nan && !(CFloat.fin 99 0).gt w.metrics.packetLossPct

/-- The dead gateway watchdog; `true` if it has thrown the lease away. -/
def dhcpWatchdog (nowMs : UInt64) (i : Nat) (w : WanConfig) (timers : DhcpTimers) : DhcpTimers × Bool :=
  if !w.proxyEnabled && (w.state = .down || lossOver99 w) then
    let cycles := timers.dhcpDeadCycles i + 1
    if cycles ≥ 15 ∧ nowMs - timers.lastDhcpRebindMs i ≥ 60000 then
      -- `wan_manager_dhcp_renew` also forgets when the lease was last looked at
      ({ lastDhcpRebindMs := Function.update timers.lastDhcpRebindMs i nowMs
         dhcpDeadCycles := Function.update timers.dhcpDeadCycles i 0
         lastDhcpRenewMs := Function.update timers.lastDhcpRenewMs i 0 }, true)
    else ({ timers with dhcpDeadCycles := Function.update timers.dhcpDeadCycles i cycles }, false)
  else ({ timers with dhcpDeadCycles := Function.update timers.dhcpDeadCycles i 0 }, false)

/-- "WAN DHCP & WiFi Client Engine" for one WAN. -/
def dhcpStep (env : Env) (inp : LoopInput) (t : Tick) (i : Nat) : Tick :=
  match t.mgr.config.wans[i]? with
  | none => t
  | some w =>
    if (w.type = .dhcp ∨ w.type = .wifi) ∧ w.enabled = true then
      let (timers, renewed) := dhcpWatchdog inp.nowMs i w t.timers
      if inp.nowMs - timers.lastDhcpRenewMs i ≥ 2000 then
        let timers := { timers with
          lastDhcpRenewMs := Function.update timers.lastDhcpRenewMs i inp.nowMs }
        dhcpPoll env (if renewed then none else inp.lease i) (inp.liveAddr i) i w { t with timers }
      else { t with timers }
    else t

/-- `wan_manager_periodic_tick`. -/
def wanManagerPeriodicTick (env : Env) (inp : LoopInput) (mgr : WanManagerCtx) (timers : DhcpTimers) :
    Tick :=
  (List.range mgr.config.wans.length).foldl (dhcpStep env inp)
    (inp.pppoe.foldl (pppoeStep env) { mgr, timers })

/-! ## An iteration -/

/-- The daemon between two iterations. -/
structure LoopState where
  daemon : Daemon
  timers : DhcpTimers := {}
  license : License.Manager := {}
  lastProbeMs : UInt64 := 0

namespace LoopState

variable (s : LoopState) (inp : LoopInput)

/-- The environment of the manager: the licence as the last tick left it. -/
def env : Env := { inp.env with licenseAuthorized := licenseIsAuthorized s.license }

/-- A probe round is due. -/
def probeDue : Bool := inp.nowMs - s.lastProbeMs ≥ s.daemon.mgr.config.prober.intervalMs.toUInt64

/-- The prober's share: replies, and a round if it is due. -/
def probe : Daemon :=
  let d := inp.replies.foldl (fun d r => proberHandlePacket r.1 d r.2) s.daemon
  if s.probeDue inp then proberSendProbes (s.env inp) inp.probeUs d else d

/-- The WAN half of the iteration. -/
def wanHalf : Tick := wanManagerPeriodicTick (s.env inp) inp (s.probe inp).mgr s.timers

/-- One turn of the reactor loop. -/
def step : LoopState :=
  { daemon := { s.probe inp with mgr := (s.wanHalf inp).mgr }
    timers := (s.wanHalf inp).timers
    license := licenseManagerTick inp.nowMs inp.clock s.license
    lastProbeMs := if s.probeDue inp then inp.nowMs else s.lastProbeMs }

/-- A run of the loop. -/
def run (inputs : List LoopInput) : LoopState := inputs.foldl step s

end LoopState

/-! ## Weights in the WAN half -/

/-- No WAN is given new flows. -/
def AllZero (c : Config) : Prop := ∀ w ∈ c.wans, w.dynamicWeight = 0

/-- No WAN is enabled and neither DOWN nor DRAINING. -/
def NoneUsable (c : Config) : Prop := ∀ w ∈ c.wans, w.isUsable = false

/-- The weights of a configuration. -/
def Config.weights (c : Config) : List UInt32 := c.wans.map WanConfig.dynamicWeight

theorem allZero_iff_weights {c : Config} : AllZero c ↔ ∀ x ∈ c.weights, x = 0 := by
  simp [AllZero, Config.weights]

theorem weights_modifyWan (c : Config) (i : Nat)
    (hf : ∀ w, (f w).dynamicWeight = w.dynamicWeight) : (c.modifyWan i f).weights = c.weights := by
  refine List.ext_getElem? fun j => ?_
  rw [Config.weights, List.getElem?_map, Config.getElem?_modifyWan, Config.weights, List.getElem?_map]
  split
  · rw [Option.map_map]
    exact congrFun (congrArg Option.map (funext hf)) _
  · rfl

theorem weights_proberHandlePacket (d : Daemon) (buf : List UInt8) :
    (proberHandlePacket nowUs d buf).mgr.config.weights = d.mgr.config.weights := by
  simp only [proberHandlePacket]
  split
  · rfl
  · split
    · rfl
    · split
      · rfl
      · split
        · rfl
        · exact weights_modifyWan _ _ fun _ => rfl

theorem weights_proberSendProbes (env : Env) (d : Daemon) :
    (proberSendProbes env nowUs d).mgr.config.weights = d.mgr.config.weights := by
  refine List.ext_getElem? fun j => ?_
  rw [Config.weights, List.getElem?_map, proberSendProbes_wan, Option.map_map, Config.weights, List.getElem?_map]
  exact congrFun (congrArg Option.map (funext fun w => observe_dynamicWeight _ w)) _

/-- The prober leaves the weights alone. -/
theorem LoopState.weights_probe (s : LoopState) : (s.probe inp).mgr.config.weights = s.daemon.mgr.config.weights := by
  have hreplies : ∀ (rs : List (UInt64 × List UInt8)) (d : Daemon),
      (rs.foldl (fun d r => proberHandlePacket r.1 d r.2) d).mgr.config.weights = d.mgr.config.weights := by
    intro rs
    induction rs with
    | nil => exact fun _ => rfl
    | cons r rs ih => exact fun d => (ih _).trans (weights_proberHandlePacket d r.2)
  simp only [LoopState.probe]
  split_ifs
  · rw [weights_proberSendProbes, hreplies]
  · exact hreplies _ _

/-- An authorised rebalance weighs exactly the usable WANs, … -/
theorem rebalance_allZero_iff {env : Env} (hlic : env.licenseAuthorized = true) :
    AllZero (rebalance env ctx).config ↔ NoneUsable (rebalance env ctx).config := by
  unfold AllZero NoneUsable
  rw [rebalance_wans hlic]
  simp only [List.forall_mem_map, reweigh_isUsable]
  refine forall₂_congr fun w _ => ?_
  rw [← Bool.not_eq_true, ← reweigh_weight_pos, UInt32.pos_iff_ne_zero, not_not]

/-- … and an unauthorised one none. -/
theorem rebalance_allZero {env : Env} (hlic : env.licenseAuthorized = false) : AllZero (rebalance env ctx).config := by
  rw [AllZero, (rebalance_unauthorized hlic ctx).1, Config.mapWans_wans]
  simp

/-- What a tick has done to the manager it started with. -/
def Tick.Since (env : Env) (mgr : WanManagerCtx) (t : Tick) : Prop :=
  t.rebalanced = false ∧ t.mgr = mgr ∨ t.rebalanced = true ∧ ∃ ctx, t.mgr = rebalance env ctx

section
variable {env : Env} {mgr : WanManagerCtx} {t : Tick}

theorem Tick.Since.pppoe (h : t.Since env mgr) (e : PppoeEvent) : (pppoeStep env t e).Since env mgr := by
  -- a callback for a WAN that is not there does nothing
  have hcase : ∀ {wanIdx : Nat} {mgr' ctx : WanManagerCtx}, mgr' =
        (if wanIdx ≥ t.mgr.config.wans.length then t.mgr else rebalance env ctx) →
      ({ t with mgr := mgr', rebalanced := t.rebalanced || wanIdx < t.mgr.config.wans.length } :
        Tick).Since env mgr := by
    rintro wanIdx mgr' ctx rfl
    by_cases hidx : wanIdx < t.mgr.config.wans.length
    · exact .inr ⟨by simp [hidx], ctx, if_neg (Nat.not_le.mpr hidx)⟩
    · rw [if_pos (Nat.not_lt.mp hidx)]
      simpa [hidx] using h
  cases e with
  | connected wanIdx ip gw => exact hcase rfl
  | disconnected wanIdx => exact hcase rfl

theorem Tick.Since.adopt (i : Nat) (f : WanConfig → WanConfig) : (t.adopt env i f).Since env mgr :=
  .inr ⟨rfl, _, rfl⟩

theorem Tick.Since.withTimers (h : t.Since env mgr) (timers : DhcpTimers) :
    ({ t with timers } : Tick).Since env mgr := h

theorem Tick.Since.poll (h : t.Since env mgr) (lease : Option Lease) (liveAddr : UInt32) (i : Nat)
    (w : WanConfig) : (dhcpPoll env lease liveAddr i w t).Since env mgr := by
  unfold dhcpPoll
  split
  · split
    · exact Tick.Since.adopt _ _
    · exact h
  · split
    · exact Tick.Since.adopt _ _
    · exact h

theorem Tick.Since.dhcp (h : t.Since env mgr) (inp : LoopInput) (i : Nat) :
    (dhcpStep env inp t i).Since env mgr := by
  unfold dhcpStep
  split
  · exact h
  · split
    · dsimp only
      split
      · exact (h.withTimers _).poll _ _ _ _
      · exact h.withTimers _
    · exact h

theorem since_wanManagerPeriodicTick (env : Env) : (wanManagerPeriodicTick env inp mgr timers).Since env mgr := by
  have hpppoe : ∀ (es : List PppoeEvent) (t : Tick), t.Since env mgr →
      (es.foldl (pppoeStep env) t).Since env mgr := by
    intro es
    induction es with
    | nil => exact fun _ h => h
    | cons e es ih => exact fun t h => ih _ (h.pppoe e)
  have hdhcp : ∀ (is : List Nat) (t : Tick), t.Since env mgr →
      (is.foldl (dhcpStep env inp) t).Since env mgr := by
    intro is
    induction is with
    | nil => exact fun _ h => h
    | cons i is ih => exact fun t h => ih _ (h.dhcp inp i)
  exact hdhcp _ _ (hpppoe _ _ (.inl ⟨rfl, rfl⟩))

end

/-! ## Losing the licence -/

/-- The licence tick of this iteration ends the authorisation. -/
def Loses (s : LoopState) (inp : LoopInput) : Prop :=
  licenseIsAuthorized s.license = true ∧ licenseIsAuthorized (s.step inp).license = false

/-- There is nothing to steer to: the iteration rebalanced and found no usable WAN, or it did not
    rebalance and began without a weight. -/
def Starved (s : LoopState) (inp : LoopInput) : Prop :=
  if (s.wanHalf inp).rebalanced = true then NoneUsable (s.wanHalf inp).mgr.config
  else AllZero s.daemon.mgr.config

/-- From the iteration that ends the authorisation on, no WAN has a weight. -/
def Enforced (s : LoopState) (inputs : List LoopInput) : Prop :=
  ∀ before inp more, before ++ inp :: more <+: inputs → Loses (s.run before) inp →
    AllZero (s.run (before ++ inp :: more)).daemon.mgr.config

namespace LoopState

variable {s : LoopState} {inp : LoopInput}

theorem allZero_probe_iff : AllZero (s.probe inp).mgr.config ↔ AllZero s.daemon.mgr.config := by
  rw [allZero_iff_weights, weights_probe, ← allZero_iff_weights]

theorem wanHalf_since : (s.wanHalf inp).Since (s.env inp) (s.probe inp).mgr :=
  since_wanManagerPeriodicTick ..

/-- While the licence holds, an iteration ends without weights iff there is nothing to steer to. -/
theorem allZero_step_iff (hauth : licenseIsAuthorized s.license = true) :
    AllZero (s.step inp).daemon.mgr.config ↔ Starved s inp := by
  show AllZero (s.wanHalf inp).mgr.config ↔ _
  rw [Starved]
  rcases s.wanHalf_since with ⟨hno, hsame⟩ | ⟨hyes, ctx, hctx⟩
  · rw [if_neg (by rw [hno]; decide), hsame, allZero_probe_iff]
  · rw [if_pos hyes, hctx]
    exact rebalance_allZero_iff hauth

/-- Without a licence, weights that are gone stay gone. -/
theorem allZero_step (hauth : licenseIsAuthorized s.license = false)
    (hzero : AllZero s.daemon.mgr.config) : AllZero (s.step inp).daemon.mgr.config := by
  show AllZero (s.wanHalf inp).mgr.config
  rcases s.wanHalf_since with ⟨-, hsame⟩ | ⟨-, ctx, hctx⟩
  · rw [hsame, allZero_probe_iff]
    exact hzero
  · rw [hctx]
    exact rebalance_allZero hauth

theorem allZero_run : ∀ {s : LoopState}, licenseIsAuthorized s.license = false →
    AllZero s.daemon.mgr.config → AllZero (s.run more).daemon.mgr.config := by
  induction more with
  | nil => exact fun _ h => h
  | cons inp more ih =>
    exact fun hauth hzero => ih (not_authorized_tick hauth) (allZero_step hauth hzero)

theorem run_append (s : LoopState) (before more : List LoopInput) :
    s.run (before ++ more) = (s.run before).run more := List.foldl_append

end LoopState

/-- **When the licence is enforced.**  In every run of the loop, from any state and with any input: from the
    iteration on in which the licence tick ends the authorisation all weights are 0, if and only if in each
    such iteration there was nothing to steer to anyway. -/
theorem enforced_iff (s : LoopState) (inputs : List LoopInput) :
    Enforced s inputs ↔
      ∀ before inp, before ++ [inp] <+: inputs → Loses (s.run before) inp →
        Starved (s.run before) inp := by
  constructor
  · intro h before inp hprefix hloses
    have hzero := h before inp [] hprefix hloses
    rw [LoopState.run_append] at hzero
    exact (LoopState.allZero_step_iff hloses.1).mp hzero
  · intro h before inp more hprefix hloses
    have hsplit : before ++ inp :: more = before ++ [inp] ++ more := by simp
    have hbefore : before ++ [inp] <+: inputs := by
      rw [hsplit] at hprefix
      exact (List.prefix_append _ _).trans hprefix
    have hzero := (LoopState.allZero_step_iff hloses.1).mpr (h before inp hbefore hloses)
    rw [hsplit, LoopState.run_append, LoopState.run_append]
    exact LoopState.allZero_run hloses.2 hzero

/-- A daemon that has just started: one HEALTHY link, rebalanced, and no licence key. -/
def startedDaemon : LoopState where
  daemon :=
    { mgr := rebalance {}
        { config :=
            { wans := [{ id := 1, name := "eth0".toList, state := .healthy, enabled := true, configWeight := 100 }]
              prober := { intervalMs := 0xFFFFFFFF } } } }
  license := licenseManagerInit samplePlatform 0 0 {}

/-- Two iterations, half an hour apart: the grace period ends, the weight of 100 stays. -/
theorem startedDaemon_not_enforced :
    licenseIsAuthorized (startedDaemon.run [{ nowMs := 1000 }]).license = true ∧
      licenseIsAuthorized (startedDaemon.run [{ nowMs := 1000 }, { nowMs := 1801000 }]).license = false ∧
      (startedDaemon.run [{ nowMs := 1000 }, { nowMs := 1801000 }]).daemon.mgr.config.weights = [100] ∧
      ¬ Enforced startedDaemon [{ nowMs := 1000 }, { nowMs := 1801000 }] := by
  have hbefore : licenseIsAuthorized (startedDaemon.run [{ nowMs := 1000 }]).license = true := by
    decide
  have hafter : licenseIsAuthorized
      (startedDaemon.run [{ nowMs := 1000 }, { nowMs := 1801000 }]).license = false := by
    decide
  have hweights : (startedDaemon.run
      [{ nowMs := 1000 }, { nowMs := 1801000 }]).daemon.mgr.config.weights = [100] := by
    decide
  refine ⟨hbefore, hafter, hweights, ?_⟩
  intro h
  have hzero := h [{ nowMs := 1000 }] { nowMs := 1801000 } [] (List.prefix_refl _) ⟨hbefore, hafter⟩
  rw [allZero_iff_weights] at hzero
  have := hzero 100 (by show 100 ∈ Config.weights _; rw [List.singleton_append, hweights]; simp)
  exact absurd this (by decide)

end FluxWAN
