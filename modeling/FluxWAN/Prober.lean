/-
  The link prober (`src/prober.c`) and the health path that starts in it.

  Every enabled, non-proxied WAN has a 32-entry history ring.  A probe round sends one echo request per
  such WAN, books the request that has been waiting in the reused slot as lost if it is overdue,
  averages the history into the WAN's metrics, derives a new state from them, stores that state in the
  shared configuration and — if it differs from the stored one — calls the health callback, which is
  `wan_manager_on_health_update` on the SAME configuration object.

  The order matters: the prober stores the new state BEFORE the callback runs, so the callback compares
  the new state with itself, and the rebalance behind that comparison is never reached
  (`onHealthUpdate_of_stored`).  A probe round is therefore a map over the WANs' states and metrics that
  leaves every weight and every ring alone (`proberSendProbes_wan`, `proberSendProbes_maglevLut`).

  Sockets and the packets put on the wire are left out; a received packet is its bytes.
-/
import FluxWAN.Lib.Bytes
import FluxWAN.WanManager

namespace FluxWAN

open CString Bytes

variable {nowUs : UInt64} {cfg : ProberConfig} {ps : WanProbeState} {w : WanConfig}

/-! ## State -/

/-- `probe_slot_t`. -/
structure ProbeSlot where
  seq : UInt16 := 0
  sendTimeUs : UInt64 := 0
  received : Bool := false
  deriving DecidableEq, Repr

/-- `wan_probe_state_t`. -/
structure WanProbeState where
  currentSeq : UInt16 := 0
  rttHistory : Vector UInt64 probeWindowSize := Vector.replicate _ 0
  lossHistory : Vector Bool probeWindowSize := Vector.replicate _ false
  historyIdx : UInt32 := 0
  pendingProbes : Vector ProbeSlot 16 := Vector.replicate _ {}
  deriving DecidableEq, Repr

/-- The daemon as `main` wires it: one configuration under the manager, and the prober's own state. -/
structure Daemon where
  mgr : WanManagerCtx
  wanStates : Nat → WanProbeState := fun _ => {}
  pid : UInt16 := 0

/-- `prober_init`: sequence numbers start at 1. -/
def proberInit (mgr : WanManagerCtx) (pid : UInt16) : Daemon where
  mgr
  wanStates i := if i < mgr.config.wans.length then { currentSeq := 1 } else {}
  pid

/-! ## One WAN's share of a probe round -/

/-- `history_idx % PROBE_WINDOW_SIZE`. -/
def WanProbeState.cursor (ps : WanProbeState) : Fin probeWindowSize :=
  ⟨ps.historyIdx.toNat % probeWindowSize, Nat.mod_lt _ (by decide)⟩

/-- The slot a sequence number uses. -/
def probeSlotOf (seq : UInt16) : Fin 16 := ⟨seq.toNat % 16, Nat.mod_lt _ (by decide)⟩

/-- The previous probe in the slot that is about to be reused is overdue. -/
def WanProbeState.timedOut (ps : WanProbeState) (timeoutMs : UInt32) (nowUs : UInt64) : Bool :=
  let slot := ps.pendingProbes[probeSlotOf ps.currentSeq]
  slot.sendTimeUs > 0 && !slot.received &&
    (nowUs - slot.sendTimeUs) / 1000 ≥ timeoutMs.toUInt64

/-- Book the overdue probe, then arm the slot with the new one. -/
def WanProbeState.advance (ps : WanProbeState) (timeoutMs : UInt32) (nowUs : UInt64) :
    WanProbeState :=
  let seq := ps.currentSeq
  let slot := probeSlotOf seq
  let ps' :=
    if ps.timedOut timeoutMs nowUs then
      { ps with
        lossHistory := ps.lossHistory.set ps.cursor true
        historyIdx := ps.historyIdx + 1 }
    else ps
  { ps' with
    currentSeq := seq + 1
    pendingProbes := ps.pendingProbes.set slot { seq, sendTimeUs := nowUs, received := false } }

/-- `losses`. -/
def WanProbeState.losses (ps : WanProbeState) : Nat :=
  (List.finRange probeWindowSize).countP fun k => ps.lossHistory[k]

/-- The measured entries of the RTT window. -/
def WanProbeState.rtts (ps : WanProbeState) : List UInt64 :=
  ps.rttHistory.toList.filter (· > 0)

/-- Moving average RTT, jitter and loss.  With no measured entry RTT and jitter keep their values; the
    loss percentage `losses * 100 / 32` is exact in a float. -/
def refreshMetrics (ps : WanProbeState) (nowUs : UInt64) (m : WanMetrics) : WanMetrics :=
  let m :=
    if ps.rtts.length > 0 then
      let avgRtt := (ps.rtts.foldl (· + ·) 0 / UInt64.ofNat ps.rtts.length).toUInt32
      { m with
        jitterMs := if avgRtt ≥ m.rttMs then avgRtt - m.rttMs else m.rttMs - avgRtt
        rttMs := avgRtt }
    else m
  { m with packetLossPct := .fin (ps.losses * 100) 5, lastProbeTime := nowUs / 1000 }

/-- "Evaluate Link Health". -/
def evaluateHealth (cfg : ProberConfig) (m : WanMetrics) : WanState :=
  if m.packetLossPct.gt cfg.maxAcceptableLossPct then .down
  else if m.rttMs > cfg.maxAcceptableRttMs then .degraded
  else .healthy

/-- The body of the round's loop for WAN `i`. -/
def probeWan (env : Env) (nowUs : UInt64) (d : Daemon) (i : Nat) : Daemon :=
  match d.mgr.config.wans[i]? with
  | none => d
  | some w =>
    if w.enabled = false then d
    else if w.proxyEnabled = true then d
    else
      let cfg := d.mgr.config.prober
      let ps := (d.wanStates i).advance cfg.timeoutMs nowUs
      let metrics := refreshMetrics ps nowUs w.metrics
      let newState := evaluateHealth cfg metrics
      let config := d.mgr.config.modifyWan i fun w => { w with metrics }
      let d := { d with
        wanStates := fun j => if j = i then ps else d.wanStates j
        mgr := { d.mgr with config } }
      if w.state ≠ newState then
        let config := config.modifyWan i fun w => { w with state := newState }
        { d with mgr := onHealthUpdate env { d.mgr with config } i newState (some metrics) }
      else d

/-- `prober_send_probes` with `wan_manager_on_health_update` as its callback. -/
def proberSendProbes (env : Env) (nowUs : UInt64) (d : Daemon) : Daemon :=
  (List.range d.mgr.config.wans.length).foldl (probeWan env nowUs) d

/-! ## Replies -/

/-- `measured_rtt_ms`: rounded to milliseconds, at least 1. -/
def measuredRtt (nowUs sendTimeUs : UInt64) : UInt32 :=
  if sendTimeUs > 0 ∧ nowUs ≥ sendTimeUs then
    let rtt := ((nowUs - sendTimeUs + 500) / 1000).toUInt32
    if rtt = 0 then 1 else rtt
  else 1

/-- What a reply with sequence number `seq` does to its WAN's history. -/
def WanProbeState.recordReply (ps : WanProbeState) (seq : UInt16) (rtt : UInt32) :
    WanProbeState :=
  let slot := probeSlotOf seq
  { ps with
    rttHistory := ps.rttHistory.set ps.cursor rtt.toUInt64
    lossHistory := ps.lossHistory.set ps.cursor false
    historyIdx := ps.historyIdx + 1
    pendingProbes :=
      ps.pendingProbes.set slot { ps.pendingProbes[slot] with received := true } }

/-- `prober_handle_packet`. -/
def proberHandlePacket (nowUs : UInt64) (d : Daemon) (buf : List UInt8) : Daemon :=
  let ipHl := (byteAt buf 0 &&& 0x0F).toNat * 4
  if buf.length < 28 then d
  else if buf.length < ipHl + 8 then d
  else if byteAt buf ipHl ≠ 0 then d
  else
    let id := be16 buf (ipHl + 4)
    let seq := be16 buf (ipHl + 6)
    let wanIdx := (id - d.pid).toNat
    if wanIdx ≥ d.mgr.config.wans.length then d
    else
      let ps := d.wanStates wanIdx
      let sendTimeUs :=
        if buf.length ≥ ipHl + 8 + 8 then le64 buf (ipHl + 8)
        else ps.pendingProbes[probeSlotOf seq].sendTimeUs
      let rtt := measuredRtt nowUs sendTimeUs
      { d with
        wanStates := fun j => if j = wanIdx then ps.recordReply seq rtt else d.wanStates j
        mgr := { d.mgr with
          config := d.mgr.config.modifyWan wanIdx fun w =>
            { w with metrics :=
              { w.metrics with rttMs := rtt, lastProbeTime := nowUs / 1000 } } } }

/-! ## The health callback finds the state already stored -/

/-- **The callback is inert after the prober's store.**  When the reported state and metrics are what
    the configuration already holds, nothing changes: in particular no rebalance runs. -/
theorem onHealthUpdate_of_stored (env : Env) {mgr : WanManagerCtx}
    (hst : ∀ w, mgr.config.wans[i]? = some w → w.state = st)
    (hm : ∀ w, mgr.config.wans[i]? = some w → w.metrics = m) :
    onHealthUpdate env mgr i st (some m) = mgr := by
  have hmetrics : mgr.config.modifyWan i
      (fun w => { w with metrics := (some m).getD w.metrics }) = mgr.config := by
    refine Config.modifyWan_of_fixed fun w hw => ?_
    obtain rfl := hm w hw
    rfl
  have hstate : mgr.config.modifyWan i (fun w => { w with state := st }) = mgr.config := by
    refine Config.modifyWan_of_fixed fun w hw => ?_
    obtain rfl := hst w hw
    rfl
  cases hget : mgr.config.wans[i]? with
  | none => simp only [onHealthUpdate, hget]
  | some w =>
    simp only [onHealthUpdate, hget, hmetrics, hstate, hst w hget, ne_eq, not_true_eq_false,
      if_false]
    exact ite_self _

/-! ## What a probe round does -/

/-- Does the prober send to this WAN? -/
def WanConfig.isProbed (w : WanConfig) : Bool := w.enabled && !w.proxyEnabled

theorem WanConfig.isProbed_iff (w : WanConfig) :
    w.isProbed = true ↔ w.enabled = true ∧ w.proxyEnabled = false := by
  rw [isProbed, Bool.and_eq_true, Bool.not_eq_true']

/-- A round's effect on one WAN record: fresh metrics, and the state they call for. -/
def observe (cfg : ProberConfig) (nowUs : UInt64) (ps : WanProbeState) (w : WanConfig) :
    WanConfig :=
  if w.isProbed then
    let metrics := refreshMetrics (ps.advance cfg.timeoutMs nowUs) nowUs w.metrics
    { w with metrics, state := evaluateHealth cfg metrics }
  else w

/-- One loop iteration changes WAN `i` by `observe` and touches no weight, ring or table. -/
theorem probeWan_mgr (env : Env) (d : Daemon) (i : Nat) :
    (probeWan env nowUs d i).mgr =
      { d.mgr with config :=
          d.mgr.config.modifyWan i (observe d.mgr.config.prober nowUs (d.wanStates i)) } := by
  cases hget : d.mgr.config.wans[i]? with
  | none =>
    have hfix : d.mgr.config.modifyWan i (observe d.mgr.config.prober nowUs (d.wanStates i)) =
        d.mgr.config := Config.modifyWan_of_fixed fun w hw => by rw [hget] at hw; cases hw
    simp only [probeWan, hget, hfix]
  | some w =>
    by_cases hp : w.isProbed = true
    · obtain ⟨he, hpx⟩ := w.isProbed_iff.mp hp
      have hstored : ∀ f : WanConfig → WanConfig,
          (d.mgr.config.modifyWan i f).wans[i]? = some (f w) := by
        intro f
        rw [Config.getElem?_modifyWan, if_pos rfl, hget, Option.map_some]
      have hne : ¬ w.enabled = false := by rw [he]; decide
      have hnp : ¬ w.proxyEnabled = true := by rw [hpx]; decide
      simp only [probeWan, hget, if_neg hne, if_neg hnp]
      split
      · -- a change: both stores happen first, so the callback finds what it is told
        rw [Config.modifyWan_modifyWan]
        refine (onHealthUpdate_of_stored env ?_ ?_).trans ?_
        · intro w₁ hw₁
          obtain rfl := Option.some.inj ((hstored _).symm.trans hw₁)
          rfl
        · intro w₁ hw₁
          obtain rfl := Option.some.inj ((hstored _).symm.trans hw₁)
          rfl
        refine congrArg (fun c => ({ d.mgr with config := c } : WanManagerCtx)) ?_
        refine Config.modifyWan_congr fun w₁ hw₁ => ?_
        rw [hget] at hw₁
        obtain rfl := Option.some.inj hw₁
        exact (if_pos hp).symm
      · rename_i hst
        refine congrArg (fun c => ({ d.mgr with config := c } : WanManagerCtx)) ?_
        refine Config.modifyWan_congr fun w₁ hw₁ => ?_
        rw [hget] at hw₁
        obtain rfl := Option.some.inj hw₁
        simp only [ne_eq, not_not] at hst
        simp only [observe, if_pos hp, ← hst]
    · have hfix : d.mgr.config.modifyWan i (observe d.mgr.config.prober nowUs (d.wanStates i)) =
          d.mgr.config := Config.modifyWan_of_fixed fun w₁ hw₁ => by
        rw [hget] at hw₁
        obtain rfl := Option.some.inj hw₁
        exact if_neg hp
      rw [hfix]
      simp only [probeWan, hget]
      by_cases he : w.enabled = false
      · rw [if_pos he]
      · have hpx : w.proxyEnabled = true := by
          by_contra hpx
          exact hp (w.isProbed_iff.mpr ⟨by simpa using he, by simpa using hpx⟩)
        rw [if_neg he, if_pos hpx]

theorem probeWan_wanStates (env : Env) (nowUs : UInt64) (d : Daemon) (hij : j ≠ i) :
    (probeWan env nowUs d i).wanStates j = d.wanStates j := by
  simp only [probeWan]
  split
  · rfl
  · split
    · rfl
    · split
      · rfl
      · split <;> exact if_neg hij

/-- The daemon `d` after the loop has dealt with the first `k` WANs. -/
structure ProbedUpTo (nowUs : UInt64) (d : Daemon) (k : Nat) (d' : Daemon) : Prop where
  wan : ∀ j, d'.mgr.config.wans[j]? = (d.mgr.config.wans[j]?).map fun w =>
    if j < k then observe d.mgr.config.prober nowUs (d.wanStates j) w else w
  later : ∀ j, k ≤ j → d'.wanStates j = d.wanStates j
  /-- Nothing but the WAN records changes. -/
  rest : ∃ wans hwans, d'.mgr = { d.mgr with config := { d.mgr.config with
    wans := wans, wans_le := hwans } }

theorem ProbedUpTo.zero (nowUs : UInt64) (d : Daemon) : ProbedUpTo nowUs d 0 d where
  wan j := by simp
  later _ _ := rfl
  rest := ⟨d.mgr.config.wans, d.mgr.config.wans_le, rfl⟩

theorem ProbedUpTo.step (env : Env)
    (h : ProbedUpTo nowUs d k d') : ProbedUpTo nowUs d (k + 1) (probeWan env nowUs d' k) := by
  have hcfg : d'.mgr.config.prober = d.mgr.config.prober := by
    obtain ⟨_, _, hrest⟩ := h.rest
    rw [hrest]
  refine ⟨fun j => ?_, fun j hj => ?_, ?_⟩
  · rw [probeWan_mgr, hcfg, h.later k (le_refl k), Config.getElem?_modifyWan, h.wan j]
    by_cases hjk : k = j
    · subst hjk
      rw [if_pos rfl, Option.map_map]
      simp [Function.comp_def]
    · rw [if_neg hjk]
      have hiff : (j < k + 1) = (j < k) := propext (by omega)
      simp only [hiff]
  · rw [probeWan_wanStates env nowUs d' (show j ≠ k by omega)]
    exact h.later j (by omega)
  · obtain ⟨_, _, hrest⟩ := h.rest
    rw [probeWan_mgr, hrest]
    exact ⟨_, _, rfl⟩

/-- The loop, by induction on its counter. -/
theorem probedUpTo_range (env : Env) (nowUs : UInt64) (d : Daemon) (k : Nat) :
    ProbedUpTo nowUs d k ((List.range k).foldl (probeWan env nowUs) d) := by
  induction k with
  | zero => exact .zero nowUs d
  | succ k ih =>
    rw [List.range_succ, List.foldl_append]
    exact ih.step env

/-- The whole round. -/
theorem proberSendProbes_probed (env : Env) (d : Daemon) :
    ProbedUpTo nowUs d d.mgr.config.wans.length (proberSendProbes env nowUs d) :=
  probedUpTo_range env nowUs d _

/-- **A probe round observes every WAN** … -/
theorem proberSendProbes_wan (env : Env) (d : Daemon) :
    (proberSendProbes env nowUs d).mgr.config.wans[j]? =
      (d.mgr.config.wans[j]?).map (observe d.mgr.config.prober nowUs (d.wanStates j)) := by
  rw [(proberSendProbes_probed env d).wan j]
  cases hget : d.mgr.config.wans[j]? with
  | none => rfl
  | some w =>
    obtain ⟨hj, _⟩ := List.getElem?_eq_some_iff.mp hget
    rw [Option.map_some, Option.map_some, if_pos hj]

/-- … **and rebuilds no ring.** -/
theorem proberSendProbes_maglevLut (env : Env) (d : Daemon) :
    (proberSendProbes env nowUs d).mgr.maglevLut = d.mgr.maglevLut := by
  obtain ⟨_, _, hrest⟩ := (proberSendProbes_probed env d).rest
  rw [hrest]

/-- Does a round probe WAN `i`? -/
def Daemon.probes (d : Daemon) (i : Nat) : Bool := (d.mgr.config.wans[i]?).any WanConfig.isProbed

theorem probeWan_wanStates_self (env : Env) (nowUs : UInt64) (d : Daemon) (i : Nat) :
    (probeWan env nowUs d i).wanStates i =
      if d.probes i = true then (d.wanStates i).advance d.mgr.config.prober.timeoutMs nowUs else d.wanStates i := by
  unfold Daemon.probes
  cases hget : d.mgr.config.wans[i]? with
  | none => simp only [probeWan, hget, Option.any_none, Bool.false_eq_true, if_false]
  | some w =>
    rw [Option.any_some]
    by_cases hp : w.isProbed = true
    · obtain ⟨he, hpx⟩ := w.isProbed_iff.mp hp
      have hne : ¬ w.enabled = false := by rw [he]; decide
      have hnp : ¬ w.proxyEnabled = true := by rw [hpx]; decide
      simp only [probeWan, hget, if_neg hne, if_neg hnp, if_pos hp]
      split <;> exact if_pos rfl
    · rw [if_neg hp]
      simp only [probeWan, hget]
      split
      · rfl
      · split
        · rfl
        · rename_i he hpx
          exact absurd (w.isProbed_iff.mpr ⟨by simpa using he, by simpa using hpx⟩) hp

/-- **A round advances exactly the probed WANs' histories.** -/
theorem proberSendProbes_wanStates (env : Env) (d : Daemon) (hj : j < d.mgr.config.wans.length) :
    (proberSendProbes env nowUs d).wanStates j =
      if d.probes j = true then (d.wanStates j).advance d.mgr.config.prober.timeoutMs nowUs else d.wanStates j := by
  unfold proberSendProbes
  generalize d.mgr.config.wans.length = n at hj ⊢
  -- WAN `j` gets its turn in iteration `j` and is left alone in the later ones
  induction n with
  | zero => omega
  | succ k ih =>
    rw [List.range_succ, List.foldl_append]
    show (probeWan env nowUs ((List.range k).foldl (probeWan env nowUs) d) k).wanStates j = _
    have hsofar := probedUpTo_range env nowUs d k
    by_cases hjk : j = k
    · subst hjk
      obtain ⟨_, _, hrest⟩ := hsofar.rest
      have hprobes : ((List.range j).foldl (probeWan env nowUs) d).probes j = d.probes j := by
        unfold Daemon.probes
        rw [hsofar.wan j]
        simp only [Nat.lt_irrefl, if_false, Option.map_id']
      rw [probeWan_wanStates_self, hprobes, hsofar.later j le_rfl, hrest]
    · rw [probeWan_wanStates env nowUs _ hjk]
      exact ih (by omega)

/-! ## Observed states -/

@[simp] theorem observe_dynamicWeight (cfg : ProberConfig)
    (w : WanConfig) : (observe cfg nowUs ps w).dynamicWeight = w.dynamicWeight := by
  unfold observe
  split <;> rfl

@[simp] theorem observe_enabled (cfg : ProberConfig)
    (w : WanConfig) : (observe cfg nowUs ps w).enabled = w.enabled := by
  unfold observe
  split <;> rfl

/-- The entries of the loss window that count as lost once this round's overdue probe is booked. -/
def WanProbeState.lostProbes (ps : WanProbeState) (timeoutMs : UInt32) (nowUs : UInt64) : Nat :=
  (List.finRange probeWindowSize).countP fun k =>
    ps.lossHistory[k] || (ps.timedOut timeoutMs nowUs && k == ps.cursor)

/-- More loss than the configuration accepts. -/
def LinkLost (cfg : ProberConfig) (nowUs : UInt64) (ps : WanProbeState) : Prop :=
  (CFloat.fin (ps.lostProbes cfg.timeoutMs nowUs * 100) 5).gt cfg.maxAcceptableLossPct = true

theorem losses_advance (ps : WanProbeState) (timeoutMs : UInt32) :
    (ps.advance timeoutMs nowUs).losses = ps.lostProbes timeoutMs nowUs := by
  unfold WanProbeState.losses WanProbeState.lostProbes
  refine List.countP_congr fun k _ => ?_
  by_cases ht : ps.timedOut timeoutMs nowUs = true
  · simp only [WanProbeState.advance, ht, Bool.true_and]
    show (ps.lossHistory.set ps.cursor true)[k] = true ↔ _
    rw [SlotTable.getElem_set_fin]
    by_cases hk : k = ps.cursor
    · simp [hk]
    · simp [hk, Ne.symm hk]
  · simp [WanProbeState.advance, ht]

theorem refreshMetrics_packetLossPct (ps : WanProbeState) (m : WanMetrics) :
    (refreshMetrics ps nowUs m).packetLossPct = .fin (ps.losses * 100) 5 := rfl

/-- A probed WAN is DOWN after the round exactly when its loss window is over the limit … -/
theorem observe_state_down (hp : w.isProbed = true) :
    (observe cfg nowUs ps w).state = .down ↔ LinkLost cfg nowUs ps := by
  simp only [observe, if_pos hp, evaluateHealth, refreshMetrics_packetLossPct, losses_advance,
    LinkLost]
  split
  · simp_all
  · split <;> simp_all

/-- … and never DRAINING. -/
theorem observe_state_ne_draining (hp : w.isProbed = true) : (observe cfg nowUs ps w).state ≠ .draining := by
  simp only [observe, if_pos hp, evaluateHealth]
  split
  · decide
  · split <;> decide

theorem observe_of_not_probed (hp : ¬ w.isProbed = true) : observe cfg nowUs ps w = w := if_neg hp

end FluxWAN
