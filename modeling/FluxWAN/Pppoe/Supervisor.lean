/-
  Supervision of the `pppd` processes.

  1. **Traces** — `Running tr pid`: forked, and neither killed nor reaped since.  `Backing tr t b`: an exit was
     observed at `t` with backoff `b`, and the slot has neither launched nor been disabled since.
  2. **Invariant** — `Kept now s tr`.  A running process is the recorded one; the delay of an exit is over, or the
     session is still DISCONNECTED with that delay as its retry time.  One lemma per function of the manager.
  3. **Results** — `supervised_run`: states, processes and delays of every slot in every run.
     `orphanFree_iff`: when no slot outside the enabled PPPoE WANs keeps a process.
-/
import FluxWAN.Pppoe.Manager

namespace FluxWAN.Pppoe

open CString Trace

/-! ## What a trace says of a slot -/

/-- The process was forked, and neither killed nor reaped since. -/
def Running (tr : List Action) (pid : Nat) : Prop :=
  Since (fun a => ∃ time, a = .fork pid time) (fun a => a = .kill pid ∨ ∃ time delayS, a = .reap pid time delayS) tr

/-- An exit was observed at `time` with backoff `delayS`; no launch since, and the WAN not disabled. -/
def Backing (tr : List Action) (time delayS : Nat) : Prop :=
  Since (fun a => ∃ pid, a = .reap pid time delayS) (fun a => a = .disabled ∨ ∃ pid time, a = .fork pid time) tr

/-- A launch finds no process running and no delay open. -/
def LaunchesWell (before : List Action) (a : Action) : Prop :=
  ∀ pid time, a = .fork pid time →
    (∀ q, ¬ Running before q) ∧ ∀ t b, Backing before t b → t + b * 1000 ≤ time

/-- Neither a process nor a delay begins or ends with the action. -/
def Action.Neutral : Action → Prop
  | .append .. | .onConnected .. | .onDisconnected .. => True
  | .disabled | .kill _ | .fork .. | .reap .. => False

section
variable {tr : List Action} {p q t b : Nat} {a : Action}

theorem running_neutral_iff (h : a.Neutral) : Running (tr ++ [a]) q ↔ Running tr q := by
  unfold Running
  rw [since_append_singleton_iff]
  cases a <;> simp_all [Action.Neutral]

theorem backing_neutral_iff (h : a.Neutral) : Backing (tr ++ [a]) t b ↔ Backing tr t b := by
  unfold Backing
  rw [since_append_singleton_iff]
  cases a <;> simp_all [Action.Neutral]

theorem running_disabled_iff : Running (tr ++ [Action.disabled]) q ↔ Running tr q := by
  simp [Running, since_append_singleton_iff]

theorem not_backing_disabled : ¬ Backing (tr ++ [Action.disabled]) t b := by
  simp [Backing, since_append_singleton_iff]

theorem running_kill_iff : Running (tr ++ [Action.kill p]) q ↔ p ≠ q ∧ Running tr q := by
  simp [Running, since_append_singleton_iff]

theorem backing_kill_iff : Backing (tr ++ [Action.kill p]) t b ↔ Backing tr t b := by
  simp [Backing, since_append_singleton_iff]

theorem running_fork_iff : Running (tr ++ [Action.fork p time]) q ↔ p = q ∨ Running tr q := by
  simp [Running, since_append_singleton_iff]

theorem not_backing_fork : ¬ Backing (tr ++ [Action.fork p time]) t b := by
  simp [Backing, since_append_singleton_iff]

theorem running_reap_iff : Running (tr ++ [Action.reap p time delayS]) q ↔ p ≠ q ∧ Running tr q := by
  simp [Running, since_append_singleton_iff]

theorem backing_reap_iff :
    Backing (tr ++ [Action.reap p time delayS]) t b ↔ (time = t ∧ delayS = b) ∨ Backing tr t b := by
  simp [Backing, since_append_singleton_iff]

/-- Only launches have to be well. -/
theorem launchesWell_of_ne (h : ∀ pid time, a ≠ .fork pid time) : LaunchesWell tr a :=
  fun pid time ha => absurd ha (h pid time)

end

/-! ## The invariant -/

theorem not_busy_idle : ¬ PppoeState.idle.Busy := by decide

theorem not_busy_reconnecting : ¬ PppoeState.reconnecting.Busy := by decide

theorem not_busy_disconnected : ¬ PppoeState.disconnected.Busy := by decide

/-- The values of `backoff_s`. -/
def backoffs : List Nat := [15, 30, 60, 120]

theorem initialBackoffS_mem : initialBackoffS ∈ backoffs := by decide

/-- All delays are over. -/
def Rested (now : Nat) (tr : List Action) : Prop := ∀ t b, Backing tr t b → t + b * 1000 ≤ now

/-- What holds of a session and of the trace of its slot when the clock has last been read as `now`. -/
structure Kept (now : Nat) (s : PppoeSession) (tr : List Action) : Prop where
  backoff : s.backoffS ∈ backoffs
  busy : s.state.Busy → s.pppdPid ≠ none
  idle : s.state = .idle → s.pppdPid = none
  not_stopping : s.state ≠ .stopping
  running : ∀ pid, Running tr pid → s.pppdPid = some pid
  /-- A delay that is not over is the retry time of a session without a process. -/
  backing : ∀ t b, Backing tr t b →
    t + b * 1000 ≤ now ∨ s.state = .disconnected ∧ s.pppdPid = none ∧ t + b * 1000 ≤ s.nextRetryMs
  launches : AtEach LaunchesWell tr

theorem kept_init : Kept 0 {} [] where
  backoff := initialBackoffS_mem
  busy := by decide
  idle _ := rfl
  not_stopping := nofun
  running _ h := absurd h not_since_nil
  backing _ _ h := absurd h not_since_nil
  launches := atEach_nil

theorem appends_neutral (w : WanConfig) (env : SlotEnv) : ∀ a ∈ appends w env, a.Neutral := by
  intro a ha
  obtain ⟨file, -, rfl⟩ := List.mem_map.mp ha
  trivial

namespace Kept

section
variable {now : Nat} {s : PppoeSession} {tr : List Action} {w : WanConfig} {env : SlotEnv}

theorem later (h : Kept now s tr) (hle : now ≤ now') : Kept now' s tr :=
  { h with backing := fun t b hb => (h.backing t b hb).imp_left (·.trans hle) }

/-- The session has no delay to wait for, unless it is DISCONNECTED. -/
theorem rested (h : Kept now s tr) (hst : s.state = .disconnected → s.nextRetryMs ≤ now) : Rested now tr := by
  intro t b hb
  rcases h.backing t b hb with hover | ⟨hdis, -, hretry⟩
  · exact hover
  · exact hretry.trans (hst hdis)

theorem neutral (h : Kept now s tr) (hall : ∀ a ∈ as, a.Neutral) : Kept now s (tr ++ as) := by
  induction as generalizing tr with
  | nil => rwa [List.append_nil]
  | cons a as ih =>
    have ha := hall a List.mem_cons_self
    rw [← List.singleton_append, ← List.append_assoc]
    refine ih ?_ fun x hx => hall x (List.mem_cons_of_mem a hx)
    exact { h with
      running := fun pid hr => h.running pid ((running_neutral_iff ha).mp hr)
      backing := fun t b hb => h.backing t b ((backing_neutral_iff ha).mp hb)
      launches := atEach_append_singleton_iff.mpr ⟨h.launches, launchesWell_of_ne fun pid time heq => by
        rw [heq] at ha
        exact ha⟩ }

theorem disabled (h : Kept now s tr) : Kept now s (tr ++ [Action.disabled]) :=
  { h with
    running := fun pid hr => h.running pid (running_disabled_iff.mp hr)
    backing := fun _ _ hb => absurd hb not_backing_disabled
    launches := atEach_append_singleton_iff.mpr ⟨h.launches, launchesWell_of_ne nofun⟩ }

/-- After a stop nothing runs, and the slot is idle. -/
theorem stop (h : Kept now s tr) (hrest : Rested now tr) :
    Kept now (pppoeSessionStop s).1 (tr ++ (pppoeSessionStop s).2) ∧
      Rested now (tr ++ (pppoeSessionStop s).2) := by
  cases hpid : s.pppdPid with
  | none =>
    have hnone : (pppoeSessionStop s).2 = [] := by simp [pppoeSessionStop, hpid]
    rw [hnone, List.append_nil]
    refine ⟨⟨h.backoff, fun hb => absurd hb not_busy_idle, fun _ => rfl, nofun, ?_, fun t b hb => .inl (hrest t b hb), h.launches⟩, hrest⟩
    intro pid hr
    exact nomatch hpid.symm.trans (h.running pid hr)
  | some p =>
    have hkill : (pppoeSessionStop s).2 = [.kill p] := by simp [pppoeSessionStop, hpid]
    rw [hkill]
    have hrest' : Rested now (tr ++ [Action.kill p]) := fun t b hb => hrest t b (backing_kill_iff.mp hb)
    refine ⟨⟨h.backoff, fun hb => absurd hb not_busy_idle, fun _ => rfl, nofun, ?_, fun t b hb => .inl (hrest' t b hb), ?_⟩, hrest'⟩
    · -- the killed process was the only one that could be running
      intro pid hr
      obtain ⟨hne, hr⟩ := running_kill_iff.mp hr
      exact absurd (Option.some.inj (hpid.symm.trans (h.running pid hr))) hne
    · exact atEach_append_singleton_iff.mpr ⟨h.launches, launchesWell_of_ne nofun⟩

theorem launch (h : Kept now s tr) (hidle : s.state = .idle) (hle : now ≤ env.startMs) :
    Kept now (launch w env s).1 (tr ++ (launch w env s).2) := by
  have hpid := h.idle hidle
  have hnone : ∀ q, ¬ Running tr q := fun q hr => nomatch hpid.symm.trans (h.running q hr)
  -- the files, and what is left when there is no process in the end
  have hfiles : Kept now { s with
      lastUsername := copyInto 64 w.pppUsername, lastPassword := copyInto 64 w.pppPassword } (tr ++ appends w env) := by
    refine neutral ?_ (appends_neutral w env)
    exact ⟨h.backoff, h.busy, h.idle, h.not_stopping, h.running, h.backing, h.launches⟩
  unfold Pppoe.launch
  split
  case h_2 => exact hfiles
  case h_1 pid _ _ =>
    have hrunning : ∀ q, ¬ Running (tr ++ appends w env) q := fun q hr =>
      nomatch hpid.symm.trans (hfiles.running q hr)
    have hbacking : Rested now (tr ++ appends w env) := hfiles.rested fun hdis => nomatch hidle.symm.trans hdis
    show Kept now _ (tr ++ (appends w env ++ [Action.fork pid env.startMs]))
    rw [← List.append_assoc]
    refine ⟨h.backoff, nofun, nofun, nofun, ?_, fun t b hb => absurd hb not_backing_fork, ?_⟩
    · intro q hr
      rcases running_fork_iff.mp hr with rfl | hr
      · rfl
      · exact absurd hr (hrunning q)
    · refine atEach_append_singleton_iff.mpr ⟨hfiles.launches, ?_⟩
      rintro p time ⟨⟩
      exact ⟨hrunning, fun t b hb => (hbacking t b hb).trans hle⟩

theorem start (h : Kept now s tr) (hrest : Rested now tr) (hle : now ≤ env.startMs) :
    Kept now (pppoeSessionStart w env s).1 (tr ++ (pppoeSessionStart w env s).2) := by
  unfold pppoeSessionStart
  split_ifs
  · rwa [List.append_nil]
  · show Kept now _ (tr ++ (_ ++ _))
    rw [← List.append_assoc]
    exact (h.stop hrest).1.launch rfl hle

/-! ### The parts of a tick -/

theorem standDown (h : Kept now s tr) (hrest : Rested now tr) :
    Kept now (standDown s).1 (tr ++ (standDown s).2) := by
  unfold Pppoe.standDown
  split_ifs
  · exact (h.stop hrest).1
  · rwa [List.append_nil]

theorem checkCredentials (h : Kept now s tr) :
    Kept now (checkCredentials w s).1 (tr ++ (checkCredentials w s).2) := by
  unfold Pppoe.checkCredentials
  split_ifs with hbusy
  · refine (h.stop (h.rested fun hdis => ?_)).1
    exact absurd (hdis ▸ hbusy.1) not_busy_disconnected
  · rwa [List.append_nil]

/-- The backoff doubles up to its maximum. -/
theorem mem_backoffs_double (h : b ∈ backoffs) : (if b * 2 > maxBackoffS then maxBackoffS else b * 2) ∈ backoffs := by
  revert b
  decide

theorem checkProcess (h : Kept now s tr) :
    Kept now (checkProcess now env s).1 (tr ++ (checkProcess now env s).2) := by
  unfold Pppoe.checkProcess
  split
  case h_2 => rwa [List.append_nil]
  case h_1 p hpid _ =>
    show Kept now _ (tr ++ ([Action.reap p now s.backoffS] ++ [Action.onDisconnected _]))
    rw [← List.append_assoc]
    refine neutral ?_ (List.forall_mem_singleton.mpr trivial)
    refine ⟨mem_backoffs_double h.backoff, fun hb => absurd hb not_busy_disconnected, nofun, nofun, ?_, ?_, ?_⟩
    · intro q hr
      obtain ⟨hne, hr⟩ := running_reap_iff.mp hr
      exact absurd (Option.some.inj (hpid.symm.trans (h.running q hr))) hne
    · -- the new delay is the retry time; while a process was recorded no older one was open
      intro t b hb
      rcases backing_reap_iff.mp hb with ⟨rfl, rfl⟩ | hb
      · exact .inr ⟨rfl, rfl, le_rfl⟩
      · rcases h.backing t b hb with hover | ⟨-, hnone, -⟩
        · exact .inl hover
        · exact nomatch hpid.symm.trans hnone
    · exact atEach_append_singleton_iff.mpr ⟨h.launches, launchesWell_of_ne nofun⟩

theorem awaitAddress (h : Kept now s tr) (hbusy : s.state.Busy) :
    Kept now (awaitAddress now env s).1 (tr ++ (awaitAddress now env s).2) := by
  have hrest : Rested now tr := h.rested fun hdis => absurd (hdis ▸ hbusy) not_busy_disconnected
  unfold Pppoe.awaitAddress
  split
  case h_1 ip gw _ =>
    refine neutral ?_ (List.forall_mem_singleton.mpr trivial)
    refine ⟨initialBackoffS_mem, fun _ => h.busy hbusy, nofun, nofun, h.running, ?_, h.launches⟩
    exact fun t b hb => .inl (hrest t b hb)
  case h_2 =>
    split_ifs
    · obtain ⟨hstop, hrest'⟩ := h.stop hrest
      show Kept now _ (tr ++ (_ ++ []))
      rw [List.append_nil]
      refine ⟨hstop.backoff, fun hb => absurd hb not_busy_reconnecting, nofun, nofun, hstop.running, ?_, hstop.launches⟩
      exact fun t b hb => .inl (hrest' t b hb)
    · rwa [List.append_nil]

theorem verifyCarrier (h : Kept now s tr) (hst : s.state = .connected) :
    Kept now (verifyCarrier now env s).1 (tr ++ (verifyCarrier now env s).2) := by
  have hrest : Rested now tr := h.rested fun hdis => nomatch hst.symm.trans hdis
  unfold Pppoe.verifyCarrier
  split_ifs
  · split
    · rw [List.append_nil]
      exact ⟨h.backoff, h.busy, h.idle, h.not_stopping, h.running, h.backing, h.launches⟩
    · -- the session waits for five seconds, with its process still recorded
      refine neutral ?_ (List.forall_mem_singleton.mpr trivial)
      refine ⟨h.backoff, fun hb => absurd hb not_busy_disconnected, nofun, nofun, h.running, ?_, h.launches⟩
      exact fun t b hb => .inl (hrest t b hb)
  · rwa [List.append_nil]

theorem transition (h : Kept now s tr) (hle : now ≤ env.startMs) :
    Kept now (transition now w env s).1 (tr ++ (transition now w env s).2) := by
  unfold Pppoe.transition
  split
  case h_1 hst => exact h.start (h.rested fun hdis => nomatch hst.symm.trans hdis) hle
  case h_2 hst => exact h.awaitAddress (.inl hst)
  case h_3 hst => exact h.awaitAddress (.inr (.inl hst))
  case h_4 hst => exact h.verifyCarrier hst
  case h_5 hst =>
    split_ifs with hretry
    · exact h.start (h.rested fun _ => hretry) hle
    · rwa [List.append_nil]
  case h_6 hst =>
    split_ifs with hretry
    · exact h.start (h.rested fun _ => hretry) hle
    · rwa [List.append_nil]
  case h_7 hst => exact absurd hst h.not_stopping

/-- **One tick of one slot.** -/
theorem slotTick (h : Kept now s tr) (hle : now ≤ env.startMs) :
    Kept now (slotTick now w env s).1 (tr ++ (slotTick now w env s).2) := by
  unfold Pppoe.slotTick
  split_ifs
  · rwa [List.append_nil]
  · show Kept now _ (tr ++ ([Action.disabled] ++ _))
    rw [← List.append_assoc]
    exact h.disabled.standDown fun t b hb => absurd hb not_backing_disabled
  · show Kept now _ (tr ++ ((_ ++ _) ++ _))
    rw [← List.append_assoc, ← List.append_assoc]
    exact h.checkCredentials.checkProcess.transition hle

theorem slotStart (h : Kept now s tr) (hrest : Rested now tr) (hle : now ≤ env.startMs) :
    Kept now (slotStart w env s).1 (tr ++ (slotStart w env s).2) := by
  unfold Pppoe.slotStart
  split_ifs
  · exact h.start hrest hle
  · rwa [List.append_nil]

/-- The session alone, without a past. -/
theorem forget (h : Kept now s tr) (now' : Nat) : Kept now' s [] :=
  ⟨h.backoff, h.busy, h.idle, h.not_stopping, fun _ hr => absurd hr not_since_nil,
    fun _ _ hb => absurd hb not_since_nil, atEach_nil⟩

end

end Kept

/-! ## Runs -/

theorem kept_boot (wans : List WanConfig) (env : Nat → SlotEnv) (j : Nat) :
    Kept 0 ((Manager.boot wans env).slots j) ((Manager.boot wans env).traceOf j) := by
  -- a slot is started once, from its initial state; the trace is empty until then
  rw [Manager.boot, Manager.each_slots, Manager.each_traceOf]
  cases wans[j]? with
  | none => exact kept_init
  | some w => exact kept_init.slotStart (fun _ _ hb => absurd hb not_since_nil) (Nat.zero_le _)

theorem Manager.tick_kept {m : Manager} {t : Tick} (h : Kept t.now (m.slots j) (m.traceOf j)) :
    Kept t.now ((m.tick t).slots j) ((m.tick t).traceOf j) :=
  m.each_keeps _ t.wans j (fun _ _ _ hk => hk.slotTick (t.now_le j)) h

/-- With a non-decreasing clock the invariant holds after every run. -/
theorem kept_run (wans : List WanConfig) (env : Nat → SlotEnv) (ticks : List Tick)
    (hclock : ticks.Pairwise fun t t' => t.now ≤ t'.now) :
    ∀ now, (∀ t ∈ ticks, t.now ≤ now) →
      Kept now (((Manager.boot wans env).run ticks).slots j) (((Manager.boot wans env).run ticks).traceOf j) := by
  induction ticks using List.reverseRecOn with
  | nil => exact fun now _ => (kept_boot wans env j).later (Nat.zero_le now)
  | append_singleton ticks t ih =>
    intro now hnow
    obtain ⟨hticks, -, hlast⟩ := List.pairwise_append.mp hclock
    have hbefore := ih hticks t.now fun u hu => hlast u hu t List.mem_cons_self
    rw [Manager.run_append_singleton]
    exact (Manager.tick_kept hbefore).later (hnow t (by simp))

/-- What the supervisor guarantees of a slot and its past. -/
structure Supervised (s : PppoeSession) (tr : List Action) : Prop where
  backoff : s.backoffS = 15 ∨ s.backoffS = 30 ∨ s.backoffS = 60 ∨ s.backoffS = 120
  busy : s.state = .dialing ∨ s.state = .auth ∨ s.state = .connected → ∃ pid, s.pppdPid = some pid
  idle : s.state = .idle → s.pppdPid = none
  /-- A process is forked only when the last one has been killed or reaped, and the delay of the last
      observed exit is over. -/
  launches : AtEach LaunchesWell tr

theorem Kept.supervised (h : Kept now s tr) : Supervised s tr where
  backoff := by simpa [backoffs] using h.backoff
  busy hb := Option.ne_none_iff_exists'.mp (h.busy hb)
  idle := h.idle
  launches := h.launches

/-- **Supervision.**  After any ticks with a non-decreasing clock, whatever configurations, exits, addresses and
    failures they find, every slot is supervised. -/
theorem supervised_run (wans : List WanConfig) (env : Nat → SlotEnv) (ticks : List Tick)
    (hclock : ticks.Pairwise fun t t' => t.now ≤ t'.now) (j : Nat) :
    Supervised (((Manager.boot wans env).run ticks).slots j) (((Manager.boot wans env).run ticks).traceOf j) := by
  rcases List.eq_nil_or_concat ticks with rfl | ⟨before, last, rfl⟩
  · exact (kept_boot wans env j).supervised
  · rw [List.concat_eq_append] at hclock ⊢
    obtain ⟨-, -, hlast⟩ := List.pairwise_append.mp hclock
    refine (kept_run wans env _ hclock last.now fun t ht => ?_).supervised
    rcases List.mem_append.mp ht with ht | ht
    · exact hlast t ht last List.mem_cons_self
    · exact (congrArg Tick.now (List.mem_singleton.mp ht)).le

/-- A PPPoE WAN. -/
def sampleWan : WanConfig := { type := .pppoe, enabled := true, pppUsername := ['u'], pppPassword := ['p'] }

/-- A tick that forks `pid` if it dials. -/
def sampleTick (now pid : Nat) (wans : List WanConfig) (exited : Bool) : Tick :=
  { now, wans, env := fun _ => { exited, fork := some pid, startMs := now }, now_le := fun _ => le_rfl }

/-- A launch, an exit, a tick that is too early, and the next launch. -/
def redial : List Tick :=
  [sampleTick 0 100 [sampleWan] false, sampleTick 1000 101 [sampleWan] true, sampleTick 15999 101 [sampleWan] false,
    sampleTick 16000 101 [sampleWan] false]

theorem supervised_redial :
    ((Manager.boot [] fun _ => {}).run redial).traceOf 0 =
        appends sampleWan {} ++ [Action.fork 100 0, Action.reap 100 1000 15, Action.onDisconnected 1] ++ appends sampleWan {} ++
          [Action.fork 101 16000] ∧
      Supervised (((Manager.boot [] fun _ => {}).run redial).slots 0)
        (((Manager.boot [] fun _ => {}).run redial).traceOf 0) :=
  ⟨by decide, supervised_run [] _ redial (by decide) 0⟩

/-! ## Slots without a WAN -/

/-- The slot belongs to a PPPoE WAN of the configuration. -/
def Watched (wans : List WanConfig) (j : Nat) : Prop := ∃ w, wans[j]? = some w ∧ w.type = .pppoe

/-- The slot belongs to an enabled one. -/
def Owned (wans : List WanConfig) (j : Nat) : Prop :=
  ∃ w, wans[j]? = some w ∧ w.type = .pppoe ∧ w.enabled = true

/-- Every other slot is without a process. -/
def OrphanFree (m : Manager) (wans : List WanConfig) : Prop :=
  ∀ j, ¬ Owned wans j → (m.slots j).pppdPid = none

/-- A tick keeps what the invariant says of the session alone, whatever the clock. -/
theorem Manager.tick_alone {m : Manager} (h : ∀ now, Kept now (m.slots j) []) (t : Tick) (now : Nat) :
    Kept now ((m.tick t).slots j) [] := by
  rw [Manager.tick, Manager.each_slots]
  cases t.wans[j]? with
  | none => exact h now
  | some w => exact ((h t.now).slotTick (t.now_le j)).forget now

/-- An idle session has no process, and none is STOPPING, in every run: this needs no clock. -/
theorem kept_alone (wans : List WanConfig) (env : Nat → SlotEnv) (ticks : List Tick) :
    ∀ now, Kept now (((Manager.boot wans env).run ticks).slots j) [] := by
  induction ticks using List.reverseRecOn with
  | nil => exact (kept_boot wans env j).forget
  | append_singleton ticks t ih =>
    rw [Manager.run_append_singleton]
    exact Manager.tick_alone ih t

theorem standDown_pppdPid (h : Kept now s tr) : (standDown s).1.pppdPid = none := by
  unfold standDown
  split_ifs with hst
  · rfl
  · have hidle : s.state = .idle := by
      by_contra hne
      exact hst ⟨hne, h.not_stopping⟩
    exact h.idle hidle

/-- **One tick.** -/
theorem tick_orphanFree_iff {m : Manager} (h : ∀ j, Kept now (m.slots j) []) (t : Tick) :
    OrphanFree (m.tick t) t.wans ↔ ∀ j, (m.slots j).pppdPid ≠ none → Watched t.wans j := by
  -- the tick does not touch a slot it does not look at
  have hframe : ∀ j, ¬ Watched t.wans j → (m.tick t).slots j = m.slots j := by
    intro j hj
    rw [Manager.tick, Manager.each_slots]
    cases hw : t.wans[j]? with
    | none => rfl
    | some w =>
      have htype : w.type ≠ .pppoe := fun htype => hj ⟨w, hw, htype⟩
      show (slotTick t.now w (t.env j) (m.slots j)).1 = m.slots j
      rw [slotTick, if_pos htype]
  constructor
  · intro hfree j hpid
    by_contra hj
    have hnone := hfree j fun ⟨w, hw, htype, _⟩ => hj ⟨w, hw, htype⟩
    rw [hframe j hj] at hnone
    exact hpid hnone
  · intro hwatched j howned
    by_cases hj : Watched t.wans j
    · obtain ⟨w, hw, htype⟩ := hj
      have henabled : w.enabled = false := Bool.eq_false_iff.mpr fun hen => howned ⟨w, hw, htype, hen⟩
      rw [Manager.tick, Manager.each_slots, hw]
      show (slotTick t.now w (t.env j) (m.slots j)).1.pppdPid = none
      rw [slotTick, if_neg (not_not_intro htype), if_pos henabled]
      exact standDown_pppdPid (h j)
    · rw [hframe j hj]
      by_contra hpid
      exact hj (hwatched j hpid)

/-- **When no process is left behind.**  After every tick of a run only enabled PPPoE WANs have processes, if and
    only if at every tick each slot with a process still is a PPPoE WAN of the configuration. -/
theorem orphanFree_iff (wans : List WanConfig) (env : Nat → SlotEnv) (ticks : List Tick) :
    (∀ (before : List Tick) (t : Tick), before ++ [t] <+: ticks →
        OrphanFree ((Manager.boot wans env).run (before ++ [t])) t.wans) ↔
      ∀ (before : List Tick) (t : Tick), before ++ [t] <+: ticks →
        ∀ j, (((Manager.boot wans env).run before).slots j).pppdPid ≠ none → Watched t.wans j := by
  have htick : ∀ (before : List Tick) (t : Tick), OrphanFree ((Manager.boot wans env).run (before ++ [t])) t.wans ↔
      ∀ j, (((Manager.boot wans env).run before).slots j).pppdPid ≠ none → Watched t.wans j := by
    intro before t
    rw [Manager.run_append_singleton]
    exact tick_orphanFree_iff (fun j => kept_alone wans env before 0) t
  simp only [htick]

/-- A WAN dials, is removed from the configuration, and a tick passes. -/
def removed : List Tick := [sampleTick 0 100 [sampleWan] false, sampleTick 1000 101 [] false]

/-- A WAN dials, becomes a DHCP WAN, and a tick passes. -/
def retyped : List Tick :=
  [sampleTick 0 100 [sampleWan] false, sampleTick 1000 101 [{ sampleWan with type := .dhcp }] false]

/-- The process of a WAN that is removed, or gets another type, stays. -/
theorem orphans_left :
    (((Manager.boot [] fun _ => {}).run removed).slots 0).pppdPid = some 100 ∧
      ¬ OrphanFree ((Manager.boot [] fun _ => {}).run removed) [] ∧
      ¬ OrphanFree ((Manager.boot [] fun _ => {}).run retyped) [{ sampleWan with type := .dhcp }] := by
  have hremoved : (((Manager.boot [] fun _ => {}).run removed).slots 0).pppdPid = some 100 := by decide
  have hretyped : (((Manager.boot [] fun _ => {}).run retyped).slots 0).pppdPid = some 100 := by decide
  refine ⟨hremoved, fun h => ?_, fun h => ?_⟩
  · have hnone := h 0 fun ⟨_, hw, _⟩ => nomatch hw
    exact nomatch hremoved.symm.trans hnone
  · have hnone := h 0 fun ⟨w, hw, htype, _⟩ => by
      obtain rfl : { sampleWan with type := .dhcp } = w := Option.some.inj hw
      exact nomatch htype
    exact nomatch hretyped.symm.trans hnone

end FluxWAN.Pppoe
