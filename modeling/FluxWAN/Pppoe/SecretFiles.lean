/-
  `/etc/ppp/options`, `pap-secrets` and `chap-secrets`.

  Two modules own these files.  `pppoe_session_start` appends a line to each at every dial and never removes
  one; `write_pppoe_secrets` truncates the two secrets files and writes the subscribers.

  1. **When a slot dials** — `Dials`, a condition on the session and on what the tick finds.
     `slotTick_of_dials` and `slotTick_of_not_dials`: one line per file, or none at all.
  2. **System** — `World`: the client sessions, the subscriber server, the three files.
  3. **Result** — `bounded_of_tidy`: while no slot dials twice, no WAN disappears and the secrets are only
     rewritten with all sessions down, the files stay small and hold the credentials in use.
     `files_grow_and_forget`: otherwise neither is so.
-/
import FluxWAN.Pppoe.Sessions
import FluxWAN.Pppoe.Supervisor

namespace FluxWAN.Pppoe

open CString

/-! ## Lines -/

/-- A line of one of the files. -/
inductive Line where
  /-- `plugin /usr/lib/pppd/2.5.0/pppoe.so`. -/
  | plugin
  /-- One of the comments at the top of the secrets. -/
  | comment (text : CStr)
  | secret (s : Secret)
  deriving DecidableEq

/-- The line of a WAN. -/
def wanLine (file : PppFile) (username password : CStr) : Line :=
  match file with
  | .options => .plugin
  | .papSecrets | .chapSecrets => .secret { client := username, password, address := ['*'] }

/-- What an action appends to the file. -/
def Action.line (file : PppFile) : Action → Option Line
  | .append f username password => if f = file then some (wanLine file username password) else none
  | .disabled | .kill _ | .fork .. | .reap .. | .onConnected .. | .onDisconnected _ => none

/-- What some actions append to the file. -/
def lines (file : PppFile) (actions : List Action) : List Line := actions.filterMap (Action.line file)

section
variable (file : PppFile)

@[simp] theorem lines_append (xs ys : List Action) : lines file (xs ++ ys) = lines file xs ++ lines file ys :=
  List.filterMap_append

/-- The lines of one dial. -/
def dialLines (w : WanConfig) (env : SlotEnv) : List Line :=
  if env.opens file = true then [wanLine file w.pppUsername w.pppPassword] else []

theorem lines_appends (w : WanConfig) (env : SlotEnv) : lines file (appends w env) = dialLines file w env := by
  unfold lines appends dialLines
  rw [List.filterMap_map]
  -- of the three files, in whatever subset they open, only `file` itself matters
  cases file <;> cases ho : env.opens .options <;> cases hp : env.opens .papSecrets <;>
    cases hc : env.opens .chapSecrets <;> simp [ho, hp, hc, Action.line, wanLine]

@[simp] theorem lines_stop (s : PppoeSession) : lines file (pppoeSessionStop s).2 = [] := by
  unfold pppoeSessionStop
  cases s.pppdPid <;> rfl

end

/-! ## When a slot dials -/

/-- The tick calls `pppoe_session_start`, and that goes on to dial. -/
def Dials (now : Nat) (w : WanConfig) (env : SlotEnv) (s : PppoeSession) : Prop :=
  w.type = .pppoe ∧ w.enabled = true ∧
    (s.state = .idle ∨
      s.state.Busy ∧ (s.lastUsername ≠ w.pppUsername ∨ s.lastPassword ≠ w.pppPassword) ∨
      (s.state = .disconnected ∨ s.state = .reconnecting) ∧ ¬ (s.pppdPid ≠ none ∧ env.exited = true) ∧
        s.nextRetryMs ≤ now)

instance (now : Nat) (w : WanConfig) (env : SlotEnv) (s : PppoeSession) : Decidable (Dials now w env s) :=
  inferInstanceAs (Decidable (_ ∧ _ ∧ _))

/-- What a dial leaves: a line per file that opens, and the credentials. -/
structure Dialed (w : WanConfig) (env : SlotEnv) (did : Did) : Prop where
  lines : ∀ file, lines file did.2 = dialLines file w env
  username : did.1.lastUsername = copyInto 64 w.pppUsername
  password : did.1.lastPassword = copyInto 64 w.pppPassword

/-- What is left without a dial: no line, the old credentials, and no session comes up. -/
structure Untouched (s : PppoeSession) (did : Did) : Prop where
  lines : ∀ file, lines file did.2 = []
  username : did.1.lastUsername = s.lastUsername
  password : did.1.lastPassword = s.lastPassword
  busy : did.1.state.Busy → s.state.Busy

section
variable {now : Nat} {w : WanConfig} {env : SlotEnv} {s : PppoeSession}

theorem untouched_refl : Untouched s (s, []) := ⟨fun _ => rfl, rfl, rfl, id⟩

theorem dialed_start (hconn : s.state ≠ .connected) (hdial : s.state ≠ .dialing) :
    Dialed w env (pppoeSessionStart w env s) := by
  have hlaunch : ∀ s', Dialed w env (launch w env s') := by
    intro s'
    unfold launch
    split
    · refine ⟨fun file => ?_, rfl, rfl⟩
      rw [lines_append, lines_appends]
      exact List.append_nil _
    · exact ⟨fun file => lines_appends file w env, rfl, rfl⟩
  obtain ⟨hlines, huser, hpass⟩ := hlaunch (pppoeSessionStop s).1
  rw [pppoeSessionStart, if_neg (not_or_intro hconn hdial)]
  refine ⟨fun file => ?_, huser, hpass⟩
  show lines file (_ ++ _) = _
  rw [lines_append, lines_stop, List.nil_append]
  exact hlines file

/-- Nothing is reaped without a process, or while it lives. -/
theorem checkProcess_eq (h : ¬ (s.pppdPid ≠ none ∧ env.exited = true)) : checkProcess now env s = (s, []) := by
  unfold checkProcess
  split
  case h_1 hpid hex => exact absurd ⟨by simp [hpid], hex⟩ h
  case h_2 => rfl

theorem checkCredentials_eq (h : ¬ (s.state.Busy ∧
    (s.lastUsername ≠ w.pppUsername ∨ s.lastPassword ≠ w.pppPassword))) : checkCredentials w s = (s, []) :=
  if_neg h

theorem slotTick_enabled (htype : w.type = .pppoe) (hen : w.enabled = true) : slotTick now w env s =
    ((checkCredentials w s).andThen (checkProcess now env)).andThen (transition now w env) := by
  rw [slotTick, if_neg (not_not_intro htype), if_neg (by simp [hen])]

theorem andThen_quiet : Did.andThen (s', []) f = f s' := rfl

/-- **A dial.** -/
theorem slotTick_of_dials (h : Kept now s []) (hd : Dials now w env s) : Dialed w env (slotTick now w env s) := by
  obtain ⟨htype, hen, hst⟩ := hd
  rw [slotTick_enabled htype hen]
  rcases hst with hidle | ⟨hbusy, hchanged⟩ | ⟨hwait, hlives, hretry⟩
  · have hpid := h.idle hidle
    rw [checkCredentials_eq (by simp [hidle, not_busy_idle]), andThen_quiet, checkProcess_eq (by simp [hpid]),
      andThen_quiet, transition, hidle]
    exact dialed_start (by simp [hidle]) (by simp [hidle])
  · -- the old process is killed first; the idle session then dials
    have hstop : checkCredentials w s = pppoeSessionStop s := if_pos ⟨hbusy, hchanged⟩
    have hquiet : (pppoeSessionStop s).andThen (checkProcess now env) =
        ((pppoeSessionStop s).1, (pppoeSessionStop s).2 ++ []) := by
      rw [Did.andThen, checkProcess_eq (by simp [pppoeSessionStop])]
    have hstart : Dialed w env (pppoeSessionStart w env (pppoeSessionStop s).1) :=
      dialed_start PppoeState.noConfusion PppoeState.noConfusion
    rw [hstop, hquiet]
    refine ⟨fun file => ?_, hstart.username, hstart.password⟩
    show lines file ((_ ++ []) ++ _) = _
    rw [List.append_nil, lines_append, lines_stop, List.nil_append]
    exact hstart.lines file
  · have hbusy : ¬ s.state.Busy := by rcases hwait with h | h <;> rw [h] <;> decide
    rw [checkCredentials_eq fun hb => hbusy hb.1, andThen_quiet, checkProcess_eq hlives, andThen_quiet, transition]
    have hstart : Dialed w env (pppoeSessionStart w env s) :=
      dialed_start (fun hc => hbusy (.inr (.inr hc))) fun hc => hbusy (.inl hc)
    rcases hwait with h | h <;> rw [h] <;> rw [if_pos hretry] <;> exact hstart

/-- A reaped session waits for its delay, which is positive. -/
theorem untouched_reaped (h : Kept now s []) (hex : s.pppdPid ≠ none ∧ env.exited = true) :
    Untouched s ((checkProcess now env s).andThen (transition now w env)) := by
  obtain ⟨⟨pid, hpid⟩, hex⟩ := hex.imp_left Option.ne_none_iff_exists'.mp
  have hpos : ∀ b ∈ backoffs, 0 < b := by decide
  have hlate : ¬ now ≥ now + s.backoffS * 1000 := by
    have := hpos s.backoffS h.backoff
    omega
  unfold checkProcess
  rw [hpid, hex]
  dsimp only [Did.andThen, transition]
  rw [if_neg hlate]
  exact ⟨fun _ => rfl, rfl, rfl, fun hb => absurd hb not_busy_disconnected⟩

theorem untouched_awaitAddress (hbusy : s.state.Busy) : Untouched s (awaitAddress now env s) := by
  unfold awaitAddress
  split
  · exact ⟨fun _ => rfl, rfl, rfl, fun _ => hbusy⟩
  · split_ifs
    · refine ⟨fun file => ?_, rfl, rfl, fun hb => absurd hb not_busy_reconnecting⟩
      show lines file (_ ++ []) = []
      rw [List.append_nil, lines_stop]
    · exact untouched_refl

theorem untouched_verifyCarrier (hbusy : s.state.Busy) : Untouched s (verifyCarrier now env s) := by
  unfold verifyCarrier
  split_ifs
  · split
    · exact ⟨fun _ => rfl, rfl, rfl, fun _ => hbusy⟩
    · exact ⟨fun _ => rfl, rfl, rfl, fun _ => hbusy⟩
  · exact untouched_refl

/-- **No dial.** -/
theorem slotTick_of_not_dials (h : Kept now s []) (hd : ¬ Dials now w env s) :
    Untouched s (slotTick now w env s) := by
  by_cases htype : w.type = .pppoe
  case neg =>
    rw [slotTick, if_pos htype]
    exact untouched_refl
  cases hen : w.enabled with
  | false =>
    rw [slotTick, if_neg (not_not_intro htype), if_pos hen]
    have hdown : Untouched s (standDown s) := by
      unfold standDown
      split_ifs
      · exact ⟨fun file => lines_stop file s, rfl, rfl, fun hb => absurd hb not_busy_idle⟩
      · exact untouched_refl
    exact ⟨fun file => hdown.lines file, hdown.username, hdown.password, hdown.busy⟩
  | true =>
    have hst := fun hst => hd ⟨htype, hen, hst⟩
    rw [slotTick_enabled htype hen, checkCredentials_eq fun hb => hst (.inr (.inl hb)), andThen_quiet]
    by_cases hex : s.pppdPid ≠ none ∧ env.exited = true
    · exact untouched_reaped h hex
    · -- the session stays as it is, or waits, or comes up
      rw [checkProcess_eq hex, andThen_quiet, transition]
      have hwait : s.state = .disconnected ∨ s.state = .reconnecting → ¬ now ≥ s.nextRetryMs := fun hw hretry =>
        hst (.inr (.inr ⟨hw, hex, hretry⟩))
      split
      case h_1 hidle => exact absurd (.inl hidle) hst
      case h_2 hdial => exact untouched_awaitAddress (.inl hdial)
      case h_3 hauth => exact untouched_awaitAddress (.inr (.inl hauth))
      case h_4 hconn => exact untouched_verifyCarrier (.inr (.inr hconn))
      case h_5 hdis =>
        rw [if_neg (hwait (.inl hdis))]
        exact untouched_refl
      case h_6 hrec =>
        rw [if_neg (hwait (.inr hrec))]
        exact untouched_refl
      case h_7 hstop => exact absurd hstop h.not_stopping

end

/-! ## Who has dialed -/

/-- The slots that appended a line to the file, one entry per line. -/
def dialers (file : PppFile) (trace : List (Nat × Action)) : List Nat :=
  (trace.filter fun x => (x.2.line file).isSome).map Prod.fst

/-- What a trace appends to the file. -/
def written (file : PppFile) (trace : List (Nat × Action)) : List Line := lines file (trace.map Prod.snd)

section
variable (file : PppFile)

theorem dialers_append (xs ys : List (Nat × Action)) :
    dialers file (xs ++ ys) = dialers file xs ++ dialers file ys := by
  simp [dialers]

theorem length_written (trace : List (Nat × Action)) : (written file trace).length = (dialers file trace).length := by
  rw [written, lines, List.filterMap_map, List.length_filterMap_eq_countP, dialers, List.length_map,
    List.countP_eq_length_filter]
  rfl

theorem count_dialers (j : Nat) (trace : List (Nat × Action)) :
    (dialers file trace).count j = (lines file (ofSlot j trace)).length := by
  induction trace with
  | nil => rfl
  | cons x trace ih =>
    rw [← List.singleton_append, dialers_append, ofSlot_append, lines_append, List.count_append, List.length_append, ih]
    congr 1
    obtain ⟨i, a⟩ := x
    cases hline : a.line file <;> by_cases hij : i = j <;> simp [dialers, ofSlot, lines, hline, hij]

theorem mem_written {line : Line} (h : line ∈ lines file (ofSlot j trace)) : line ∈ written file trace := by
  obtain ⟨a, ha, hline⟩ := List.mem_filterMap.mp h
  obtain ⟨x, hx, rfl⟩ := List.mem_map.mp ha
  exact List.mem_filterMap.mpr ⟨x.2, List.mem_map_of_mem (List.mem_of_mem_filter hx), hline⟩

/-- Distinct slots below a bound are no more than the bound. -/
theorem length_dialers_le (honce : ∀ j, (lines file (ofSlot j trace)).length ≤ 1)
    (hlow : ∀ j, n ≤ j → lines file (ofSlot j trace) = []) : (dialers file trace).length ≤ n := by
  have hnodup : (dialers file trace).Nodup := by
    refine List.nodup_iff_count_le_one.mpr fun j => ?_
    rw [count_dialers]
    exact honce j
  have hsub : dialers file trace ⊆ List.range n := by
    intro j hj
    by_contra hn
    have hcount := List.count_pos_iff.mpr hj
    rw [count_dialers, hlow j (by simpa using hn)] at hcount
    exact absurd hcount (lt_irrefl 0)
  calc (dialers file trace).length ≤ (List.range n).length := (hnodup.subperm hsub).length_le
    _ = n := List.length_range

end

/-! ## The system -/

/-- The client sessions, the subscribers, and the files both write. -/
structure World where
  manager : Manager
  /-- The configuration that the last tick found. -/
  wans : List WanConfig
  server : Server
  files : PppFile → List Line

/-- What happens; the credentials of a WAN fit their `char[64]`. -/
inductive FileEvent where
  | tick (t : Tick) (fits : ∀ w ∈ t.wans, w.pppUsername.length < 64 ∧ w.pppPassword.length < 64)
  | edit (op : Op) (now : UInt64) (opens : PppFile → Bool)
  | serverTick (nowMs now written : UInt64) (opens : PppFile → Bool)
  /-- `pppoe_server_start` and `pppoe_server_reload`. -/
  | reload (now : UInt64) (opens : PppFile → Bool)

/-- The `header` of `write_pppoe_secrets`. -/
def secretsHeader : List Line :=
  [.comment "# FluxWAN Broadband Accounts Secrets".toList,
    .comment "# Secrets for authentication using CHAP / PAP".toList,
    .comment "# client server secret IP_addresses".toList]

/-- `write_pppoe_secrets`: each secrets file that opens is written anew. -/
def writePppoeSecrets (secrets : List Secret) (opens : PppFile → Bool) (files : PppFile → List Line)
    (file : PppFile) : List Line :=
  match file with
  | .options => files .options
  | .papSecrets | .chapSecrets =>
    if opens file = true then secretsHeader ++ secrets.map .secret else files file

/-- The edit calls `write_pppoe_secrets`. -/
def EditWrites (cfg : PppoeServerConfig) (op : Op) : Prop :=
  (op.outcome cfg).any Outcome.secretsWritten = true

instance (cfg : PppoeServerConfig) (op : Op) : Decidable (EditWrites cfg op) := inferInstanceAs (Decidable (_ = _))

/-- The server's tick calls `write_pppoe_secrets`. -/
def TickWrites (s : Server) (nowMs now : UInt64) : Prop :=
  s.Effective nowMs ∧ s.cfg.users.any (fun u => u.enabled = true ∧ Expired now u) = true

instance (s : Server) (nowMs now : UInt64) : Decidable (TickWrites s nowMs now) :=
  inferInstanceAs (Decidable (_ ∧ _))

/-- What the manager does in a tick. -/
def Manager.actions (m : Manager) (t : Tick) : List (Nat × Action) :=
  (eachFrom (fun i w => slotTick t.now w (t.env i)) 0 t.wans m.slots).2

/-- The secrets rewritten from the server's table. -/
def World.rewrite (x : World) (now : UInt64) (opens : PppFile → Bool) : World :=
  { x with files := writePppoeSecrets (secretsOf now x.server.cfg) opens x.files }

def World.step (x : World) : FileEvent → World
  | .tick t _ =>
    { x with
      manager := x.manager.tick t
      wans := t.wans
      files := fun file => x.files file ++ written file (x.manager.actions t) }
  | .edit op now opens =>
    let x' := { x with server := x.server.edit op now }
    if EditWrites x.server.cfg op then x'.rewrite now opens else x'
  | .serverTick nowMs now written opens =>
    let x' := { x with server := x.server.tick nowMs now written }
    if TickWrites x.server nowMs now then x'.rewrite written opens else x'
  | .reload now opens => x.rewrite now opens

def World.run (x : World) (events : List FileEvent) : World := events.foldl World.step x

/-- Fresh files; the sessions of start-up are dialed by the first tick. -/
def World.boot (server : Server) : World :=
  { manager := Manager.boot [] fun _ => {}, wans := [], server, files := fun _ => [] }

/-! ## What the server's events change -/

theorem Server.edit_cfg (s : Server) (op : Op) : (s.edit op now).cfg = op.apply s.cfg := by
  unfold Server.edit Op.apply
  rcases op.outcome s.cfg with _ | out
  · rfl
  · cases hk : out.kicked <;> simp [hk, Server.sweep]

theorem Server.tick_cfg (s : Server) (nowMs now written : UInt64) : (s.tick nowMs now written).cfg = s.cfg := by
  unfold Server.tick
  split_ifs <;> rfl

/-- An edit that leaves the secrets alone leaves the number of subscribers. -/
theorem length_users_of_not_writes {cfg : PppoeServerConfig} {op : Op} (h : ¬ EditWrites cfg op) :
    (op.apply cfg).users.length = cfg.users.length := by
  unfold Op.apply
  unfold EditWrites at h
  cases hout : op.outcome cfg with
  | none => rfl
  | some out =>
    have hsec : out.secretsWritten = false := by simpa [hout] using h
    show out.cfg.users.length = _
    cases op with
    | setUser created now user =>
      simp only [Op.outcome, setUser] at hout
      split_ifs at hout
      obtain ⟨cfg', -, rfl⟩ := Option.map_eq_some_iff.mp hout
      cases hsec
    | deleteUser name =>
      simp only [Op.outcome, deleteUser] at hout
      split_ifs at hout
      obtain rfl := Option.some.inj hout
      have hnone : KeyedTable.lookup PppoeUser.username cfg.users name = none := Option.isNone_iff_eq_none.mp (by
        simpa using hsec)
      exact congrArg List.length (KeyedTable.remove_of_not_mem (KeyedTable.lookup_eq_none_iff.mp hnone))
    | renewUser now name days newProfile =>
      simp only [Op.outcome, renewUser] at hout
      split_ifs at hout
      obtain ⟨cfg', -, rfl⟩ := Option.map_eq_some_iff.mp hout
      cases hsec
    | toggleUser name enable =>
      simp only [Op.outcome, toggleUser] at hout
      by_cases hname : name = []
      · rw [if_pos hname] at hout
        cases hout
      rw [if_neg hname] at hout
      obtain ⟨cfg', -, rfl⟩ := Option.map_eq_some_iff.mp hout
      cases hsec
    | setProfile p =>
      simp only [Op.outcome, setProfile] at hout
      split_ifs at hout
      obtain ⟨cfg', hput, rfl⟩ := Option.map_eq_some_iff.mp hout
      exact congrArg List.length (putProfile_spec hput).2
    | deleteProfile name =>
      simp only [Op.outcome, deleteProfile] at hout
      split_ifs at hout
      obtain rfl := Option.some.inj hout
      rfl
    | renameProfile old new =>
      simp only [Op.outcome, renameProfile] at hout
      split_ifs at hout
      obtain rfl := Option.some.inj hout
      exact List.length_map _
    | bulkImport now users profs replaceMode fits =>
      obtain rfl := Option.some.inj hout
      cases hsec

/-! ## What a tick changes -/

section
variable (m : Manager) (t : Tick) (j : Nat)

/-- What a tick does to a slot. -/
def Manager.did : Did := slotDid (fun i w => slotTick t.now w (t.env i)) t.wans[j]? j (m.slots j)

theorem Manager.tick_slots : (m.tick t).slots j = (m.did t j).1 := m.each_slots _ t.wans j

theorem Manager.tick_traceOf : (m.tick t).traceOf j = m.traceOf j ++ (m.did t j).2 := m.each_traceOf _ t.wans j

theorem Manager.ofSlot_actions : ofSlot j (m.actions t) = (m.did t j).2 :=
  congrArg Prod.snd (eachFrom_slot _ j t.wans 0 m.slots (Nat.zero_le j))

theorem Manager.tick_trace : (m.tick t).trace = m.trace ++ m.actions t := rfl

variable {m t j}

/-- A slot dials, or it is untouched. -/
theorem Manager.did_cases (h : Kept t.now (m.slots j) []) :
    (∃ w, t.wans[j]? = some w ∧ Dials t.now w (t.env j) (m.slots j) ∧ Dialed w (t.env j) (m.did t j)) ∨
      Untouched (m.slots j) (m.did t j) := by
  unfold Manager.did
  cases hw : t.wans[j]? with
  | none => exact .inr untouched_refl
  | some w =>
    by_cases hd : Dials t.now w (t.env j) (m.slots j)
    · exact .inl ⟨w, rfl, hd, slotTick_of_dials h hd⟩
    · exact .inr (slotTick_of_not_dials h hd)

end

/-! ## Bounded files -/

/-- The lines that the subscribers may take. -/
def subscriberLines (file : PppFile) (cfg : PppoeServerConfig) : Nat :=
  match file with
  | .options => 0
  | .papSecrets | .chapSecrets => secretsHeader.length + cfg.users.length

/-- The files are bounded by the configuration, and hold the credentials in use. -/
structure Bounded (x : World) : Prop where
  size : ∀ file, (x.files file).length ≤ subscriberLines file x.server.cfg + x.wans.length
  credentials : ∀ j, (x.manager.slots j).state.Busy → ∀ file, file ≠ .options →
    wanLine file (x.manager.slots j).lastUsername (x.manager.slots j).lastPassword ∈ x.files file

/-- The secrets files open, and no session is dialing or connected. -/
def Quiescent (x : World) (opens : PppFile → Bool) : Prop :=
  opens .papSecrets = true ∧ opens .chapSecrets = true ∧ ∀ j, ¬ (x.manager.slots j).state.Busy

/-- A tick removes no WAN, and dials, with the secrets files at hand, only slots that have not dialed before;
    the secrets are rewritten while no session is dialing or connected. -/
def TidyFiles (x : World) : FileEvent → Prop
  | .tick t _ => x.wans.length ≤ t.wans.length ∧
    ∀ j w, t.wans[j]? = some w → Dials t.now w (t.env j) (x.manager.slots j) →
      (∀ file, lines file (x.manager.traceOf j) = []) ∧
        (t.env j).opens .papSecrets = true ∧ (t.env j).opens .chapSecrets = true
  | .edit op _ opens => EditWrites x.server.cfg op → Quiescent x opens
  | .serverTick nowMs now _ opens => TickWrites x.server nowMs now → Quiescent x opens
  | .reload _ opens => Quiescent x opens

/-- What carries the bounds: each slot has dialed at most once, and none above the WANs. -/
structure Sparse (x : World) : Prop where
  alone : ∀ j now, Kept now (x.manager.slots j) []
  once : ∀ file j, (lines file (x.manager.traceOf j)).length ≤ 1
  low : ∀ file j, x.wans.length ≤ j → lines file (x.manager.traceOf j) = []
  size : ∀ file, (x.files file).length ≤ subscriberLines file x.server.cfg + (dialers file x.manager.trace).length
  credentials : ∀ j, (x.manager.slots j).state.Busy → ∀ file, file ≠ .options →
    wanLine file (x.manager.slots j).lastUsername (x.manager.slots j).lastPassword ∈ x.files file

theorem Sparse.bounded (h : Sparse x) : Bounded x where
  size file := (h.size file).trans (Nat.add_le_add_left (length_dialers_le file (h.once file) (h.low file)) _)
  credentials := h.credentials

theorem sparse_boot : Sparse (World.boot server) where
  alone j := (kept_boot [] (fun _ => {}) j).forget
  once _ _ := Nat.zero_le _
  low _ _ _ := rfl
  size _ := Nat.zero_le _
  credentials _ hbusy := absurd hbusy not_busy_idle

/-- **A tick.** -/
theorem Sparse.tick {x : World} {t : Tick} {fits : ∀ w ∈ t.wans, w.pppUsername.length < 64 ∧ w.pppPassword.length < 64}
    (h : Sparse x) (htidy : TidyFiles x (.tick t fits)) : Sparse (x.step (.tick t fits)) := by
  obtain ⟨hgrow, hfresh⟩ := htidy
  have hcases := fun j => Manager.did_cases (h.alone j t.now)
  refine ⟨fun j => Manager.tick_alone (h.alone j) t, fun file j => ?_, fun file j hj => ?_, fun file => ?_,
    fun j hbusy file hfile => ?_⟩
  · show (lines file ((x.manager.tick t).traceOf j)).length ≤ 1
    rw [Manager.tick_traceOf, lines_append]
    rcases hcases j with ⟨w, hw, hd, hdialed⟩ | hsame
    · rw [(hfresh j w hw hd).1 file, List.nil_append, hdialed.lines file]
      unfold dialLines
      split_ifs <;> simp
    · rw [hsame.lines file, List.append_nil]
      exact h.once file j
  · show lines file ((x.manager.tick t).traceOf j) = []
    have hj : t.wans.length ≤ j := hj
    rw [Manager.tick_traceOf, lines_append, h.low file j (hgrow.trans hj), List.nil_append]
    rcases hcases j with ⟨w, hw, -, -⟩ | hsame
    · exact nomatch (List.getElem?_eq_none hj).symm.trans hw
    · exact hsame.lines file
  · show (x.files file ++ written file (x.manager.actions t)).length ≤
      subscriberLines file x.server.cfg + (dialers file (x.manager.tick t).trace).length
    rw [Manager.tick_trace, dialers_append, List.length_append, List.length_append, length_written, ← Nat.add_assoc]
    exact Nat.add_le_add_right (h.size file) _
  · -- the line of a session that is up: written by this tick, or there before
    have hbusy : ((x.manager.tick t).slots j).state.Busy := hbusy
    show wanLine file ((x.manager.tick t).slots j).lastUsername ((x.manager.tick t).slots j).lastPassword ∈
      x.files file ++ written file (x.manager.actions t)
    rw [Manager.tick_slots] at hbusy ⊢
    rcases hcases j with ⟨w, hw, hd, hdialed⟩ | hsame
    · obtain ⟨-, hpap, hchap⟩ := hfresh j w hw hd
      obtain ⟨huser, hpass⟩ := fits w (List.mem_of_getElem? hw)
      have hopen : (t.env j).opens file = true := by
        cases file
        · exact absurd rfl hfile
        · exact hpap
        · exact hchap
      refine List.mem_append_right _ (mem_written file (j := j) ?_)
      rw [Manager.ofSlot_actions, hdialed.lines file, dialLines, if_pos hopen, hdialed.username, hdialed.password,
        copyInto, copyInto, List.take_of_length_le (by omega), List.take_of_length_le (by omega)]
      exact List.mem_singleton_self _
    · rw [hsame.username, hsame.password]
      exact List.mem_append_left _ (h.credentials j (hsame.busy hbusy) file hfile)

/-- **The secrets rewritten.** -/
theorem Sparse.rewrite (h : Sparse x) (hq : Quiescent x opens) (now : UInt64)
    (server : Server) : Sparse (World.rewrite { x with server } now opens) := by
  obtain ⟨hpap, hchap, hdown⟩ := hq
  have hsecrets : (secretsOf now server.cfg).length ≤ server.cfg.users.length := by
    rw [secretsOf, List.length_map]
    exact List.length_filter_le ..
  have hlen : (secretsHeader ++ (secretsOf now server.cfg).map Line.secret).length ≤
      secretsHeader.length + server.cfg.users.length := by
    rw [List.length_append, List.length_map]
    exact Nat.add_le_add_left hsecrets _
  refine ⟨h.alone, h.once, h.low, fun file => ?_, fun j hbusy => absurd hbusy (hdown j)⟩
  cases file with
  | options => exact h.size .options
  | papSecrets =>
    show (if opens .papSecrets = true then _ else _ : List Line).length ≤ _
    rw [if_pos hpap]
    exact hlen.trans (Nat.le_add_right _ _)
  | chapSecrets =>
    show (if opens .chapSecrets = true then _ else _ : List Line).length ≤ _
    rw [if_pos hchap]
    exact hlen.trans (Nat.le_add_right _ _)

/-- A server event that leaves the files and the number of subscribers. -/
theorem Sparse.keep {x : World} (h : Sparse x) {server : Server}
    (hlen : server.cfg.users.length = x.server.cfg.users.length) : Sparse { x with server } := by
  refine ⟨h.alone, h.once, h.low, fun file => ?_, h.credentials⟩
  have hsame : subscriberLines file server.cfg = subscriberLines file x.server.cfg := by
    cases file
    · rfl
    · exact congrArg (secretsHeader.length + ·) hlen
    · exact congrArg (secretsHeader.length + ·) hlen
  exact (h.size file).trans (Nat.add_le_add_right hsame.ge _)

/-- **One step.** -/
theorem Sparse.step {x : World} {e : FileEvent} (h : Sparse x) (htidy : TidyFiles x e) : Sparse (x.step e) := by
  cases e with
  | tick t fits => exact h.tick htidy
  | edit op now opens =>
    dsimp only [World.step]
    split_ifs with hw
    · exact h.rewrite (htidy hw) now _
    · refine h.keep ?_
      rw [Server.edit_cfg]
      exact length_users_of_not_writes hw
  | serverTick nowMs now written opens =>
    dsimp only [World.step]
    split_ifs with hw
    · exact h.rewrite (htidy hw) written _
    · refine h.keep ?_
      rw [Server.tick_cfg]
  | reload now opens => exact h.rewrite htidy now x.server

/-- Every event of the run is tidy when its turn comes. -/
def TidyFileRun : World → List FileEvent → Prop
  | _, [] => True
  | x, e :: events => TidyFiles x e ∧ TidyFileRun (x.step e) events

theorem Sparse.run : ∀ {x : World}, Sparse x → TidyFileRun x events → Sparse (x.run events) := by
  induction events with
  | nil => exact fun h _ => h
  | cons e events ih => exact fun h htidy => ih (h.step htidy.1) htidy.2

/-- **Bounded files.**  In every run whose events are all tidy the files are bounded by the numbers of WANs and
    subscribers, and hold the credentials of the sessions that are up. -/
theorem bounded_of_tidy (server : Server) (events : List FileEvent)
    (htidy : TidyFileRun (World.boot server) events) : Bounded ((World.boot server).run events) :=
  (sparse_boot.run htidy).bounded

/-- All files open. -/
def allOpen : PppFile → Bool := fun _ => true

/-- The secrets are written, then a WAN dials. -/
def writeThenDial : List FileEvent :=
  [.reload 0 allOpen, .tick (sampleTick 0 100 [sampleWan] false) (by decide)]

theorem bounded_writeThenDial :
    (((World.boot (boot 0 sampleServer)).run writeThenDial).manager.slots 0).state = .dialing ∧
      Bounded ((World.boot (boot 0 sampleServer)).run writeThenDial) := by
  refine ⟨by decide, bounded_of_tidy _ _ ⟨⟨rfl, rfl, fun _ => not_busy_idle⟩, ⟨Nat.zero_le _, ?_⟩, trivial⟩⟩
  exact fun _ _ _ _ => ⟨fun _ => rfl, rfl, rfl⟩

/-! ### Growth and loss -/

/-- A tick at which `pppd` cannot be forked. -/
def failingTick : Tick := { now := 0, wans := [sampleWan], now_le := fun _ => le_rfl }

/-- The session after it: idle, so that the next tick dials again. -/
def failedSession : PppoeSession := { lastUsername := sampleWan.pppUsername, lastPassword := sampleWan.pppPassword }

theorem failingTick_did {m : Manager} (h : m.slots 0 = failedSession) (file : PppFile) :
    (m.did failingTick 0).1 = failedSession ∧ wanLine file ['u'] ['p'] ∈ lines file (m.did failingTick 0).2 := by
  have hdid : m.did failingTick 0 = slotTick 0 sampleWan {} failedSession := by rw [← h]; rfl
  rw [hdid]
  refine ⟨by decide, ?_⟩
  cases file <;> decide

/-- Ticks that all fail to fork. -/
def failing (n : Nat) : List FileEvent := List.replicate n (.tick failingTick (by decide))

/-- Each failed dial leaves a line in each file, and the configuration is as before. -/
theorem run_failing (n : Nat) : ∀ x : World, x.manager.slots 0 = failedSession → x.wans = [sampleWan] →
    (x.run (failing n)).wans = [sampleWan] ∧ (x.run (failing n)).server = x.server ∧
      ∀ file, n + (x.files file).length ≤ ((x.run (failing n)).files file).length := by
  induction n with
  | zero => exact fun x _ hwans => ⟨hwans, rfl, fun file => (Nat.zero_add _).le⟩
  | succ n ih =>
    intro x hx _
    let x' := x.step (.tick failingTick (by decide))
    have hslot : x'.manager.slots 0 = failedSession :=
      (x.manager.tick_slots failingTick 0).trans (failingTick_did hx .options).1
    obtain ⟨hwans, hserver, hrest⟩ := ih x' hslot rfl
    refine ⟨hwans, hserver, fun file => ?_⟩
    have hmem : wanLine file ['u'] ['p'] ∈ lines file (ofSlot 0 (x.manager.actions failingTick)) := by
      rw [Manager.ofSlot_actions]
      exact (failingTick_did hx file).2
    have hline : 0 < (written file (x.manager.actions failingTick)).length :=
      List.length_pos_of_mem (mem_written file hmem)
    have hmore : (x'.files file).length = (x.files file).length +
        (written file (x.manager.actions failingTick)).length := List.length_append
    have hlater := hrest file
    show n + 1 + _ ≤ ((x'.run (failing n)).files file).length
    omega

/-- A WAN dials, and a subscriber is edited. -/
def dialThenEdit : List FileEvent :=
  [.tick (sampleTick 0 100 [sampleWan] false) (by decide), .edit (.toggleUser "fluxwan".toList true) 1 allOpen]

/-- With one WAN and one subscriber every file grows beyond any bound; and an edit drops the credentials of a
    session that is dialing. -/
theorem files_grow_and_forget :
    (∀ n, ∃ events, ((World.boot (boot 0 sampleServer)).run events).wans.length ≤ 1 ∧
      ((World.boot (boot 0 sampleServer)).run events).server.cfg.users.length = 1 ∧
      ∀ file, n ≤ (((World.boot (boot 0 sampleServer)).run events).files file).length) ∧
    (((World.boot (boot 0 sampleServer)).run dialThenEdit).manager.slots 0).state = .dialing ∧
    wanLine .papSecrets ['u'] ['p'] ∉ ((World.boot (boot 0 sampleServer)).run dialThenEdit).files .papSecrets ∧
    ¬ Bounded ((World.boot (boot 0 sampleServer)).run dialThenEdit) := by
  have hdialing : (((World.boot (boot 0 sampleServer)).run dialThenEdit).manager.slots 0).state = .dialing := by
    decide
  have hlost : wanLine .papSecrets ['u'] ['p'] ∉
      ((World.boot (boot 0 sampleServer)).run dialThenEdit).files .papSecrets := by
    decide
  refine ⟨fun n => ?_, hdialing, hlost, fun h => hlost ?_⟩
  · obtain ⟨hwans, hserver, hlen⟩ := run_failing n
      ((World.boot (boot 0 sampleServer)).step (.tick failingTick (by decide))) (by decide) rfl
    refine ⟨failing (n + 1), ?_, ?_, fun file => ?_⟩
    · exact (congrArg List.length hwans).le
    · exact congrArg (fun s : Server => s.cfg.users.length) hserver
    · exact (Nat.le_add_right n _).trans (hlen file)
  · exact h.credentials 0 (.inl hdialing) .papSecrets nofun

end FluxWAN.Pppoe
