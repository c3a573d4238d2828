/-
  The PPPoE client sessions (`src/pppoe_manager.c`, the Linux build).

  One slot per WAN index.  `pppoe_manager_tick` walks the WANs of the configuration and drives each slot through
  a machine of seven states; `pppoe_session_start` and `pppoe_session_stop` fork and kill the slot's `pppd`.

  A function returns the new session and the list of what it did outside of it (`Action`): processes, files,
  callbacks.  The actions of all ticks, in order, are the trace the results speak of.

  1. **One slot** — `pppoeSessionStop`, `pppoeSessionStart`, `slotTick`.
  2. **The loop** — `eachFrom`; `eachFrom_slot`: a pass over the WANs changes each slot on its own.
  3. **Runs** — `Manager.run`: from start-up through any ticks, each with the configuration it finds.
-/
import FluxWAN.Config
import FluxWAN.Lib.Trace

namespace FluxWAN.Pppoe

open CString

/-! ## Sessions -/

/-- `pppoe_state_t`. -/
inductive PppoeState where
  | idle
  | dialing
  | auth
  | connected
  | disconnected
  | reconnecting
  | stopping
  deriving DecidableEq, Repr

/-- `PPPOE_INITIAL_BACKOFF_S`. -/
def initialBackoffS : Nat := 15

/-- `PPPOE_MAX_BACKOFF_S`. -/
def maxBackoffS : Nat := 120

/-- `pppoe_session_t`, without the names and addresses that only callers read. -/
structure PppoeSession where
  state : PppoeState := .idle
  /-- `none` is −1. -/
  pppdPid : Option Nat := none
  dialStartMs : Nat := 0
  connectedSinceMs : Nat := 0
  nextRetryMs : Nat := 0
  lastCheckMs : Nat := 0
  backoffS : Nat := initialBackoffS
  reconnectAttempts : Nat := 0
  lastUsername : CStr := []
  lastPassword : CStr := []
  deriving DecidableEq, Repr

/-- `pppd` is up or coming up. -/
def PppoeState.Busy (st : PppoeState) : Prop := st = .dialing ∨ st = .auth ∨ st = .connected

instance (st : PppoeState) : Decidable st.Busy := inferInstanceAs (Decidable (_ ∨ _))

/-- The three files that a dial appends to. -/
inductive PppFile where
  | options
  | papSecrets
  | chapSecrets
  deriving DecidableEq, Repr

/-- What a function does outside of the session. -/
inductive Action where
  /-- The tick finds the WAN disabled. -/
  | disabled
  | kill (pid : Nat)
  /-- A line for the WAN's credentials (the plugin's line, in the options file). -/
  | append (file : PppFile) (username password : CStr)
  /-- `fork` succeeds; the clock is read right after it. -/
  | fork (pid : Nat) (time : Nat)
  /-- `waitpid` reports the end of `pppd` at a tick, with the backoff in force. -/
  | reap (pid : Nat) (time : Nat) (delayS : Nat)
  | onConnected (ip gw : UInt32)
  | onDisconnected (attempts : Nat)
  deriving DecidableEq, Repr

/-- The session after a function, and what the function did. -/
abbrev Did := PppoeSession × List Action

/-- One function after another. -/
def Did.andThen (d : Did) (f : PppoeSession → Did) : Did := ((f d.1).1, d.2 ++ (f d.1).2)

/-- What a tick finds outside the daemon, for one slot. -/
structure SlotEnv where
  /-- `waitpid` reports that the recorded process has ended. -/
  exited : Bool := false
  /-- Local and remote address of the PPP interface. -/
  addr : Option (UInt32 × UInt32) := none
  /-- Whether a file can be opened for appending. -/
  opens : PppFile → Bool := fun _ => true
  /-- Whether the options file of the slot can be written. -/
  writesOpts : Bool := true
  /-- The new process, unless `fork` fails. -/
  fork : Option Nat := none
  /-- The clock after the `fork`. -/
  startMs : Nat := 0

/-- `pppoe_session_stop`. -/
def pppoeSessionStop (s : PppoeSession) : Did :=
  ({ s with pppdPid := none, state := .idle }, s.pppdPid.toList.map .kill)

/-- The lines a dial appends. -/
def appends (w : WanConfig) (env : SlotEnv) : List Action :=
  ([.options, .papSecrets, .chapSecrets].filter env.opens).map fun file =>
    .append file w.pppUsername w.pppPassword

/-- `pppoe_session_start`, from the credentials on: files, then the process. -/
def launch (w : WanConfig) (env : SlotEnv) (s : PppoeSession) : Did :=
  let s := { s with lastUsername := copyInto 64 w.pppUsername, lastPassword := copyInto 64 w.pppPassword }
  match env.writesOpts, env.fork with
  | true, some pid =>
    ({ s with pppdPid := some pid, state := .dialing, dialStartMs := env.startMs, nextRetryMs := 0 },
      appends w env ++ [.fork pid env.startMs])
  | _, _ => (s, appends w env)

/-- `pppoe_session_start`. -/
def pppoeSessionStart (w : WanConfig) (env : SlotEnv) (s : PppoeSession) : Did :=
  if s.state = .connected ∨ s.state = .dialing then (s, [])
  else (pppoeSessionStop s).andThen (launch w env)

/-! ## One slot in a tick -/

/-- "If WAN was disabled administratively, ensure pppd is stopped". -/
def standDown (s : PppoeSession) : Did :=
  if s.state ≠ .idle ∧ s.state ≠ .stopping then pppoeSessionStop s else (s, [])

/-- "Check if credentials changed dynamically via Web UI". -/
def checkCredentials (w : WanConfig) (s : PppoeSession) : Did :=
  if s.state.Busy ∧ (s.lastUsername ≠ w.pppUsername ∨ s.lastPassword ≠ w.pppPassword) then pppoeSessionStop s
  else (s, [])

/-- "Check if process is still running". -/
def checkProcess (now : Nat) (env : SlotEnv) (s : PppoeSession) : Did :=
  match s.pppdPid, env.exited with
  | some pid, true =>
    ({ s with
        pppdPid := none
        state := .disconnected
        reconnectAttempts := s.reconnectAttempts + 1
        backoffS := if s.backoffS * 2 > maxBackoffS then maxBackoffS else s.backoffS * 2
        nextRetryMs := now + s.backoffS * 1000 }, [.reap pid now s.backoffS, .onDisconnected (s.reconnectAttempts + 1)])
  | _, _ => (s, [])

/-- Waiting for an address. -/
def awaitAddress (now : Nat) (env : SlotEnv) (s : PppoeSession) : Did :=
  match env.addr with
  | some (ip, gw) =>
    ({ s with
        state := .connected
        connectedSinceMs := now
        backoffS := initialBackoffS
        reconnectAttempts := 0 }, [.onConnected ip gw])
  | none =>
    if now - s.dialStartMs > 45000 then
      (pppoeSessionStop s).andThen fun s => ({ s with state := .reconnecting, nextRetryMs := now + 5000 }, [])
    else (s, [])

/-- "Periodically verify carrier link". -/
def verifyCarrier (now : Nat) (env : SlotEnv) (s : PppoeSession) : Did :=
  if now - s.lastCheckMs ≥ 5000 then
    match env.addr with
    | some _ => ({ s with lastCheckMs := now }, [])
    | none =>
      ({ s with lastCheckMs := now, state := .disconnected, nextRetryMs := now + 5000 },
        [.onDisconnected s.reconnectAttempts])
  else (s, [])

/-- "State Machine Transitions", for an enabled WAN. -/
def transition (now : Nat) (w : WanConfig) (env : SlotEnv) (s : PppoeSession) : Did :=
  match s.state with
  | .idle => pppoeSessionStart w env s
  | .dialing | .auth => awaitAddress now env s
  | .connected => verifyCarrier now env s
  | .disconnected | .reconnecting => if now ≥ s.nextRetryMs then pppoeSessionStart w env s else (s, [])
  | .stopping => pppoeSessionStop s

/-- The body of the loop of `pppoe_manager_tick`. -/
def slotTick (now : Nat) (w : WanConfig) (env : SlotEnv) (s : PppoeSession) : Did :=
  if w.type ≠ .pppoe then (s, [])
  else if w.enabled = false then Did.andThen (s, [.disabled]) standDown
  else ((checkCredentials w s).andThen (checkProcess now env)).andThen (transition now w env)

/-! ## The loop -/

/-- The sessions by WAN index. -/
abbrev Slots := Nat → PppoeSession

/-- A loop over the WANs, from index `i` on, that runs `body` on each slot. -/
def eachFrom (body : Nat → WanConfig → PppoeSession → Did) : Nat → List WanConfig → Slots → Slots × List (Nat × Action)
  | _, [], m => (m, [])
  | i, w :: ws, m =>
    let did := body i w (m i)
    let rest := eachFrom body (i + 1) ws (Function.update m i did.1)
    (rest.1, did.2.map (Prod.mk i) ++ rest.2)

/-- The actions of one slot. -/
def ofSlot (j : Nat) (actions : List (Nat × Action)) : List Action :=
  (actions.filter fun x => x.1 = j).map Prod.snd

@[simp] theorem ofSlot_append (j : Nat) (xs ys : List (Nat × Action)) :
    ofSlot j (xs ++ ys) = ofSlot j xs ++ ofSlot j ys := by
  simp [ofSlot]

theorem ofSlot_map_mk (j i : Nat) (as : List Action) :
    ofSlot j (as.map (Prod.mk i)) = if i = j then as else [] := by
  unfold ofSlot
  split_ifs with h
  · simp [h, List.filter_map, Function.comp_def]
  · simp [h, List.filter_map, Function.comp_def]

/-- What a pass over the WANs does to slot `j`: the body for its own WAN, if there is one. -/
def slotDid (body : Nat → WanConfig → PppoeSession → Did) (w : Option WanConfig) (j : Nat) (s : PppoeSession) : Did :=
  match w with
  | some w => body j w s
  | none => (s, [])

/-- **Each slot on its own.** -/
theorem eachFrom_slot (body : Nat → WanConfig → PppoeSession → Did) (j : Nat) (ws : List WanConfig) :
    ∀ (i : Nat) (m : Slots), i ≤ j →
      ((eachFrom body i ws m).1 j, ofSlot j (eachFrom body i ws m).2) = slotDid body ws[j - i]? j (m j) := by
  induction ws with
  | nil => exact fun i m _ => rfl
  | cons w ws ih =>
    intro i m hij
    rcases Nat.eq_or_lt_of_le hij with rfl | hlt
    · -- the slot's own iteration; later ones are about larger indices
      have hlater : ∀ (ws : List WanConfig) (k : Nat) (m : Slots), i < k →
          (eachFrom body k ws m).1 i = m i ∧ ofSlot i (eachFrom body k ws m).2 = [] := by
        intro ws
        induction ws with
        | nil => exact fun k m _ => ⟨rfl, rfl⟩
        | cons w ws ih' =>
          intro k m hk
          obtain ⟨hm, hacts⟩ := ih' (k + 1) (Function.update m k (body k w (m k)).1) (by omega)
          refine ⟨hm.trans (Function.update_of_ne (by omega) _ _), ?_⟩
          rw [eachFrom, ofSlot_append, ofSlot_map_mk, if_neg (by omega), hacts]
          rfl
      obtain ⟨hm, hacts⟩ := hlater ws (i + 1) (Function.update m i (body i w (m i)).1) (by omega)
      rw [eachFrom, ofSlot_append, ofSlot_map_mk, if_pos rfl, hacts, hm, Function.update_self, List.append_nil,
        Nat.sub_self]
      rfl
    · have hsplit := ih (i + 1) (Function.update m i (body i w (m i)).1) hlt
      rw [Function.update_of_ne (by omega)] at hsplit
      have hidx : (w :: ws)[j - i]? = ws[j - (i + 1)]? := by
        rw [show j - i = j - (i + 1) + 1 by omega]
        rfl
      rw [eachFrom, ofSlot_append, ofSlot_map_mk, if_neg (by omega), List.nil_append, hidx]
      exact hsplit

/-! ## Runs -/

/-- The body of `pppoe_manager_start_all`. -/
def slotStart (w : WanConfig) (env : SlotEnv) (s : PppoeSession) : Did :=
  if w.type = .pppoe ∧ w.enabled = true then pppoeSessionStart w env s else (s, [])

/-- One call of `pppoe_manager_tick`: the clock, the configuration and the surroundings it finds. -/
structure Tick where
  now : Nat
  wans : List WanConfig
  env : Nat → SlotEnv := fun _ => {}
  /-- The clock is read again after a `fork`. -/
  now_le : ∀ i, now ≤ (env i).startMs

/-- The manager, and everything it has done. -/
structure Manager where
  slots : Slots
  trace : List (Nat × Action)

/-- A pass over the WANs. -/
def Manager.each (m : Manager) (body : Nat → WanConfig → PppoeSession → Did) (wans : List WanConfig) : Manager :=
  let did := eachFrom body 0 wans m.slots
  { slots := did.1, trace := m.trace ++ did.2 }

/-- `pppoe_manager_init`, then `pppoe_manager_start_all`. -/
def Manager.boot (wans : List WanConfig) (env : Nat → SlotEnv) : Manager :=
  Manager.each { slots := fun _ => {}, trace := [] } (fun i w => slotStart w (env i)) wans

/-- `pppoe_manager_tick`. -/
def Manager.tick (m : Manager) (t : Tick) : Manager := m.each (fun i w => slotTick t.now w (t.env i)) t.wans

def Manager.run (m : Manager) (ticks : List Tick) : Manager := ticks.foldl Manager.tick m

/-- What slot `j` has been through. -/
def Manager.traceOf (m : Manager) (j : Nat) : List Action := ofSlot j m.trace

section
variable (m : Manager) (body : Nat → WanConfig → PppoeSession → Did) (wans : List WanConfig) (t : Tick) (j : Nat)

theorem Manager.each_slots : (m.each body wans).slots j = (slotDid body wans[j]? j (m.slots j)).1 :=
  congrArg Prod.fst (eachFrom_slot body j wans 0 m.slots (Nat.zero_le j))

theorem Manager.each_traceOf :
    (m.each body wans).traceOf j = m.traceOf j ++ (slotDid body wans[j]? j (m.slots j)).2 := by
  have hslot := congrArg Prod.snd (eachFrom_slot body j wans 0 m.slots (Nat.zero_le j))
  show ofSlot j (m.trace ++ _) = _
  rw [ofSlot_append]
  exact congrArg (m.traceOf j ++ ·) hslot

/-- **Induction over passes.**  What the body keeps of a session and its trace, a pass keeps of every slot. -/
theorem Manager.each_keeps {P : PppoeSession → List Action → Prop}
    (hbody : ∀ w s tr, P s tr → P (body j w s).1 (tr ++ (body j w s).2)) (h : P (m.slots j) (m.traceOf j)) :
    P ((m.each body wans).slots j) ((m.each body wans).traceOf j) := by
  rw [m.each_slots body wans j, m.each_traceOf body wans j]
  cases wans[j]? with
  | none => rwa [slotDid, List.append_nil]
  | some w => exact hbody w _ _ h

end

theorem Manager.run_append_singleton (m : Manager) (ticks : List Tick) (t : Tick) :
    m.run (ticks ++ [t]) = (m.run ticks).tick t :=
  List.foldl_concat ..

end FluxWAN.Pppoe
