/-
  One request through the web server (`src/web_server.c`: `web_server_process_client_impl`).

  Authorisation is not checked in one place: each branch of the chain begins with its own gate.  `Branch`
  says how a branch begins — with a gate and its refusal, with the login, or at once — and `branch` reads
  this off the source, branch by branch.  Three branches have no gate.

  `refused_iff` is the access law of the whole function: a request whose text does not contain the token is
  refused (a fixed 401, or the static page; no command, no change) exactly when it is no `OPTIONS`, is not
  taken by one of the three open branches, and, if it is taken for a login, fails as one.
-/
import FluxWAN.Web.Handlers

namespace FluxWAN.Web

open CString

/-! ## Receiving -/

abbrev maxReq : Nat := 4194304

/-- The loop that reads the rest of a body: while it is shorter than announced and there is room. -/
def receiveMore (headerLen : Nat) (expectedLen : Int) : List Char → List (List Char) → List Char
  | buf, [] => buf
  | buf, chunk :: chunks =>
    if expectedLen > 0 ∧ ((buf.length - headerLen : Nat) : Int) < expectedLen ∧
        buf.length < maxReq - 1 ∧ chunk ≠ [] then
      receiveMore headerLen expectedLen (buf ++ chunk.take (maxReq - 1 - buf.length)) chunks
    else buf

/-- The request buffer, from what successive calls of `recv` would deliver; an exhausted list stands for
    a call that returns 0 or fails. -/
def receive : List (List Char) → Option (List Char)
  | [] => none
  | chunk :: chunks =>
    if chunk = [] then none
    else
      let buf := chunk.take (maxReq - 1)
      let req := cstr buf
      match strstr req "\r\n\r\n".toList with
      | none => some buf
      | some headerEnd =>
        let headerLen := req.length - headerEnd.length + 4
        let clPos := (strstr req "Content-Length:".toList).or (strstr req "content-length:".toList)
        match clPos with
        | none => some buf
        | some p => some (receiveMore headerLen (atoi (p.drop 15)) buf chunks)

/-! ## The chain -/

/-- How a branch of the chain begins. -/
inductive Branch where
  /-- `POST /api/v1/login`. -/
  | login
  /-- `if (!is_request_authorized(…))` with this refusal. -/
  | gated (refusal : Reply)
  /-- No check. -/
  | open (run : WebEnv → WebState → CStr → Outcome)

def branch : Endpoint → Branch
  | .login => .login
  | .metrics => .gated unauthorizedPlain
  | .apply => .gated adminLoginRequired
  | .terminal => .gated adminLoginRequired
  | .systemCheckUpdate => .open checkUpdate
  | .diagnosticsPcap => .open handlePcapExport
  | .telemetry => .open telemetry
  | _ => .gated unauthorized

/-- From the text of the request on. -/
def processRequest (env : WebEnv) (st : WebState) (req : CStr) : Outcome :=
  if startsWith req "OPTIONS ".toList then { reply := preflight, state := st }
  else
    match routeOf req with
    | none => { reply := dashboard env, state := st }
    | some e =>
      match branch e with
      | .login => login env st req
      | .gated refusal =>
        if !isRequestAuthorized st.config.auth req then { reply := refusal, state := st }
        else env.handler e st req
      | .open run => run env st req

/-- `web_server_process_client_impl`; `none` when nothing was received. -/
def webServerProcessClientImpl (env : WebEnv) (st : WebState) (chunks : List (List Char)) :
    Option Outcome :=
  (receive chunks).map fun buf => processRequest env st (cstr buf)

/-! ## Access -/

/-- The four fixed refusals. -/
def refusals : List Reply := [unauthorized, unauthorizedPlain, adminLoginRequired, invalidLogin]

/-- The branches without a gate. -/
def ungated : List Endpoint := [.systemCheckUpdate, .diagnosticsPcap, .telemetry]

/-- The request got nowhere: a fixed 401 or the static page, the configuration as it was, no command. -/
structure Refused (env : WebEnv) (st : WebState) (o : Outcome) : Prop where
  reply : o.reply ∈ refusals ∨ o.reply = dashboard env
  config : o.state.config = st.config
  commands : o.commands = []

/-- A login that is let through to the credentials and fails there. -/
def LoginFails (env : WebEnv) (st : WebState) (req : CStr) : Prop :=
  (st.trackers.isLockedOut env.peerIp env.now).1 = false ∧ credentialsMatch st.config.auth req = false

section
variable {env : WebEnv} {st : WebState} {o : Outcome}

/-- The refusals are the replies with status 401; the page is recognised by its first header line. -/
theorem Refused.status (h : Refused env st o) :
    o.reply.status = "401 Unauthorized" ∨ o.reply.headers.head? = some "Content-Type: text/html".toList := by
  rcases h.reply with hmem | hpage
  · left
    simp only [refusals, List.mem_cons, List.not_mem_nil, or_false] at hmem
    rcases hmem with h | h | h | h <;> rw [h] <;> rfl
  · right
    rw [hpage]
    rfl

theorem not_refused_of_reply (r : Reply) (ho : o.reply = r) (hstatus : r.status ≠ "401 Unauthorized")
    (hpage : r.headers.head? ≠ some "Content-Type: text/html".toList) : ¬ Refused env st o := by
  subst ho
  intro h
  rcases h.status with h | h
  · exact hstatus h
  · exact hpage h

theorem not_refused_of_json (hstatus : status ≠ "401 Unauthorized")
    (ho : o.reply = jsonReply status body) : ¬ Refused env st o := by
  refine not_refused_of_reply _ ho hstatus ?_
  intro hhead
  exact absurd (Option.some.inj hhead) (by decide)

theorem refused_of_mem (h : reply ∈ refusals) (trackers : LoginTrackers) :
    Refused env st { reply, state := { st with trackers } } :=
  ⟨.inl h, rfl, rfl⟩

/-- The static page is harmless. -/
theorem refused_dashboard : Refused env st { reply := dashboard env, state := st } :=
  ⟨.inr rfl, rfl, rfl⟩

/-- A login is refused exactly when it reaches the credentials and fails there. -/
theorem refused_login_iff : Refused env st (login env st req) ↔ LoginFails env st req := by
  unfold login LoginFails
  rcases st.trackers.isLockedOut env.peerIp env.now with ⟨locked, trackers⟩
  cases locked with
  | true =>
    have hnot : ¬ Refused env st { reply := tooManyRequests, state := { st with trackers } } :=
      not_refused_of_reply tooManyRequests rfl (by decide) (by decide)
    simpa using hnot
  | false =>
    by_cases hok : credentialsMatch st.config.auth req = true
    · have hnot : ¬ Refused env st
          { reply := jsonReply "200 OK" (loginBody st.config.auth)
            state := { st with trackers := trackers.recordSuccess env.peerIp } } :=
        not_refused_of_json (by decide) rfl
      simpa [hok] using hnot
    · have hyes : Refused env st
          { reply := invalidLogin
            state := { st with trackers := trackers.recordFailure env.peerIp env.now } } :=
        refused_of_mem (by simp [refusals]) _
      simpa [hok] using hyes

/-- Every gate refuses with one of the fixed replies. -/
theorem mem_refusals_of_gated (h : branch e = .gated refusal) : refusal ∈ refusals := by
  unfold branch at h
  split at h <;> cases h <;> simp [refusals]

/-- The branches without a gate are the three listed ones. -/
theorem mem_ungated_iff : e ∈ ungated ↔ ∃ run, branch e = .open run := by
  constructor
  · intro h
    simp only [ungated, List.mem_cons, List.not_mem_nil, or_false] at h
    rcases h with rfl | rfl | rfl <;> exact ⟨_, rfl⟩
  · rintro ⟨run, h⟩
    unfold branch at h
    split at h <;> first | cases h; done | decide

theorem branch_eq_login_iff : branch e = .login ↔ e = .login := by
  constructor
  · intro h
    unfold branch at h
    split at h <;> first | rfl | cases h
  · rintro rfl
    rfl

/-- What an open branch does is never a refusal: it runs a command, or hands out packets or status. -/
theorem not_refused_of_open (h : branch e = .open run) (req : CStr) : ¬ Refused env st (run env st req) := by
  have hmem : e ∈ ungated := mem_ungated_iff.mpr ⟨run, h⟩
  simp only [ungated, List.mem_cons, List.not_mem_nil, or_false] at hmem
  rcases hmem with rfl | rfl | rfl <;> cases h
  · intro hr
    exact absurd hr.commands (List.cons_ne_nil _ _)
  all_goals
    refine not_refused_of_reply _ rfl (show "200 OK" ≠ "401 Unauthorized" by decide) ?_
    intro hhead
    exact absurd (Option.some.inj hhead) (by decide)

/-- The chain, for a text without the token. -/
theorem refused_processRequest_iff (env : WebEnv) (st : WebState)
    (henabled : st.config.auth.enabled = true) (hlen : st.config.auth.sessionToken.length < 64)
    (hreq : ¬ st.config.auth.sessionToken <:+: req) :
    Refused env st (processRequest env st req) ↔
      startsWith req "OPTIONS ".toList = false ∧
        ∀ e, routeOf req = some e → e ∉ ungated ∧ (e = .login → LoginFails env st req) := by
  have hauth : isRequestAuthorized st.config.auth req = false := by
    rw [← Bool.not_eq_true, isRequestAuthorized_iff_occurs henabled hlen]
    exact fun h => hreq h.token_isInfix
  unfold processRequest
  by_cases hoptions : startsWith req "OPTIONS ".toList = true
  · rw [if_pos hoptions]
    simp only [hoptions, Bool.true_eq_false, false_and, iff_false]
    exact not_refused_of_reply preflight rfl (by decide) (by decide)
  · rw [if_neg hoptions]
    rw [Bool.not_eq_true] at hoptions
    simp only [hoptions, true_and]
    rcases routeOf req with _ | e
    · simp only [refused_dashboard, reduceCtorEq, false_implies, implies_true]
    · simp only [Option.some_inj, forall_eq']
      rcases hb : branch e with _ | refusal | run
      · -- the login
        obtain rfl := branch_eq_login_iff.mp hb
        have hnot : Endpoint.login ∉ ungated := by decide
        simp only [refused_login_iff, hnot, not_false_eq_true, true_and, true_implies]
      · -- behind a gate
        have hnot : e ∉ ungated := by
          rw [mem_ungated_iff, hb]
          simp
        have hlogin : e ≠ .login := by
          rw [Ne, ← branch_eq_login_iff, hb]
          simp
        simp only [hauth, Bool.not_false, if_true, hnot, hlogin, not_false_eq_true, false_implies, and_self, iff_true]
        exact refused_of_mem (mem_refusals_of_gated hb) st.trackers
      · -- no gate
        have hmem : e ∈ ungated := mem_ungated_iff.mpr ⟨run, hb⟩
        simp only [hmem, not_true_eq_false, false_and, iff_false]
        exact not_refused_of_open hb req

end

/-- **Access without the token.**  With authentication enabled and a token in place, a received request
    whose text does not contain the token is refused if and only if it is no `OPTIONS`, the chain does not
    take it into one of the three branches without a gate, and, if the chain takes it for a login, it is
    not locked out and fails at the credentials.  Whatever stands behind the gates is not reached. -/
theorem refused_iff (env : WebEnv) (st : WebState) (chunks : List (List Char)) (buf : List Char)
    (hrecv : receive chunks = some buf) (henabled : st.config.auth.enabled = true)
    (hlen : st.config.auth.sessionToken.length < 64)
    (hreq : ¬ st.config.auth.sessionToken <:+: cstr buf) :
    ∃ o, webServerProcessClientImpl env st chunks = some o ∧
      (Refused env st o ↔ startsWith (cstr buf) "OPTIONS ".toList = false ∧
        ∀ e, routeOf (cstr buf) = some e →
          e ∉ ungated ∧ (e = .login → LoginFails env st (cstr buf))) := by
  refine ⟨processRequest env st (cstr buf), ?_, ?_⟩
  · rw [webServerProcessClientImpl, hrecv, Option.map_some]
  · exact refused_processRequest_iff env st henabled hlen hreq

/-! ### Telemetry for everybody -/

/-- A world in which nothing happens, except that there is a status to report. -/
def quietEnv : WebEnv where
  now := 0
  peerIp := 0
  handler := fun _ st _ => { reply := jsonReply "200 OK" [], state := st }
  buildJsonStatus := fun _ => "status".toList
  uiIndexHtmlGz := []
  updateUrl := none
  versionJson := none
  versionFile := none
  rollbackAvailable := false
  capture := fun _ _ => []

def guardedState : WebState where
  config := { auth := urlAuth }

def telemetryRequest : CStr := "GET /api/v1/telemetry HTTP/1.1\r\n\r\n".toList

theorem token_notMem_telemetryRequest :
    ¬ guardedState.config.auth.sessionToken <:+: telemetryRequest := by
  decide +kernel

theorem cstr_telemetryRequest : cstr telemetryRequest = telemetryRequest := by
  decide +kernel

/-- The request arrives in one piece. -/
theorem receive_telemetryRequest : receive [telemetryRequest] = some telemetryRequest := by
  decide +kernel

theorem refused_iff_telemetryRequest :
    ∃ o, webServerProcessClientImpl quietEnv guardedState [telemetryRequest] = some o ∧
      (Refused quietEnv guardedState o ↔
        startsWith (cstr telemetryRequest) "OPTIONS ".toList = false ∧
          ∀ e, routeOf (cstr telemetryRequest) = some e →
            e ∉ ungated ∧ (e = .login → LoginFails quietEnv guardedState (cstr telemetryRequest))) :=
  refused_iff quietEnv guardedState [telemetryRequest] telemetryRequest receive_telemetryRequest rfl
    (by decide) (by rw [cstr_telemetryRequest]; exact token_notMem_telemetryRequest)

/-- Without any token, the telemetry branch hands out the status. -/
theorem telemetryRequest_not_refused :
    guardedState.config.auth.enabled = true ∧ guardedState.config.auth.sessionToken ≠ [] ∧
      ¬ guardedState.config.auth.sessionToken <:+: telemetryRequest ∧
      startsWith telemetryRequest "GET /api/v1/telemetry ".toList = true ∧
      ∃ o, webServerProcessClientImpl quietEnv guardedState [telemetryRequest] = some o ∧
        ¬ Refused quietEnv guardedState o := by
  have hroute : routeOf telemetryRequest = some .telemetry := by
    unfold routeOf routes telemetryRequest
    -- spell the literals out, which the kernel would have to decode byte by byte
    repeat rw [String.toList_ofList]
    decide +kernel
  have hoptions : ¬ startsWith telemetryRequest "OPTIONS ".toList = true := by decide
  refine ⟨rfl, by decide, token_notMem_telemetryRequest, by decide,
    processRequest quietEnv guardedState telemetryRequest, ?_, ?_⟩
  · rw [webServerProcessClientImpl, receive_telemetryRequest, Option.map_some, cstr_telemetryRequest]
  · unfold processRequest
    rw [if_neg hoptions, hroute]
    exact not_refused_of_open (e := .telemetry) rfl telemetryRequest

end FluxWAN.Web
