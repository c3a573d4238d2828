/-
  Which code answers a request, and what decides it (`src/web_server.c`:
  `web_server_process_client_impl`).

  The request line should decide.  It does as far as `OPTIONS` goes, which is tested at the start of the
  text.  The chain, however, searches the WHOLE text: the request line names some branch, and every branch
  ahead of it in the chain may be named by a header or the body and then gets the request instead.

  `answeredBy_eq_iff` compares two requests with the same line: they are answered by the same code exactly
  when, going down the chain ahead of what the line names, the first branch that one of the texts names is
  named by the other as well.
-/
import FluxWAN.Web.Server

namespace FluxWAN.Web

open CString HttpText

/-! ## Which code answers -/

inductive Answered where
  | preflight
  | page
  /-- The gate of this branch said no. -/
  | refusal (e : Endpoint)
  /-- The handler of this branch. -/
  | handler (e : Endpoint)
  deriving DecidableEq, Repr

/-- What becomes of a request in the branch the chain takes it to. -/
def enter (authorized : Bool) : Option Endpoint → Answered
  | none => .page
  | some e =>
    match branch e with
    | .gated _ => if authorized then .handler e else .refusal e
    | _ => .handler e

def answeredBy (auth : AuthConfig) (req : CStr) : Answered :=
  if startsWith req "OPTIONS ".toList then .preflight
  else enter (isRequestAuthorized auth req) (routeOf req)

/-- The reply and the effects of that code. -/
def respond (env : WebEnv) (st : WebState) (req : CStr) : Answered → Outcome
  | .preflight => { reply := preflight, state := st }
  | .page => { reply := dashboard env, state := st }
  | .refusal e =>
    match branch e with
    | .gated refusal => { reply := refusal, state := st }
    | _ => { reply := unauthorized, state := st }
  | .handler e =>
    match branch e with
    | .login => login env st req
    | .gated _ => env.handler e st req
    | .open run => run env st req

/-- A request is processed by the code that answers it. -/
theorem processRequest_eq_respond (env : WebEnv) (st : WebState) :
    processRequest env st req = respond env st req (answeredBy st.config.auth req) := by
  unfold processRequest answeredBy
  split
  · rfl
  · rcases routeOf req with _ | e
    · rfl
    · simp only [enter]
      rcases hb : branch e with _ | refusal | run
      · simp only [respond, hb]
      · cases isRequestAuthorized st.config.auth req with
        | true => simp only [respond, hb, Bool.not_true, Bool.false_eq_true, if_false, if_true]
        | false => simp only [respond, hb, Bool.not_false, Bool.false_eq_true, if_false, if_true]
      · simp only [respond, hb]

/-- The branch can be read off the answer. -/
theorem enter_injective (authorized : Bool) : Function.Injective (enter authorized) := by
  -- both kinds of answer carry their branch
  have hsome : ∀ e, enter authorized (some e) = .handler e ∨ enter authorized (some e) = .refusal e := by
    intro e
    rcases hb : branch e with _ | refusal | run <;> cases authorized <;> simp [enter, hb]
  intro a b h
  rcases a with _ | e <;> rcases b with _ | e'
  · rfl
  · rcases hsome e' with h' | h' <;> rw [h'] at h <;> cases h
  · rcases hsome e with h' | h' <;> rw [h'] at h <;> cases h
  · rcases hsome e with h₁ | h₁ <;> rcases hsome e' with h₂ | h₂ <;> rw [h₁, h₂] at h <;> cases h <;> rfl

/-! ## The request line -/

def requestLine (req : CStr) : CStr := (splitCrlf req).headD []

/-- The text is the line, up to the first CRLF if there is one. -/
theorem eq_requestLine : req = requestLine req ∨ ∃ rest, req = requestLine req ++ '\r' :: rest := by
  unfold requestLine
  fun_induction splitCrlf req with
  | case1 => exact .inl rfl
  | case2 s ih => exact .inr ⟨'\n' :: s, rfl⟩
  | case3 c s _ hnil ih =>
    rw [hnil] at ih
    rcases ih with h | ⟨rest, h⟩
    · exact .inl (congrArg (c :: ·) h)
    · exact .inr ⟨rest, congrArg (c :: ·) h⟩
  | case4 c s _ line lines hsplit ih =>
    rw [hsplit] at ih
    rcases ih with h | ⟨rest, h⟩
    · exact .inl (congrArg (c :: ·) h)
    · exact .inr ⟨rest, congrArg (c :: ·) h⟩

theorem requestLine_isPrefix : requestLine req <+: req := by
  rcases eq_requestLine with h | ⟨rest, h⟩
  · rw [← h]
  · exact ⟨'\r' :: rest, h.symm⟩

/-- A text without CR begins the request exactly when it begins the line. -/
theorem startsWith_requestLine_iff (hlit : '\r' ∉ lit) (req : CStr) :
    startsWith req lit = startsWith (requestLine req) lit := by
  rw [Bool.eq_iff_iff, startsWith, startsWith, List.isPrefixOf_iff_prefix, List.isPrefixOf_iff_prefix]
  constructor
  · intro h
    rcases eq_requestLine with heq | ⟨rest, heq⟩
    · rwa [← heq]
    · rcases Nat.lt_or_ge (requestLine req).length lit.length with hlt | hle
      · -- a longer one would contain the CR that ends the line
        have hcr : requestLine req ++ ['\r'] <+: req :=
          ⟨rest, by rw [List.append_assoc]; exact heq.symm⟩
        have hsub : requestLine req ++ ['\r'] <+: lit :=
          List.prefix_of_prefix_length_le hcr h (by rw [List.length_append]; exact hlt)
        exact absurd (hsub.subset (by simp)) hlit
      · exact List.prefix_of_prefix_length_le h requestLine_isPrefix hle
  · exact fun h => h.trans requestLine_isPrefix

/-! ## The chain -/

/-- The text names the branch: one of its patterns occurs. -/
def names (req : CStr) (route : Endpoint × List CStr) : Bool := route.2.any (mentions req)

/-- What the line names, the text names. -/
theorem names_of_requestLine (h : names (requestLine req) route = true) : names req route = true := by
  obtain ⟨pattern, hmem, hp⟩ := List.any_eq_true.mp h
  refine List.any_eq_true.mpr ⟨pattern, hmem, ?_⟩
  rw [mentions, strstr_isSome_iff] at hp ⊢
  exact hp.trans requestLine_isPrefix.isInfix

/-- Down the chain, ahead of what the line names, the first branch named by one text is named by both. -/
def SameDiversion (chain : List (Endpoint × List CStr)) (line r₁ r₂ : CStr) : Prop :=
  ∀ ahead route behind, chain = ahead ++ route :: behind →
    (∀ route' ∈ ahead, names r₁ route' = false ∧ names r₂ route' = false) →
    names line route = false → (names r₁ route = true ↔ names r₂ route = true)

theorem sameDiversion_cons_iff {line : CStr} :
    SameDiversion (route :: chain) line r₁ r₂ ↔
      (names line route = false → (names r₁ route = true ↔ names r₂ route = true)) ∧
        (names r₁ route = false → names r₂ route = false → SameDiversion chain line r₁ r₂) := by
  constructor
  · intro h
    refine ⟨h [] route chain rfl (fun _ hm => nomatch hm), fun h₁ h₂ => ?_⟩
    intro ahead route' behind hchain hahead
    refine h (route :: ahead) route' behind (by rw [hchain]; rfl) ?_
    intro r hr
    rcases List.mem_cons.mp hr with rfl | hr
    · exact ⟨h₁, h₂⟩
    · exact hahead r hr
  · rintro ⟨hhead, htail⟩ ahead route' behind hchain hahead
    rcases ahead with _ | ⟨r, ahead⟩
    · obtain ⟨rfl, -⟩ := List.cons.inj hchain
      exact hhead
    · obtain ⟨rfl, hrest⟩ := List.cons.inj hchain
      obtain ⟨h₁, h₂⟩ := hahead route List.mem_cons_self
      exact htail h₁ h₂ ahead route' behind hrest fun r hr => hahead r (List.mem_cons_of_mem _ hr)

/-- The walk down a chain of different branches, for two texts that name what the line names. -/
theorem find?_names_eq_iff {line : CStr} :
    ∀ {chain : List (Endpoint × List CStr)}, (chain.map Prod.fst).Nodup →
      (∀ route, names line route = true → names r₁ route = true ∧ names r₂ route = true) →
      ((chain.find? (names r₁)).map Prod.fst = (chain.find? (names r₂)).map Prod.fst ↔
        SameDiversion chain line r₁ r₂) := by
  intro chain
  induction chain with
  | nil =>
    intro _ _
    refine ⟨fun _ ahead route behind hchain => ?_, fun _ => rfl⟩
    exact absurd hchain (by simp)
  | cons route chain ih =>
    intro hnodup hline
    obtain ⟨hnew, hnodup⟩ := List.nodup_cons.mp hnodup
    -- a branch found further down is another one
    have hne : ∀ p : Endpoint × List CStr → Bool, some route.1 ≠ (chain.find? p).map Prod.fst := by
      intro p heq
      obtain ⟨r, hr, hfst⟩ := Option.map_eq_some_iff.mp heq.symm
      exact hnew (hfst ▸ List.mem_map_of_mem (List.mem_of_find?_eq_some hr))
    rw [sameDiversion_cons_iff, List.find?_cons, List.find?_cons]
    cases h₁ : names r₁ route <;> cases h₂ : names r₂ route
    · simpa using ih hnodup hline
    · have hl : names line route = false := by
        cases hl : names line route with
        | false => rfl
        | true => rw [(hline route hl).1] at h₁; cases h₁
      have := hne (names r₁)
      simp [hl, this.symm]
    · have hl : names line route = false := by
        cases hl : names line route with
        | false => rfl
        | true => rw [(hline route hl).2] at h₂; cases h₂
      have := hne (names r₂)
      simp [hl, this]
    · simp

theorem routes_nodup : (routes.map Prod.fst).Nodup := by decide +kernel

theorem webServerProcessClientImpl_eq_respond {st : WebState} (hrecv : receive chunks = some buf) :
    webServerProcessClientImpl env st chunks =
      some (respond env st (cstr buf) (answeredBy st.config.auth (cstr buf))) := by
  rw [webServerProcessClientImpl, hrecv, Option.map_some, processRequest_eq_respond]

/-- Two received requests with the same request line and the same validity of the token are answered by
    the same code exactly when it is an `OPTIONS` line or nothing diverts them differently. -/
theorem answeredBy_eq_iff (env : WebEnv) (st : WebState) {chunks₁ chunks₂ : List (List Char)}
    {buf₁ buf₂ : List Char} (hrecv₁ : receive chunks₁ = some buf₁) (hrecv₂ : receive chunks₂ = some buf₂)
    (hline : requestLine (cstr buf₁) = requestLine (cstr buf₂))
    (hauth : isRequestAuthorized st.config.auth (cstr buf₁) = isRequestAuthorized st.config.auth (cstr buf₂)) :
    webServerProcessClientImpl env st chunks₁ =
        some (respond env st (cstr buf₁) (answeredBy st.config.auth (cstr buf₁))) ∧
      webServerProcessClientImpl env st chunks₂ =
        some (respond env st (cstr buf₂) (answeredBy st.config.auth (cstr buf₂))) ∧
      (answeredBy st.config.auth (cstr buf₁) = answeredBy st.config.auth (cstr buf₂) ↔
        startsWith (requestLine (cstr buf₁)) "OPTIONS ".toList = true ∨
          SameDiversion routes (requestLine (cstr buf₁)) (cstr buf₁) (cstr buf₂)) := by
  refine ⟨webServerProcessClientImpl_eq_respond hrecv₁, webServerProcessClientImpl_eq_respond hrecv₂, ?_⟩
  have hcr : '\r' ∉ "OPTIONS ".toList := by decide
  unfold answeredBy
  rw [startsWith_requestLine_iff hcr (cstr buf₁), startsWith_requestLine_iff hcr (cstr buf₂), ← hline, ← hauth]
  by_cases hopt : startsWith (requestLine (cstr buf₁)) "OPTIONS ".toList = true
  · rw [if_pos hopt, if_pos hopt]
    exact ⟨fun _ => .inl hopt, fun _ => rfl⟩
  · rw [if_neg hopt, if_neg hopt, (enter_injective _).eq_iff, or_iff_right hopt]
    exact find?_names_eq_iff routes_nodup fun route h =>
      ⟨names_of_requestLine h, names_of_requestLine (hline ▸ h)⟩

/-! ### A body that looks like a login -/

/-- Creating a group, with a valid token and the given body. -/
def groupRequest (body : String) : CStr :=
  "POST /api/v1/groups HTTP/1.1\r\nAuthorization: Bearer s3cr3t\r\n\r\n".toList ++ body.toList

theorem answeredBy_eq_iff_groupRequest :
    answeredBy guardedState.config.auth (groupRequest "a") =
      answeredBy guardedState.config.auth (groupRequest "b") := by
  have hrecv₁ : receive [groupRequest "a"] = some (groupRequest "a") := by decide +kernel
  have hrecv₂ : receive [groupRequest "b"] = some (groupRequest "b") := by decide +kernel
  have hcstr₁ : cstr (groupRequest "a") = groupRequest "a" := by decide +kernel
  have hcstr₂ : cstr (groupRequest "b") = groupRequest "b" := by decide +kernel
  have h := answeredBy_eq_iff quietEnv guardedState hrecv₁ hrecv₂ (by decide +kernel) (by decide +kernel)
  rw [hcstr₁, hcstr₂] at h
  have hsame : ∀ route ∈ routes, names (groupRequest "a") route = names (groupRequest "b") route := by
    unfold routes groupRequest
    repeat rw [String.toList_ofList]
    decide +kernel
  refine h.2.2.mpr (.inr fun ahead route behind hchain _ _ => ?_)
  rw [hsame route (hchain ▸ List.mem_append_right _ List.mem_cons_self)]

/-- The same request line, the same valid token, but the body names the login. -/
theorem answeredBy_groupRequest_ne :
    requestLine (groupRequest "") = requestLine (groupRequest "POST /api/v1/login") ∧
      isRequestAuthorized guardedState.config.auth (groupRequest "") = true ∧
      isRequestAuthorized guardedState.config.auth (groupRequest "POST /api/v1/login") = true ∧
      answeredBy guardedState.config.auth (groupRequest "") ≠
        answeredBy guardedState.config.auth (groupRequest "POST /api/v1/login") := by
  have hroute₁ : routeOf (groupRequest "") = some .groups := by
    unfold routeOf routes groupRequest
    repeat rw [String.toList_ofList]
    decide +kernel
  have hroute₂ : routeOf (groupRequest "POST /api/v1/login") = some .login := by
    unfold routeOf routes groupRequest
    repeat rw [String.toList_ofList]
    decide +kernel
  have hauth₁ : isRequestAuthorized guardedState.config.auth (groupRequest "") = true := by
    decide +kernel
  have hauth₂ : isRequestAuthorized guardedState.config.auth (groupRequest "POST /api/v1/login") = true := by
    decide +kernel
  have hgroups : answeredBy guardedState.config.auth (groupRequest "") = .handler .groups := by
    rw [answeredBy, if_neg (by decide +kernel), hroute₁, hauth₁]
    rfl
  have hlogin : answeredBy guardedState.config.auth (groupRequest "POST /api/v1/login") = .handler .login := by
    rw [answeredBy, if_neg (by decide +kernel), hroute₂, hauth₂]
    rfl
  refine ⟨by decide +kernel, hauth₁, hauth₂, ?_⟩
  rw [hgroups, hlogin]
  decide

end FluxWAN.Web
