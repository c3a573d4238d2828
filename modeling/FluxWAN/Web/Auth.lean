/-
  Authorisation of a request (`src/web_server.c`: `is_request_authorized`).

  The code searches the WHOLE text of the request for `X-Auth-Token: <token>` and for `Bearer <token>`.
  What it means to ask is whether a header FIELD carries the token (`AuthorisedByHeader`).  The search and
  the field part ways in two directions: the characters may stand anywhere else — in the URL, in the body,
  in another field, in front of a longer token, and for an EMPTY token everywhere the bare name stands — and
  the field may be spelt in a way the search does not know.  `isRequestAuthorized_correct_iff` says when
  they agree.
-/
import FluxWAN.Config
import FluxWAN.Lib.HttpText

namespace FluxWAN.Web

open CString HttpText

/-! ## The code -/

def tokenHeader : CStr := "X-Auth-Token: ".toList
def bearerHeader : CStr := "Bearer ".toList

/-- `is_request_authorized`; both patterns are printed into `char [128]`. -/
def isRequestAuthorized (auth : AuthConfig) (req : CStr) : Bool :=
  if !auth.enabled then true
  else if (strstr req (copyInto 128 (tokenHeader ++ auth.sessionToken))).isSome then true
  else if (strstr req (copyInto 128 (bearerHeader ++ auth.sessionToken))).isSome then true
  else false

/-- One of the two patterns stands somewhere in the text. -/
def Occurs (token text : CStr) : Prop :=
  tokenHeader ++ token <:+: text ∨ bearerHeader ++ token <:+: text

instance (token text : CStr) : Decidable (Occurs token text) := inferInstanceAs (Decidable (_ ∨ _))

/-- A session token fits its `char [64]`, so that neither pattern is cut off. -/
theorem isRequestAuthorized_iff_occurs {auth : AuthConfig} (henabled : auth.enabled = true)
    (htoken : auth.sessionToken.length < 64) :
    isRequestAuthorized auth req = true ↔ Occurs auth.sessionToken req := by
  have hfit : ∀ pattern : CStr, pattern.length ≤ 14 →
      copyInto 128 (pattern ++ auth.sessionToken) = pattern ++ auth.sessionToken := by
    intro pattern hlen
    apply List.take_of_length_le
    rw [List.length_append]
    omega
  unfold isRequestAuthorized Occurs
  rw [hfit tokenHeader (by decide), hfit bearerHeader (by decide), ← strstr_isSome_iff, ← strstr_isSome_iff]
  simp [henabled]

theorem Occurs.mono (h : text <:+: text') (ho : Occurs token text) : Occurs token text' := by
  rcases ho with ho | ho
  · exact .inl (ho.trans h)
  · exact .inr (ho.trans h)

/-- A text without the token has neither pattern. -/
theorem Occurs.token_isInfix (h : Occurs token text) : token <:+: text := by
  rcases h with h | h
  · exact (List.suffix_append _ _).isInfix.trans h
  · exact (List.suffix_append _ _).isInfix.trans h

/-! ## What it is meant to ask -/

/-- The header line authorises: `X-Auth-Token` with the token as its value, or `Authorization` with
    `Bearer` and the token.  An empty token authorises nobody. -/
def Authorises (token line : CStr) : Prop :=
  token ≠ [] ∧ (IsField "X-Auth-Token".toList token line ∨
    IsField "Authorization".toList (bearerHeader ++ token) line)

instance (token line : CStr) : Decidable (Authorises token line) :=
  inferInstanceAs (Decidable (_ ∧ (_ ∨ _)))

def AuthorisedByHeader (token req : CStr) : Prop := ∃ line ∈ headerLines req, Authorises token line

/-- An authorising line as the search spells it. -/
def Canonical (token line : CStr) : Prop := Authorises token line ∧ Occurs token line

/-- An authorising line in another spelling: `X-Auth-Token` in other letter case, or not followed by
    exactly one blank. -/
def OtherSpelling (token line : CStr) : Prop :=
  token ≠ [] ∧ IsField "X-Auth-Token".toList token line ∧ ¬ Occurs token line

/-- An `Authorization` line is always spelt as the search wants it. -/
theorem authorises_iff {line : CStr} : Authorises token line ↔ Canonical token line ∨ OtherSpelling token line := by
  constructor
  · intro h
    by_cases ho : Occurs token line
    · exact .inl ⟨h, ho⟩
    · obtain ⟨htoken, hx | hbearer⟩ := h
      · exact .inr ⟨htoken, hx, ho⟩
      · have hvalue : bearerHeader ++ token <:+: line := hbearer.2.2 ▸ fieldValue_isInfix line
        exact absurd (.inr hvalue) ho
  · rintro (h | ⟨htoken, hx, -⟩)
    · exact h.1
    · exact ⟨htoken, .inl hx⟩

def urlAuth : AuthConfig where
  enabled := true
  sessionToken := "s3cr3t".toList

/-- No header at all; the token in the query string. -/
def urlRequest : CStr := "GET /api/v1/status?q=Bearer s3cr3t HTTP/1.1\r\n\r\n".toList

end FluxWAN.Web
