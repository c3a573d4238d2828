/-
  The header fields of an HTTP/1.1 request, by definition and not by search.

  The text of a request is cut at CRLF; the first line is the request line, the header lines follow up to
  the first empty line, and everything after that is the body.  A header line is a name, a colon, and a
  value without the blanks around it; names are compared without case.

  What a text search can be held against is `IsField` on the header lines; the two infix lemmas say that
  a header line, and the value in it, are text of the request (`mem_headerLines_isInfix`,
  `fieldValue_isInfix`).
-/
import Mathlib.Data.List.DropRight
import FluxWAN.Lib.CString

namespace FluxWAN.HttpText

open CString

/-- The lines of a text, without their CRLFs; there is always at least one. -/
def splitCrlf : CStr → List CStr
  | [] => [[]]
  | '\r' :: '\n' :: s => [] :: splitCrlf s
  | c :: s =>
    match splitCrlf s with
    | [] => [[c]]
    | line :: lines => (c :: line) :: lines

/-- The lines between the request line and the first empty line. -/
def headerLines (req : CStr) : List CStr := ((splitCrlf req).drop 1).takeWhile (· ≠ [])

/-- Optional white space. -/
def isOws (c : Char) : Bool := c = ' ' || c = '\t'

def fieldName (line : CStr) : CStr := line.takeWhile (· ≠ ':')

def fieldValue (line : CStr) : CStr :=
  (((line.dropWhile (· ≠ ':')).drop 1).dropWhile isOws).rdropWhile isOws

/-- Field names do not distinguish case. -/
def SameName (a b : CStr) : Prop := a.map Char.toLower = b.map Char.toLower

instance (a b : CStr) : Decidable (SameName a b) := inferInstanceAs (Decidable (_ = _))

/-- The header line carries this field. -/
def IsField (name value line : CStr) : Prop :=
  ':' ∈ line ∧ SameName (fieldName line) name ∧ fieldValue line = value

instance (name value line : CStr) : Decidable (IsField name value line) :=
  inferInstanceAs (Decidable (_ ∧ _ ∧ _))

/-- The first line begins the text, and every other line stands in it. -/
theorem splitCrlf_isInfix (s : CStr) :
    ∃ line lines, splitCrlf s = line :: lines ∧ line <+: s ∧ ∀ l ∈ lines, l <:+: s := by
  fun_induction splitCrlf s with
  | case1 => exact ⟨[], [], rfl, List.prefix_rfl, fun _ h => nomatch h⟩
  | case2 s ih =>
    obtain ⟨line, lines, hsplit, hline, hlines⟩ := ih
    have hsuffix : s <:+ '\r' :: '\n' :: s := ⟨['\r', '\n'], rfl⟩
    refine ⟨[], splitCrlf s, rfl, List.nil_prefix, ?_⟩
    rw [hsplit]
    intro l hl
    rcases List.mem_cons.mp hl with rfl | hl
    · exact hline.isInfix.trans hsuffix.isInfix
    · exact (hlines l hl).trans hsuffix.isInfix
  | case3 c s _ hnil ih =>
    obtain ⟨line, lines, hsplit, -⟩ := ih
    rw [hsplit] at hnil
    cases hnil
  | case4 c s _ line lines hsplit ih =>
    obtain ⟨line', lines', hsplit', hline, hlines⟩ := ih
    obtain ⟨rfl, rfl⟩ := List.cons.inj (hsplit.symm.trans hsplit')
    refine ⟨c :: line, lines, rfl, List.cons_prefix_cons.mpr ⟨rfl, hline⟩, ?_⟩
    intro l hl
    exact (hlines l hl).trans (List.suffix_cons c s).isInfix

/-- A header line is text of the request. -/
theorem mem_headerLines_isInfix (h : line ∈ headerLines req) : line <:+: req := by
  obtain ⟨first, lines, hsplit, -, hlines⟩ := splitCrlf_isInfix req
  have hmem : line ∈ (splitCrlf req).drop 1 := List.takeWhile_subset _ h
  rw [hsplit] at hmem
  exact hlines line hmem

/-- The value is text of its line. -/
theorem fieldValue_isInfix (line : CStr) : fieldValue line <:+: line := by
  have hafter : (line.dropWhile (· ≠ ':')).drop 1 <:+ line :=
    (List.drop_suffix _ _).trans (List.dropWhile_suffix _)
  have hvalue : ((line.dropWhile (· ≠ ':')).drop 1).dropWhile isOws <:+ line :=
    (List.dropWhile_suffix _).trans hafter
  exact (List.rdropWhile_prefix _ _).isInfix.trans hvalue.isInfix

end FluxWAN.HttpText
