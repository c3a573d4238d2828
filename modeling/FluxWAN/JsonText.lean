/-
  Reading JSON by text search (`src/config.c`, static helpers).

  The daemon has no JSON parser.  A value is found by searching the raw text for its quoted key and
  reading what follows; an object is the text between two braces, an array the text between matching
  brackets.  The helpers below are those searches, with their quirks:

  * a key matches ANYWHERE in the text given, in nested objects and inside string values too;
  * `find_matching_bracket` counts brackets inside strings, `find_matching_brace` does not;
  * most arrays of objects end an object at its FIRST closing brace.
-/
import FluxWAN.Lib.Numerals

namespace FluxWAN

open CString

/-! ## Values by key -/

/-- The white space and colons between a key and its value. -/
def isKeyGap (c : Char) : Bool := c = ' ' || c = ':' || c = '\t' || c = '\n' || c = '\r'

/-- The text of the value that follows the first occurrence of `"key"`. -/
def valueOf (json key : CStr) : Option CStr :=
  (strstr json ('"' :: key ++ ['"'])).map fun p => (p.drop (key.length + 2)).dropWhile isKeyGap

/-- One escaped character. -/
def unescapeChar (c : Char) : Char :=
  if c = 'n' then '\n' else if c = 'r' then '\r' else if c = 't' then '\t' else c

/-- `unescape_json_inplace`; a backslash at the very end is dropped. -/
def unescapeJson : CStr → CStr
  | [] => []
  | c :: s =>
    if c = '\\' then
      match s with
      | [] => []
      | c₁ :: s₁ => unescapeChar c₁ :: unescapeJson s₁
    else c :: unescapeJson s

/-- The characters up to the first unescaped quote. -/
def untilQuote : Bool → CStr → Option CStr
  | _, [] => none
  | true, c :: s => (untilQuote false s).map (c :: ·)
  | false, c :: s =>
    if c = '\\' then (untilQuote true s).map (c :: ·)
    else if c = '"' then some []
    else (untilQuote false s).map (c :: ·)

/-- `extract_json_string` into a buffer of `maxLen` bytes. -/
def extractJsonString (json key : CStr) (maxLen : Nat) : Option CStr :=
  match valueOf json key with
  | some ('"' :: p) => (untilQuote false p).map fun raw => unescapeJson (copyInto maxLen raw)
  | _ => none

/-- `extract_json_int`. -/
def extractJsonInt (json key : CStr) (defaultVal : Int) : Int :=
  (valueOf json key).elim defaultVal atoi

/-- `(uint32_t) extract_json_int (…)`. -/
def extractJsonU32 (json key : CStr) (defaultVal : Nat) : UInt32 :=
  UInt32.ofNat ((extractJsonInt json key defaultVal) % 2 ^ 32).toNat

/-- `(uint16_t) extract_json_int (…)`. -/
def extractJsonU16 (json key : CStr) (defaultVal : Nat) : UInt16 :=
  UInt16.ofNat ((extractJsonInt json key defaultVal) % 2 ^ 16).toNat

/-- `(uint8_t) extract_json_int (…)`. -/
def extractJsonU8 (json key : CStr) (defaultVal : Nat) : UInt8 :=
  UInt8.ofNat ((extractJsonInt json key defaultVal) % 2 ^ 8).toNat

/-- `extract_json_uint64`. -/
def extractJsonUint64 (json key : CStr) (defaultVal : UInt64) : UInt64 :=
  match valueOf json key with
  | some (c :: p) => if c.isDigit || c = '-' then strtoull (c :: p) else defaultVal
  | _ => defaultVal

/-- `extract_json_float`. -/
def extractJsonFloat (json key : CStr) (defaultVal : CFloat) : CFloat :=
  (valueOf json key).elim defaultVal fun p => (CFloat.atof p).toFloat

/-- `extract_json_bool`. -/
def extractJsonBool (json key : CStr) (defaultVal : Bool) : Bool :=
  match valueOf json key with
  | none => defaultVal
  | some p =>
    if startsWith p "true".toList then true
    else if startsWith p "false".toList then false
    else defaultVal

/-! ## Arrays of objects -/

/-- The scan of `find_matching_bracket`: the suffix at the bracket that closes depth `depth + 1`. -/
def closeBracket : Nat → CStr → Option CStr
  | _, [] => none
  | depth, c :: s =>
    if c = '[' then closeBracket (depth + 1) s
    else if c = ']' then
      match depth with
      | 0 => some (c :: s)
      | d + 1 => closeBracket d s
    else closeBracket depth s

/-- `find_matching_bracket`. -/
def findMatchingBracket : CStr → Option CStr
  | '[' :: s => closeBracket 0 s
  | _ => none

/-- `strchr (pos, '[')` with its matching bracket, when both exist. -/
def arrayFrom (pos : CStr) : Option (CStr × CStr) :=
  (strchr pos '[').bind fun arrayStart =>
    (findMatchingBracket arrayStart).map fun arrayEnd => (arrayStart, arrayEnd)

/-- The text from `p` up to and including the first character of `q`, a later pointer. -/
def sliceThrough (p q : CStr) : CStr := p.take (p.length - q.length + 1)

/-- The scan of `find_matching_brace`, which does look at strings and escapes: the suffix at the brace
    that closes depth `depth + 1`. -/
def closeBrace : Nat → (inStr escape : Bool) → CStr → Option CStr
  | _, _, _, [] => none
  | depth, inStr, true, _ :: s => closeBrace depth inStr false s
  | depth, inStr, false, c :: s =>
    if c = '\\' then closeBrace depth inStr true s
    else if c = '"' then closeBrace depth (!inStr) false s
    else if inStr then closeBrace depth inStr false s
    else if c = '\x7b' then closeBrace (depth + 1) inStr false s
    else if c = '\x7d' then
      match depth with
      | 0 => some (c :: s)
      | d + 1 => closeBrace d inStr false s
    else closeBrace depth inStr false s

/-- `find_matching_brace`. -/
def findMatchingBrace : CStr → Option CStr
  | '\x7b' :: s => closeBrace 0 false false s
  | _ => none

/-- The object loop shared by all arrays: up to `n` times, the text from the next opening brace to where
    `close` says that it ends, as long as both lie before the end of the array. -/
def slicesBy (close : CStr → Option CStr) : Nat → CStr → CStr → List CStr
  | 0, _, _ => []
  | n + 1, p, arrayEnd =>
    if Before p arrayEnd then
      match strchr p '\x7b' with
      | none => []
      | some objStart =>
        if Before arrayEnd objStart then []
        else
          match close objStart with
          | none => []
          | some objEnd =>
            if Before arrayEnd objEnd then []
            else sliceThrough objStart objEnd :: slicesBy close n (objEnd.drop 1) arrayEnd
    else []

/-- Objects that end at the FIRST closing brace. -/
def objectSlices (n : Nat) (p arrayEnd : CStr) : List CStr := slicesBy (strchr · '\x7d') n p arrayEnd

/-- Objects that end at their matching brace. -/
def braceSlices (n : Nat) (p arrayEnd : CStr) : List CStr := slicesBy findMatchingBrace n p arrayEnd

theorem length_slicesBy_le (close : CStr → Option CStr) (n : Nat) : ∀ p arrayEnd : CStr,
    (slicesBy close n p arrayEnd).length ≤ n := by
  induction n with
  | zero => intro p arrayEnd; exact Nat.le_refl 0
  | succ n ih =>
    intro p arrayEnd
    unfold slicesBy
    split
    · split
      · exact Nat.zero_le _
      · split
        · exact Nat.zero_le _
        · split
          · exact Nat.zero_le _
          · split
            · exact Nat.zero_le _
            · exact Nat.succ_le_succ (ih _ _)
    · exact Nat.zero_le _

theorem length_objectSlices_le (n : Nat) (p arrayEnd : CStr) : (objectSlices n p arrayEnd).length ≤ n :=
  length_slicesBy_le _ n p arrayEnd

/-- The object texts of the array after `pos`, at most `n`. -/
def objectsAfter (n : Nat) (pos : CStr) : List CStr :=
  match arrayFrom pos with
  | none => []
  | some (arrayStart, arrayEnd) => objectSlices n arrayStart arrayEnd

theorem length_objectsAfter_le (n : Nat) (pos : CStr) : (objectsAfter n pos).length ≤ n := by
  unfold objectsAfter
  split
  · exact Nat.zero_le n
  · exact length_objectSlices_le n _ _

/-- The same with matching braces. -/
def bracedAfter (n : Nat) (pos : CStr) : List CStr :=
  match arrayFrom pos with
  | none => []
  | some (arrayStart, arrayEnd) => braceSlices n arrayStart arrayEnd

theorem length_bracedAfter_le (n : Nat) (pos : CStr) : (bracedAfter n pos).length ≤ n := by
  unfold bracedAfter
  split
  · exact Nat.zero_le n
  · exact length_slicesBy_le _ n _ _

/-- The text of the object after `pos`, from its brace to the matching one. -/
def objectAfter (pos : CStr) : Option CStr :=
  (strchr pos '\x7b').bind fun objStart =>
    (findMatchingBrace objStart).map fun objEnd => sliceThrough objStart objEnd

/-! ## Arrays of strings -/

/-- The quoted texts between `gp` and `gwEnd`, at most `n`, each cut to a `char [size]`. -/
def quotedNames (size : Nat) : Nat → CStr → CStr → List CStr
  | 0, _, _ => []
  | n + 1, gp, gwEnd =>
    if Before gp gwEnd then
      match strchr gp '"' with
      | none => []
      | some q1 =>
        if Before q1 gwEnd then
          match strchr (q1.drop 1) '"' with
          | none => []
          | some q2 =>
            if Before gwEnd q2 then []
            else
              copyInto size ((q1.drop 1).take ((q1.drop 1).length - q2.length)) ::
                quotedNames size n (q2.drop 1) gwEnd
        else []
    else []

theorem length_quotedNames_le (size n : Nat) : ∀ gp gwEnd : CStr, (quotedNames size n gp gwEnd).length ≤ n := by
  induction n with
  | zero => intro gp gwEnd; exact Nat.le_refl 0
  | succ n ih =>
    intro gp gwEnd
    unfold quotedNames
    split
    · split
      · exact Nat.zero_le _
      · split
        · split
          · exact Nat.zero_le _
          · split
            · exact Nat.zero_le _
            · exact Nat.succ_le_succ (ih _ _)
        · exact Nat.zero_le _
    · exact Nat.zero_le _

end FluxWAN
