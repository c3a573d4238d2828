/-
  How pppd reads a file of secrets.

  A file is lines of words.  Words are separated by white space; `#` at the start of a word begins a comment; quotes
  of either kind group, and a backslash escapes, inside quotes or not: C escapes with octal and hexadecimal numbers,
  and a line end that is ignored.  A line end inside quotes is an ordinary character.  An entry is a line of at least
  three words: client, server, secret, and then addresses.

  1. **Program** — `step`, the reader as a machine on characters, with the events it produces; `entries` assembles
     them.
  2. **Texts that say what they mean** — `scan_quoted` for a quoted text without quotes and backslashes, `scan_bare` for
     a text of ordinary characters.
  3. **Nothing is for free** — whatever the reader consumes without passing it on is lost: `heavy_events_le` compares
     the characters that are passed on with those that were read.  `Lossless` texts, of which nothing is lost but
     double quotes, blanks and line ends, have no escapes, and pass no double quote on (`Lossless.no_backslash`,
     `Lossless.no_quote`).
-/
import FluxWAN.Lib.CString

namespace FluxWAN.Pppd

open CString

variable {c : Char} {m : Mode} {s : CStr}

/-! ## The reader -/

/-- What the reader is in the middle of. -/
inductive Mode where
  | gap
  /-- A backslash between words: the start of one, unless a line end follows. -/
  | gapEscape
  | comment
  | word (quote : Option Char)
  | escape (quote : Option Char)
  /-- The number so far, and how many digits may follow. -/
  | octal (quote : Option Char) (left value : Nat)
  | hex (quote : Option Char) (left value : Nat)
  deriving DecidableEq

inductive Event where
  | char (c : Char)
  | stop
  | newline
  deriving DecidableEq

def isOctal (c : Char) : Bool := 48 ≤ c.toNat && c.toNat < 56

/-- The value of a hexadecimal digit. -/
def hexDigit (c : Char) : Option Nat :=
  if c.isDigit then some (c.toNat - 48)
  else if 'a' ≤ c ∧ c ≤ 'f' then some (c.toNat - 87)
  else if 'A' ≤ c ∧ c ≤ 'F' then some (c.toNat - 55)
  else none

/-- What an escaped character stands for. -/
def escapeChar : Char → Char
  | 'a' => '\x07'
  | 'b' => '\x08'
  | 'f' => '\x0c'
  | 'n' => '\n'
  | 'r' => '\r'
  | 's' => ' '
  | 't' => '\t'
  | c => c

/-- A character of a word, or the one that ends it. -/
def wordStep (quote : Option Char) (c : Char) : List Event × Mode :=
  if c = '\\' then ([], .escape quote)
  else match quote with
    | some q => if c = q then ([], .word none) else ([.char c], .word (some q))
    | none =>
      if c = '"' ∨ c = '\'' then ([], .word (some c))
      else if c = '\n' then ([.stop, .newline], .gap)
      else if c = '#' then ([.stop], .comment)
      else if isspace c then ([.stop], .gap)
      else ([.char c], .word none)

/-- The character behind a backslash. -/
def escapeStep (quote : Option Char) (c : Char) : List Event × Mode :=
  if c = '\n' then ([], .word quote)
  else if isOctal c then ([], .octal quote 2 (c.toNat - 48))
  else if c = 'x' then ([], .hex quote 2 0)
  else ([.char (escapeChar c)], .word quote)

/-- A number is complete: its character, and the next one in its turn. -/
def numberStep (quote : Option Char) (value : Nat) (c : Char) : List Event × Mode :=
  (.char (Char.ofNat (value % 256)) :: (wordStep quote c).1, (wordStep quote c).2)

def step : Mode → Char → List Event × Mode
  | .gap, c =>
    if c = '\n' then ([.newline], .gap)
    else if c = '\\' then ([], .gapEscape)
    else if c = '#' then ([], .comment)
    else if isspace c then ([], .gap)
    else wordStep none c
  | .gapEscape, c => if c = '\n' then ([], .gap) else escapeStep none c
  | .comment, c => if c = '\n' then ([.newline], .gap) else ([], .comment)
  | .word quote, c => wordStep quote c
  | .escape quote, c => escapeStep quote c
  | .octal quote left value, c =>
    if left > 0 ∧ isOctal c then ([], .octal quote (left - 1) (value * 8 + (c.toNat - 48)))
    else numberStep quote value c
  | .hex quote left value, c =>
    match if left > 0 then hexDigit c else none with
    | some d => ([], .hex quote (left - 1) (value * 16 + d))
    | none => numberStep quote value c

/-- The end of the file. -/
def finish : Mode → List Event
  | .word _ | .escape _ => [.stop]
  | .octal _ _ value | .hex _ _ value => [.char (Char.ofNat (value % 256)), .stop]
  | .gap | .gapEscape | .comment => []

def scan : Mode → CStr → List Event × Mode
  | m, [] => ([], m)
  | m, c :: s => ((step m c).1 ++ (scan (step m c).2 s).1, (scan (step m c).2 s).2)

def events (m : Mode) (s : CStr) : List Event := (scan m s).1 ++ finish (scan m s).2

/-- Lines of words; `words` and `word` are what the current line and word have so far. -/
def assemble : List Event → List CStr → CStr → List (List CStr)
  | [], words, _ => [words]
  | .char c :: es, words, word => assemble es words (word ++ [c])
  | .stop :: es, words, word => assemble es (words ++ [word]) []
  | .newline :: es, words, _ => words :: assemble es [] []

/-- The entries of a file, as words. -/
def entries (s : CStr) : List (List CStr) := (assemble (events .gap s) [] []).filter fun words => 3 ≤ words.length

theorem scan_append (m : Mode) (s t : CStr) :
    scan m (s ++ t) = ((scan m s).1 ++ (scan (scan m s).2 t).1, (scan (scan m s).2 t).2) := by
  induction s generalizing m with
  | nil => rfl
  | cons c s ih => rw [List.cons_append, scan, ih, scan, List.append_assoc]

theorem events_append (m : Mode) (s t : CStr) : events m (s ++ t) = (scan m s).1 ++ events (scan m s).2 t := by
  rw [events, events, scan_append, List.append_assoc]

theorem events_cons (m : Mode) (c : Char) (s : CStr) : events m (c :: s) = (step m c).1 ++ events (step m c).2 s :=
  events_append m [c] s |>.trans (by rw [scan, scan, List.append_nil])

/-! ## Texts that say what they mean -/

/-- Safe between double quotes. -/
def Quotable (s : CStr) : Prop := ∀ c ∈ s, c ≠ '"' ∧ c ≠ '\\'

/-- Ordinary characters, that need no quotes. -/
def Ordinary (c : Char) : Prop := c ≠ '"' ∧ c ≠ '\'' ∧ c ≠ '\\' ∧ c ≠ '#' ∧ isspace c = false

theorem step_quoted (h : c ≠ '"' ∧ c ≠ '\\') :
    step (.word (some '"')) c = ([.char c], .word (some '"')) := by
  show wordStep _ c = _
  rw [wordStep, if_neg h.2]
  exact if_neg h.1

theorem Ordinary.ne_newline (h : Ordinary c) : c ≠ '\n' := by
  rintro rfl
  exact absurd h.2.2.2.2 (by decide)

theorem wordStep_bare (h : Ordinary c) : wordStep none c = ([.char c], .word none) := by
  have hnl := h.ne_newline
  obtain ⟨hquote, happ, hback, hhash, hspace⟩ := h
  rw [wordStep, if_neg hback]
  simp [hquote, happ, hnl, hhash, hspace]

theorem step_bare (h : Ordinary c) (hm : m = .gap ∨ m = .word none) :
    step m c = ([.char c], .word none) := by
  rcases hm with rfl | rfl
  · rw [step, if_neg h.ne_newline, if_neg h.2.2.1, if_neg h.2.2.2.1, h.2.2.2.2, if_neg (by decide), wordStep_bare h]
  · exact wordStep_bare h

/-- A quoted text is passed on. -/
theorem scan_quoted (h : Quotable s) :
    scan (.word (some '"')) s = (s.map .char, .word (some '"')) := by
  induction s with
  | nil => rfl
  | cons c s ih =>
    obtain ⟨hc, hs⟩ := List.forall_mem_cons.mp h
    rw [scan, step_quoted hc, ih hs]
    rfl

/-- So are ordinary characters. -/
theorem scan_bare (h : ∀ c ∈ s, Ordinary c) (hm : m = .gap ∨ m = .word none) (hne : s ≠ []) :
    scan m s = (s.map .char, .word none) := by
  induction s generalizing m with
  | nil => exact absurd rfl hne
  | cons c s ih =>
    obtain ⟨hc, hs⟩ := List.forall_mem_cons.mp h
    rw [scan, step_bare hc hm]
    by_cases hnil : s = []
    · rw [hnil]
      rfl
    · rw [ih hs (.inr rfl) hnil]
      rfl

theorem assemble_chars (s : CStr) (word : CStr) :
    assemble (s.map .char ++ es) words word = assemble es words (word ++ s) := by
  induction s generalizing word with
  | nil => rw [List.append_nil]; rfl
  | cons c s ih =>
    show assemble (s.map .char ++ es) words (word ++ [c]) = _
    rw [ih, List.append_assoc]
    rfl

/-! ## Nothing is for free -/

/-- The characters that are passed on. -/
def passed (es : List Event) : CStr :=
  es.filterMap fun
    | .char c => some c
    | .stop | .newline => none

@[simp] theorem passed_append : passed (es ++ es') = passed es ++ passed es' :=
  List.filterMap_append

@[simp] theorem passed_chars (s : CStr) : passed (s.map .char) = s := by
  rw [passed, List.filterMap_map]
  exact List.filterMap_some

/-- All lines together hold no more than what was passed on. -/
theorem countP_assemble_le (p : Char → Bool) (es : List Event) (words : List CStr) (word : CStr) :
    (assemble es words word).flatten.flatten.countP p ≤
      words.flatten.countP p + word.countP p + (passed es).countP p := by
  induction es generalizing words word with
  | nil =>
    simp only [assemble, List.flatten_cons, List.flatten_nil, List.append_nil]
    omega
  | cons e es ih =>
    cases e with
    | char c =>
      have h := ih words (word ++ [c])
      have hpassed : passed (.char c :: es) = [c] ++ passed es := rfl
      rw [hpassed, List.countP_append]
      rw [List.countP_append] at h
      rw [assemble]
      omega
    | stop =>
      have h := ih (words ++ [word]) []
      simp only [List.flatten_append, List.countP_append, List.flatten_cons, List.flatten_nil, List.append_nil,
        List.countP_nil] at h
      have hpassed : passed (.stop :: es) = passed es := rfl
      rw [assemble, hpassed]
      omega
    | newline =>
      have h := ih [] []
      rw [List.flatten_nil, List.countP_nil] at h
      have hpassed : passed (.newline :: es) = passed es := rfl
      rw [assemble, hpassed, List.flatten_cons, List.flatten_append, List.countP_append]
      omega

theorem countP_entries_le (p : Char → Bool) (s : CStr) :
    (entries s).flatten.flatten.countP p ≤ (passed (events .gap s)).countP p := by
  have hfilter : ∀ lines : List (List CStr), (lines.filter fun words => 3 ≤ words.length).flatten.flatten.countP p ≤
      lines.flatten.flatten.countP p := by
    intro lines
    induction lines with
    | nil => exact Nat.le_refl _
    | cons words lines ih =>
      rw [List.filter_cons]
      simp only [List.flatten_cons, List.flatten_append, List.countP_append]
      split
      · simp only [List.flatten_cons, List.flatten_append, List.countP_append]
        omega
      · omega
  have h := countP_assemble_le p (events .gap s) [] []
  rw [List.flatten_nil, List.countP_nil] at h
  have hle := hfilter (assemble (events .gap s) [] [])
  rw [entries]
  omega

/-- Characters other than the double quote, the blank and the line end. -/
def heavy (c : Char) : Bool := c ≠ '"' && c ≠ ' ' && c ≠ '\n'

/-- A number that was read but not passed on yet. -/
def owed : Mode → Nat
  | .octal .. | .hex .. => 1
  | .gap | .gapEscape | .comment | .word _ | .escape _ => 0

/-- What a step passes on, or still owes, is no more than what it got. -/
def Fair (m : Mode) (c : Char) (out : List Event × Mode) : Prop :=
  (passed out.1).countP heavy + owed out.2 ≤ [c].countP heavy + owed m

theorem fair_wordStep (quote : Option Char) (c : Char) : Fair (.word quote) c (wordStep quote c) := by
  unfold wordStep
  split
  · exact Nat.zero_le _
  · split
    · split
      · exact Nat.zero_le _
      · exact Nat.le_refl _
    · split_ifs
      all_goals first | exact Nat.zero_le _ | exact Nat.le_refl _

theorem heavy_escapeChar (c : Char) (h : heavy (escapeChar c) = true) : heavy c = true := by
  unfold escapeChar at h
  split at h
  all_goals first | rfl | exact h

theorem heavy_of_isOctal (h : isOctal c = true) : heavy c = true := by
  have hne : ∀ d : Char, isOctal d = false → c ≠ d := by
    rintro d hd rfl
    rw [h] at hd
    cases hd
  simp [heavy, hne '"' rfl, hne ' ' rfl, hne '\n' rfl]

theorem fair_escapeStep (c : Char) : Fair (.escape quote) c (escapeStep quote c) := by
  unfold escapeStep Fair
  split
  case isTrue => exact Nat.zero_le _
  case isFalse =>
    split
    case isTrue hoct =>
      rw [List.countP_singleton, if_pos (heavy_of_isOctal hoct)]
      exact Nat.le_refl _
    case isFalse =>
      split
      case isTrue hx =>
        rw [hx]
        exact Nat.le_refl _
      case isFalse =>
        show [escapeChar c].countP heavy + 0 ≤ [c].countP heavy + 0
        rw [List.countP_singleton, List.countP_singleton]
        by_cases hesc : heavy (escapeChar c) = true
        · rw [if_pos hesc, if_pos (heavy_escapeChar c hesc)]
        · rw [if_neg hesc]
          exact Nat.zero_le _

/-- A number adds its own character, which was owed. -/
theorem fair_numberStep (c : Char) (hm : owed m = 1) : Fair m c (numberStep quote value c) := by
  have hword : _ + _ ≤ _ := fair_wordStep quote c
  have hpassed : passed (numberStep quote value c).1 = [Char.ofNat (value % 256)] ++ passed (wordStep quote c).1 := rfl
  have hone : [Char.ofNat (value % 256)].countP heavy ≤ 1 := List.countP_le_length
  rw [Fair, hpassed, List.countP_append, hm]
  show _ + owed (wordStep quote c).2 ≤ _
  have hzero : owed (.word quote) = 0 := rfl
  omega

theorem fair_step (m : Mode) (c : Char) : Fair m c (step m c) := by
  cases m with
  | gap =>
    rw [step]
    split_ifs
    · exact Nat.zero_le _
    · exact Nat.zero_le _
    · exact Nat.zero_le _
    · exact Nat.zero_le _
    · exact fair_wordStep none c
  | gapEscape =>
    rw [step]
    split_ifs
    · exact Nat.zero_le _
    · exact fair_escapeStep c
  | comment =>
    rw [step]
    split_ifs
    · exact Nat.zero_le _
    · exact Nat.zero_le _
  | word quote => exact fair_wordStep quote c
  | escape quote => exact fair_escapeStep c
  | octal quote left value =>
    rw [step]
    split_ifs
    · exact Nat.le_add_left _ _
    · exact fair_numberStep c rfl
  | hex quote left value =>
    rw [step]
    split
    · exact Nat.le_add_left _ _
    · exact fair_numberStep c rfl

theorem heavy_finish_le (m : Mode) : (passed (finish m)).countP heavy ≤ owed m := by
  cases m with
  | octal _ _ value | hex _ _ value => exact List.countP_le_length
  | gap | gapEscape | comment | word _ | escape _ => exact Nat.le_refl _

/-- **Nothing is for free.** -/
theorem heavy_events_le (m : Mode) (s : CStr) :
    (passed (events m s)).countP heavy ≤ s.countP heavy + owed m := by
  induction s generalizing m with
  | nil =>
    rw [List.countP_nil, Nat.zero_add]
    exact heavy_finish_le m
  | cons c s ih =>
    have hstep : _ + _ ≤ _ := fair_step m c
    have hrest := ih (step m c).2
    rw [events_cons, passed_append, List.countP_append, List.countP_cons, ← List.countP_singleton]
    omega

/-! ## Texts of which nothing is lost -/

/-- Between words, or outside quotes in a word. -/
def Mode.Unquoted (m : Mode) : Prop := m = .gap ∨ m = .word none

/-- In an entry without escapes, comments and single quotes. -/
def Mode.Basic (m : Mode) : Prop := m.Unquoted ∨ m = .word (some '"')

/-- What is lost of `s` is double quotes, blanks and line ends. -/
def Lossless (m : Mode) (s : CStr) : Prop := m.Basic ∧ (passed (events m s)).countP heavy = s.countP heavy

theorem Mode.Basic.owed_eq (h : m.Basic) : owed m = 0 := by
  rcases h with (rfl | rfl) | rfl <;> rfl

theorem Mode.Basic.passed_finish (h : m.Basic) : passed (finish m) = [] := by
  rcases h with (rfl | rfl) | rfl <;> rfl

/-- What happens to a character of which nothing is lost. -/
inductive Survives (m : Mode) (c : Char) : Prop where
  | quoted (inside : m = .word (some '"')) (ne : c ≠ '"' ∧ c ≠ '\\') (at_step : step m c = ([.char c], m))
  | ordinary (outside : m.Unquoted) (ordinary : Ordinary c) (at_step : step m c = ([.char c], .word none))
  | closing (inside : m = .word (some '"')) (eq : c = '"') (at_step : step m c = ([], .word none))
  | opening (outside : m.Unquoted) (eq : c = '"') (at_step : step m c = ([], .word (some '"')))
  | separator (outside : m.Unquoted) (eq : c = ' ' ∨ c = '\n') (at_step : passed (step m c).1 = [])
    (gap : (step m c).2 = .gap)

/-- The characters that mean something outside quotes. -/
theorem special_or_ordinary (c : Char) :
    c = '"' ∨ c = ' ' ∨ c = '\n' ∨ c = '\\' ∨ c = '\'' ∨ c = '#' ∨ (isspace c = true ∧ heavy c = true ∧ c ≠ '\n') ∨
      Ordinary c := by
  by_cases hspace : isspace c = true
  · have hquote : c ≠ '"' := by
      rintro rfl
      exact absurd hspace (by decide)
    have hheavy : c = ' ' ∨ c = '\n' ∨ (heavy c = true ∧ c ≠ '\n') := by
      by_cases hblank : c = ' '
      · exact .inl hblank
      · by_cases hnl : c = '\n'
        · exact .inr (.inl hnl)
        · exact .inr (.inr ⟨by simp [heavy, hquote, hblank, hnl], hnl⟩)
    tauto
  · have hfalse : isspace c = false := Bool.eq_false_iff.mpr hspace
    rw [Ordinary]
    tauto

/-- A step that loses nothing. -/
def Balanced (m : Mode) (c : Char) : Prop :=
  (passed (step m c).1).countP heavy + owed (step m c).2 = [c].countP heavy

theorem survives_unquoted (hm : m.Unquoted) (h : Balanced m c) : Survives m c := by
  rcases special_or_ordinary c with rfl | rfl | rfl | rfl | rfl | rfl | ⟨hspace, hheavy, hnl⟩ | hord
  · rcases hm with rfl | rfl
    · exact .opening (.inl rfl) rfl rfl
    · exact .opening (.inr rfl) rfl rfl
  · rcases hm with rfl | rfl
    · exact .separator (.inl rfl) (.inl rfl) rfl rfl
    · exact .separator (.inr rfl) (.inl rfl) rfl rfl
  · rcases hm with rfl | rfl
    · exact .separator (.inl rfl) (.inr rfl) rfl rfl
    · exact .separator (.inr rfl) (.inr rfl) rfl rfl
  -- The other special characters are swallowed, and they count.
  · rcases hm with rfl | rfl <;> cases h
  · rcases hm with rfl | rfl <;> cases h
  · rcases hm with rfl | rfl <;> cases h
  · have hstep : passed (step m c).1 = [] ∧ owed (step m c).2 = 0 := by
      have hback : c ≠ '\\' := by
        rintro rfl
        exact absurd hspace (by decide)
      have hhash : c ≠ '#' := by
        rintro rfl
        exact absurd hspace (by decide)
      have hquote : ¬ (c = '"' ∨ c = '\'') := by
        rintro (rfl | rfl)
        · exact absurd hspace (by decide)
        · exact absurd hspace (by decide)
      rcases hm with rfl | rfl
      · rw [step, if_neg hnl, if_neg hback, if_neg hhash, if_pos hspace]
        exact ⟨rfl, rfl⟩
      · show passed (wordStep none c).1 = [] ∧ owed (wordStep none c).2 = 0
        unfold wordStep
        rw [if_neg hback]
        dsimp only
        rw [if_neg hquote, if_neg hnl, if_neg hhash, if_pos hspace]
        exact ⟨rfl, rfl⟩
    rw [Balanced, hstep.1, hstep.2, List.countP_singleton, if_pos hheavy] at h
    cases h
  · exact .ordinary hm hord (step_bare hord hm)

theorem survives_quoted (h : Balanced (.word (some '"')) c) : Survives (.word (some '"')) c := by
  by_cases hback : c = '\\'
  · subst hback
    cases h
  · by_cases hquote : c = '"'
    · subst hquote
      exact .closing rfl rfl rfl
    · exact .quoted rfl ⟨hquote, hback⟩ (step_quoted ⟨hquote, hback⟩)

theorem Survives.basic (h : Survives m c) : (step m c).2.Basic := by
  cases h with
  | quoted inside _ at_step =>
    rw [at_step]
    exact .inr inside
  | ordinary _ _ at_step =>
    rw [at_step]
    exact .inl (.inr rfl)
  | closing _ _ at_step =>
    rw [at_step]
    exact .inl (.inr rfl)
  | opening _ _ at_step =>
    rw [at_step]
    exact .inr rfl
  | separator _ _ _ gap =>
    rw [gap]
    exact .inl (.inl rfl)

theorem Survives.ne_backslash (h : Survives m c) : c ≠ '\\' := by
  cases h with
  | quoted _ ne _ => exact ne.2
  | ordinary _ ordinary _ => exact ordinary.2.2.1
  | closing _ eq _ | opening _ eq _ =>
    rw [eq]
    decide
  | separator _ eq _ _ =>
    rcases eq with rfl | rfl
    · decide
    · decide

theorem Survives.no_quote (h : Survives m c) : '"' ∉ passed (step m c).1 := by
  cases h with
  | quoted _ ne at_step =>
    rw [at_step]
    exact fun hmem => ne.1 (List.mem_singleton.mp hmem).symm
  | ordinary _ ordinary at_step =>
    rw [at_step]
    exact fun hmem => ordinary.1 (List.mem_singleton.mp hmem).symm
  | closing _ _ at_step | opening _ _ at_step =>
    rw [at_step]
    exact List.not_mem_nil
  | separator _ _ at_step _ =>
    rw [at_step]
    exact List.not_mem_nil

/-- Of a text of which nothing is lost, nothing is lost at the first character and nothing of the rest. -/
theorem Lossless.cons (h : Lossless m (c :: s)) :
    Survives m c ∧ Lossless (step m c).2 s := by
  obtain ⟨hm, hcount⟩ := h
  have hfair : _ + _ ≤ _ := fair_step m c
  have hrest := heavy_events_le (step m c).2 s
  rw [events_cons, passed_append, List.countP_append, List.countP_cons, ← List.countP_singleton] at hcount
  rw [hm.owed_eq] at hfair
  have hbal : Balanced m c := by
    rw [Balanced]
    omega
  have hsurv : Survives m c := by
    rcases hm with hm | rfl
    · exact survives_unquoted hm hbal
    · exact survives_quoted hbal
  refine ⟨hsurv, hsurv.basic, ?_⟩
  have howed := hsurv.basic.owed_eq
  rw [Balanced] at hbal
  omega

/-- There are no escapes. -/
theorem Lossless.no_backslash (h : Lossless m s) : '\\' ∉ s := by
  induction s generalizing m with
  | nil => exact List.not_mem_nil
  | cons c s ih =>
    rw [List.mem_cons, not_or]
    exact ⟨h.cons.1.ne_backslash.symm, ih h.cons.2⟩

/-- No double quote gets through. -/
theorem Lossless.no_quote (h : Lossless m s) : '"' ∉ passed (events m s) := by
  induction s generalizing m with
  | nil =>
    show '"' ∉ passed ([] ++ finish m)
    rw [List.nil_append, h.1.passed_finish]
    exact List.not_mem_nil
  | cons c s ih =>
    rw [events_cons, passed_append, List.mem_append, not_or]
    exact ⟨h.cons.1.no_quote, ih h.cons.2⟩

theorem Lossless.append (h : Lossless m (s ++ t)) : Lossless (scan m s).2 t := by
  induction s generalizing m with
  | nil => exact h
  | cons c s ih => exact ih h.cons.2

/-- Neither a blank nor a line end. -/
def solid (c : Char) : Bool := c ≠ ' ' && c ≠ '\n'

/-- A part without double quotes, read outside quotes: ordinary characters, blanks and line ends. -/
theorem Lossless.unquoted (h : Lossless m (s ++ t)) (hm : m.Unquoted) (hquote : '"' ∉ s) :
    (∀ c ∈ s, solid c = true → Ordinary c) ∧ passed (scan m s).1 = s.filter solid ∧ (scan m s).2.Unquoted := by
  induction s generalizing m with
  | nil => exact ⟨fun _ hc => absurd hc List.not_mem_nil, rfl, hm⟩
  | cons c s ih =>
    rw [List.mem_cons, not_or] at hquote
    have hrest : Lossless (step m c).2 (s ++ t) := h.cons.2
    rw [scan, passed_append, List.filter_cons, List.forall_mem_cons]
    cases h.cons.1 with
    | quoted inside _ _ | closing inside _ _ =>
      subst inside
      rcases hm with hm | hm <;> cases hm
    | opening _ eq _ => exact absurd eq.symm hquote.1
    | ordinary _ hord at_step =>
      have hsolid : solid c = true := by
        have hblank : c ≠ ' ' := by
          rintro rfl
          exact absurd hord.2.2.2.2 (by decide)
        simp [solid, hblank, hord.ne_newline]
      rw [at_step] at hrest ⊢
      obtain ⟨hall, hpassed, hmode⟩ := ih hrest (.inr rfl) hquote.2
      exact ⟨⟨fun _ => hord, hall⟩, by rw [hpassed, if_pos hsolid]; rfl, hmode⟩
    | separator _ eq at_step gap =>
      have hsolid : solid c = false := by
        rcases eq with rfl | rfl
        · rfl
        · rfl
      rw [gap] at hrest ⊢
      obtain ⟨hall, hpassed, hmode⟩ := ih hrest (.inl rfl) hquote.2
      refine ⟨⟨fun h => ?_, hall⟩, by rw [at_step, hpassed, hsolid]; rfl, hmode⟩
      rw [hsolid] at h
      cases h

end FluxWAN.Pppd
