/-
  Texts made of quoted keys and values.

  A program that writes its settings as `"key": value` lines and finds them again by SEARCHING for
  `"key"` relies on something about the text as a whole: the only places where `"key"` occurs are the
  places where the key was written.  The text is seen here as a list of tokens, and the search becomes a
  search for a token (`seek`).

  * `strstr_render` — if the tokens are `Sound`, looking for the quoted name of a key in the text is
    looking for the key among the tokens;
  * `Tok.Sound`     — what that takes: no quote inside a value, no value spelled like a key, and after
    each closing quote a character that no key contains (else the text BETWEEN two quoted tokens could
    pass for a key).

  The keys are an arbitrary type with a spelling (`Spelled`).
-/
import FluxWAN.Lib.Numerals

namespace FluxWAN.QuotedText

open CString

variable {c : Char} {s : CStr}

/-! ## Keys and tokens -/

/-- The characters of a key. -/
def isWord (c : Char) : Bool := c.isLower || c.isDigit || c = '_'

/-- Keys with their names in the text. -/
class Spelled (K : Type) where
  name : K → CStr
  name_injective : ∀ k k', name k = name k' → k = k'
  name_ne_nil : ∀ k, name k ≠ []
  name_word : ∀ k, ∀ c ∈ name k, isWord c = true

export Spelled (name)

/-- What can stand behind a key. -/
inductive Value where
  | str (s : CStr)
  | num (n : Nat)
  | int (z : Int)
  | flag (b : Bool)
  | dec (x : CFloat)

def showFlag (b : Bool) : CStr := if b then "true".toList else "false".toList

/-- `printf` conversion `%d`. -/
def showInt (z : Int) : CStr := if z < 0 then '-' :: showNat z.natAbs else showNat z.natAbs

def Value.text : Value → CStr
  | str s => '"' :: s ++ ['"']
  | num n => showNat n
  | int z => showInt z
  | flag b => showFlag b
  | dec x => x.showTenths

/-- A key with its colon, a value with the text up to the next token, or other text. -/
inductive Tok (K : Type) where
  | key (k : K)
  | val (v : Value) (sep : CStr)
  | raw (s : CStr)

/-! ## The search for a key -/

section
variable {K : Type} [DecidableEq K]

/-- The tokens from the first occurrence of a key on. -/
def seek (k : K) : List (Tok K) → Option (List (Tok K))
  | [] => none
  | .key k' :: ts => if k' = k then some (.key k' :: ts) else seek k ts
  | .val _ _ :: ts => seek k ts
  | .raw _ :: ts => seek k ts

@[simp] theorem seek_nil (k : K) : seek k [] = none := rfl

@[simp] theorem seek_key (k k' : K) : seek k (.key k' :: ts) = if k' = k then some (.key k' :: ts) else seek k ts := rfl

@[simp] theorem seek_val (k : K) : seek k (.val v sep :: ts) = seek k ts := rfl

@[simp] theorem seek_raw (k : K) (s : CStr) : seek k (.raw s :: ts) = seek k ts := rfl

/-- A search goes through the parts of a text in their order. -/
theorem seek_append (k : K) : seek k (us ++ ts) = (seek k us).elim (seek k ts) fun r => some (r ++ ts) := by
  induction us with
  | nil => rfl
  | cons t us ih =>
    cases t with
    | key k' =>
      by_cases hk : k' = k
      · simp [hk]
      · simpa [hk] using ih
    | val v sep => exact ih
    | raw s => exact ih

theorem seek_eq_none {k : K} {ts : List (Tok K)} (hk : Tok.key k ∉ ts) : seek k ts = none := by
  induction ts with
  | nil => rfl
  | cons t ts ih =>
    have ih := ih fun h => hk (List.mem_cons_of_mem t h)
    cases t with
    | key k' =>
      have hne : k' ≠ k := fun h => hk (h ▸ List.mem_cons_self)
      rw [seek_key, if_neg hne, ih]
    | val v sep => exact ih
    | raw s => exact ih

/-- The result of a search is the end of the text, from the key on. -/
theorem seek_eq_some : ∀ {ts r : List (Tok K)}, seek k ts = some r → ∃ us rest, ts = us ++ r ∧ r = .key k :: rest := by
  intro ts
  induction ts with
  | nil => intro r h; exact absurd h (by simp [seek])
  | cons t ts ih =>
    intro r h
    cases t with
    | key k' =>
      rw [seek_key] at h
      split at h
      · rename_i hk
        obtain rfl := Option.some.inj h
        exact ⟨[], ts, rfl, by rw [hk]⟩
      · obtain ⟨us, rest, rfl, rfl⟩ := ih h
        exact ⟨.key k' :: us, rest, rfl, rfl⟩
    | val v sep =>
      obtain ⟨us, rest, rfl, rfl⟩ := ih h
      exact ⟨.val v sep :: us, rest, rfl, rfl⟩
    | raw s =>
      obtain ⟨us, rest, rfl, rfl⟩ := ih h
      exact ⟨.raw s :: us, rest, rfl, rfl⟩

end

section
variable {K : Type} [Spelled K]

/-- `"key"`. -/
def quoted (k : K) : CStr := '"' :: name k ++ ['"']

def Tok.text : Tok K → CStr
  | key k => quoted k ++ [':', ' ']
  | val v sep => v.text ++ sep
  | raw s => s

/-- The text of a list of tokens. -/
def render (ts : List (Tok K)) : CStr := ts.flatMap Tok.text

@[simp] theorem render_nil : render ([] : List (Tok K)) = [] := rfl

theorem render_cons (t : Tok K) : render (t :: ts) = t.text ++ render ts := rfl

theorem render_append (ts us : List (Tok K)) : render (ts ++ us) = render ts ++ render us :=
  List.flatMap_append

theorem mem_render {ts : List (Tok K)} : c ∈ render ts ↔ ∃ t ∈ ts, c ∈ t.text :=
  List.mem_flatMap

/-! ## Soundness -/

/-- The characters with a meaning to a reader of such texts. -/
def isSpecial (c : Char) : Bool :=
  c = '"' || c = '\\' || c = '\x7b' || c = '\x7d' || c = '[' || c = ']'

/-- A text without special or control characters that is not spelled like a key. -/
structure PlainText (K : Type) [Spelled K] (s : CStr) : Prop where
  plain : ∀ c ∈ s, isSpecial c = false ∧ 32 ≤ c.toNat ∧ c.toNat ≠ 127
  not_name : ∀ k : K, s ≠ name k

/-- A text with a character that no key contains is not spelled like a key. -/
theorem plainText_of_not_word (hplain : ∀ c ∈ s, isSpecial c = false ∧ 32 ≤ c.toNat ∧ c.toNat ≠ 127)
    (hword : ∃ c ∈ s, isWord c = false) : PlainText K s := by
  refine ⟨hplain, fun k h => ?_⟩
  obtain ⟨c, hc, hnw⟩ := hword
  rw [Spelled.name_word k c (h ▸ hc)] at hnw
  exact absurd hnw (by decide)

/-- What follows a value: something that continues neither a key nor a number, and no new quote. -/
structure Separates (sep : CStr) : Prop where
  opens : ∃ c s, sep = c :: s ∧ isWord c = false ∧ c.isDigit = false
  unquoted : '"' ∉ sep ∧ '\\' ∉ sep ∧ '\x00' ∉ sep

def Value.Sound (K : Type) [Spelled K] : Value → Prop
  | str s => PlainText K s
  | _ => True

def Tok.Sound : Tok K → Prop
  | key _ => True
  | val v sep => v.Sound K ∧ Separates sep
  | raw s => '"' ∉ s ∧ '\\' ∉ s ∧ '\x00' ∉ s

/-- All tokens of the text are sound. -/
def Sound (ts : List (Tok K)) : Prop := ∀ t ∈ ts, t.Sound

@[simp] theorem sound_nil : Sound ([] : List (Tok K)) := fun _ h => absurd h List.not_mem_nil

@[simp] theorem sound_cons {t : Tok K} : Sound (t :: ts) ↔ t.Sound ∧ Sound ts :=
  List.forall_mem_cons

@[simp] theorem sound_append {ts us : List (Tok K)} : Sound (ts ++ us) ↔ Sound ts ∧ Sound us :=
  List.forall_mem_append

/-! ## Searching -/

/-- A search passes over text that lacks the first character of the needle. -/
theorem strstr_append_of_not_mem (hs : p ∉ s) (r ps : CStr) : strstr (s ++ r) (p :: ps) = strstr r (p :: ps) := by
  induction s with
  | nil => rfl
  | cons c s ih =>
    have hc : ¬ (p :: ps).isPrefixOf (c :: (s ++ r)) = true := by
      rw [List.isPrefixOf_iff_prefix, List.cons_prefix_cons]
      rintro ⟨rfl, -⟩
      exact hs List.mem_cons_self
    rw [List.cons_append, strstr, if_neg hc]
    exact ih fun h => hs (List.mem_cons_of_mem c h)

/-- Two quote-free texts before a quote are equal as soon as one is a beginning of the other. -/
theorem eq_of_prefix_quote : ∀ {v x : CStr}, '"' ∉ w → '"' ∉ v → w ++ ['"'] <+: v ++ '"' :: x → w = v := by
  induction w with
  | nil =>
    intro v x _ hv h
    cases v with
    | nil => rfl
    | cons b v =>
      obtain ⟨rfl, -⟩ := List.cons_prefix_cons.mp h
      exact absurd List.mem_cons_self hv
  | cons a w ih =>
    intro v x hw hv h
    cases v with
    | nil =>
      obtain ⟨rfl, -⟩ := List.cons_prefix_cons.mp h
      exact absurd List.mem_cons_self hw
    | cons b v =>
      obtain ⟨rfl, htail⟩ := List.cons_prefix_cons.mp h
      rw [ih (fun h' => hw (List.mem_cons_of_mem a h')) (fun h' => hv (List.mem_cons_of_mem a h')) htail]

theorem not_mem_of_word (hs : ∀ c ∈ s, isWord c = true) (hd : isWord d = false) : d ∉ s := by
  intro h
  rw [hs d h] at hd
  exact absurd hd (by decide)

theorem quote_not_mem_name (k : K) : '"' ∉ name k := not_mem_of_word (Spelled.name_word k) (by decide)

/-- A quoted text other than the name, and what separates it from the next token, are passed over. -/
theorem strstr_skip_quoted {v sep : CStr} {k : K} (hv : '"' ∉ v) (hne : v ≠ name k)
    (hsep : Separates sep) (r : CStr) :
    strstr ('"' :: v ++ '"' :: (sep ++ r)) (quoted k) = strstr r (quoted k) := by
  -- not at the opening quote: the name would be the text
  have hopen : ¬ (quoted k).isPrefixOf ('"' :: (v ++ '"' :: (sep ++ r))) = true := by
    rw [List.isPrefixOf_iff_prefix]
    intro h
    have h' : name k ++ ['"'] <+: v ++ '"' :: (sep ++ r) := (List.cons_prefix_cons.mp h).2
    exact hne (eq_of_prefix_quote (quote_not_mem_name k) hv h').symm
  -- not at the closing quote: the separator starts with no character of a key
  obtain ⟨c, s, hcs, hword, -⟩ := hsep.opens
  have hclose : ¬ (quoted k).isPrefixOf ('"' :: (sep ++ r)) = true := by
    rw [List.isPrefixOf_iff_prefix]
    intro h
    have h' : name k ++ ['"'] <+: sep ++ r := (List.cons_prefix_cons.mp h).2
    cases hname : name k with
    | nil => exact Spelled.name_ne_nil k hname
    | cons a w =>
      rw [hname, hcs] at h'
      obtain ⟨rfl, -⟩ := List.cons_prefix_cons.mp h'
      have ha : isWord a = true := Spelled.name_word k a (hname ▸ List.mem_cons_self)
      rw [hword] at ha
      exact absurd ha (by decide)
  calc strstr ('"' :: (v ++ '"' :: (sep ++ r))) (quoted k)
      = strstr (v ++ '"' :: (sep ++ r)) (quoted k) := if_neg hopen
    _ = strstr ('"' :: (sep ++ r)) (quoted k) := strstr_append_of_not_mem hv _ _
    _ = strstr (sep ++ r) (quoted k) := if_neg hclose
    _ = strstr r (quoted k) := strstr_append_of_not_mem hsep.unquoted.1 r _

/-! ## Texts of values -/

theorem isDigit_of_isSpecial (hc : isSpecial c = true) : c.isDigit = false := by
  simp only [isSpecial, Bool.or_eq_true, decide_eq_true_eq] at hc
  rcases hc with ((((rfl | rfl) | rfl) | rfl) | rfl) | rfl <;> rfl

/-- A character as numbers and words have them: neither special nor the end of a C string. -/
def Mild (c : Char) : Prop := isSpecial c = false ∧ c ≠ '\x00'

instance (c : Char) : Decidable (Mild c) := inferInstanceAs (Decidable (_ ∧ _))

theorem mild_of_all {s : CStr} (h : s.all (fun c => decide (Mild c)) = true) (hc : c ∈ s) : Mild c :=
  of_decide_eq_true (List.all_eq_true.mp h c hc)

theorem mild_of_mem_showNat (h : c ∈ showNat n) : Mild c := by
  have hdigit := isDigit_of_mem_showNat h
  constructor
  · by_contra hs
    rw [isDigit_of_isSpecial (by simpa using hs)] at hdigit
    exact absurd hdigit (by decide)
  · rintro rfl
    exact absurd hdigit (by decide)

theorem mild_of_mem_showInt (h : c ∈ showInt z) : Mild c := by
  unfold showInt at h
  split at h
  · rcases List.mem_cons.mp h with rfl | h
    · decide
    · exact mild_of_mem_showNat h
  · exact mild_of_mem_showNat h

theorem mild_of_mem_showTenths {x : CFloat} (h : c ∈ x.showTenths) : Mild c := by
  cases x with
  | nan => exact mild_of_all (s := "nan".toList) (by decide) h
  | negInf => exact mild_of_all (s := "-inf".toList) (by decide) h
  | posInf => exact mild_of_all (s := "inf".toList) (by decide) h
  | fin num shift =>
    simp only [CFloat.showTenths, List.mem_append, List.mem_cons] at h
    rcases h with h | h | rfl | h
    · split at h
      · obtain rfl := List.mem_singleton.mp h
        decide
      · exact absurd h List.not_mem_nil
    · exact mild_of_mem_showNat h
    · decide
    · exact mild_of_mem_showNat h

/-- Values other than strings. -/
theorem Value.mild_of_mem_text {v : Value} (hv : ¬ ∃ s, v = .str s) (h : c ∈ v.text) : Mild c := by
  cases v with
  | str s => exact absurd ⟨s, rfl⟩ hv
  | num n => exact mild_of_mem_showNat h
  | int z => exact mild_of_mem_showInt h
  | flag b => exact mild_of_all (s := showFlag b) (by cases b <;> decide) h
  | dec x => exact mild_of_mem_showTenths h

/-- Apart from the quotes around a string, the text of a sound value has mild characters only. -/
theorem Value.quote_or_mild {v : Value} (hv : v.Sound K) (h : c ∈ v.text) : c = '"' ∨ Mild c := by
  cases v with
  | str s =>
    simp only [Value.text, List.cons_append, List.mem_cons, List.mem_append, List.not_mem_nil, or_false] at h
    rcases h with h | h | h
    · exact .inl h
    · obtain ⟨hs, hle, -⟩ := PlainText.plain hv c h
      refine .inr ⟨hs, ?_⟩
      rintro rfl
      exact absurd hle (by decide)
    · exact .inl h
  | num _ | int _ | flag _ | dec _ => exact .inr (Value.mild_of_mem_text (by simp) h)

theorem Value.not_mem_text {v : Value} (hv : v.Sound K) (hc : isSpecial c = true) (hq : c ≠ '"') : c ∉ v.text := by
  intro h
  have hmild := ((Value.quote_or_mild hv h).resolve_left hq).1
  rw [hc] at hmild
  exact absurd hmild (by decide)

/-- The text of sound tokens is a C string. -/
theorem nul_not_mem_render {ts : List (Tok K)} (hs : Sound ts) : '\x00' ∉ render ts := by
  intro h
  obtain ⟨t, ht, hmem⟩ := mem_render.mp h
  have hsound := hs t ht
  cases t with
  | key k =>
    have hname : '\x00' ∉ name k := not_mem_of_word (Spelled.name_word k) (by decide)
    simp only [Tok.text, quoted, List.cons_append, List.mem_cons, List.mem_append, List.not_mem_nil, or_false] at hmem
    rcases hmem with h | (h | h) | h | h
    · exact absurd h (by decide)
    · exact hname h
    · exact absurd h (by decide)
    · exact absurd h (by decide)
    · exact absurd h (by decide)
  | val v sep =>
    rcases List.mem_append.mp hmem with h | h
    · exact ((Value.quote_or_mild hsound.1 h).resolve_left (by decide)).2 rfl
    · exact hsound.2.unquoted.2.2 h
  | raw s => exact hsound.2.2 hmem

theorem PlainText.quote_not_mem (hs : PlainText K s) : '"' ∉ s := by
  intro h
  exact absurd (hs.plain _ h).1 (by decide)

theorem PlainText.backslash_not_mem (hs : PlainText K s) : '\\' ∉ s := by
  intro h
  exact absurd (hs.plain _ h).1 (by decide)

/-! ## Looking for a key in the text -/

variable [DecidableEq K]

theorem sound_of_seek {k : K} {ts r : List (Tok K)} (hs : Sound ts) (h : seek k ts = some r) : Sound r := by
  obtain ⟨us, rest, rfl, -⟩ := seek_eq_some h
  exact (sound_append.mp hs).2

theorem separates_colon : Separates [':', ' '] := ⟨⟨':', [' '], rfl, by decide, rfl⟩, by decide, by decide, by decide⟩

/-- Looking for a quoted key in a text that starts with tokens is looking for the key among them first. -/
theorem strstr_render_append {ts : List (Tok K)} (hs : Sound ts) (k : K) (rest : CStr) :
    strstr (render ts ++ rest) (quoted k) =
      (seek k ts).elim (strstr rest (quoted k)) fun r => some (render r ++ rest) := by
  induction ts with
  | nil => rfl
  | cons t ts ih =>
    obtain ⟨ht, hs⟩ := sound_cons.mp hs
    have ih := ih hs
    cases t with
    | key k' =>
      rw [seek_key]
      by_cases hk : k' = k
      · subst hk
        have hpre : (quoted k').isPrefixOf (render (.key k' :: ts) ++ rest) = true := by
          rw [List.isPrefixOf_iff_prefix, render_cons, Tok.text, List.append_assoc, List.append_assoc]
          exact List.prefix_append _ _
        rw [if_pos rfl]
        exact if_pos hpre
      · have hne : name k' ≠ name k := fun h => hk (Spelled.name_injective k' k h)
        have htext : render (.key k' :: ts) ++ rest = '"' :: name k' ++ '"' :: ([':', ' '] ++ (render ts ++ rest)) := by
          simp [render_cons, Tok.text, quoted]
        rw [if_neg hk, htext, strstr_skip_quoted (quote_not_mem_name k') hne separates_colon, ih]
    | val v sep =>
      obtain ⟨hv, hsep⟩ := ht
      rw [seek_val, ← ih, render_cons, Tok.text, List.append_assoc, List.append_assoc]
      by_cases hstr : ∃ s, v = .str s
      · obtain ⟨s, rfl⟩ := hstr
        have htext : (Value.str s).text ++ (sep ++ (render ts ++ rest)) =
            '"' :: s ++ '"' :: (sep ++ (render ts ++ rest)) := by
          simp [Value.text]
        rw [htext, strstr_skip_quoted (PlainText.quote_not_mem hv) (PlainText.not_name hv k) hsep]
      · have hquote : '"' ∉ v.text := fun h => absurd (Value.mild_of_mem_text hstr h).1 (by decide)
        rw [quoted, List.cons_append, strstr_append_of_not_mem hquote, strstr_append_of_not_mem hsep.unquoted.1]
    | raw s =>
      rw [seek_raw, ← ih, render_cons, Tok.text, quoted, List.cons_append, List.append_assoc]
      exact strstr_append_of_not_mem ht.1 _ _

/-- Looking for a quoted key in the text is looking for the key among the tokens. -/
theorem strstr_render (hs : Sound ts) (k : K) : strstr (render ts) (quoted k) = (seek k ts).map render := by
  have h := strstr_render_append hs k []
  have hnil : strstr [] (quoted k) = none := if_neg (by simp [quoted])
  rw [List.append_nil, hnil] at h
  rw [h]
  cases seek k ts with
  | none => rfl
  | some r => simp

end

end FluxWAN.QuotedText
