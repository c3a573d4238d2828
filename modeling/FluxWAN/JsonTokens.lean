/-
  The readers of `JsonText` on a text made of tokens.

  `strstr_render` turns the search for a key into a search among the tokens.  The lemmas here do the same
  for what the loader does behind a key:

  * `extractJsonString_render` and the like — a value read by key is the value of the token that follows
    the key (`fieldAt`);
  * `objectsAfter_objectArray` — the objects cut out of an array are the objects written into it;
  * `objectAfter_block` — a block cut out by matching braces is the block that was written;
  * `quotedNames_names` — the names read from an array of strings are the names written.

  The last three need the text inside an object to be free of stray braces and brackets (`Flat`), which
  sound values are.
-/
import FluxWAN.ConfigSave

namespace FluxWAN

open CString QuotedText

variable {ts : List (Tok Key)}

/-! ## The tokens behind a key -/

/-- What follows the first occurrence of a key. -/
def fieldAt (k : Key) (ts : List (Tok Key)) : Option (List (Tok Key)) := (seek k ts).map List.tail

@[simp] theorem fieldAt_append (k : Key) :
    fieldAt k (us ++ ts) = (fieldAt k us).elim (fieldAt k ts) fun r => some (r ++ ts) := by
  unfold fieldAt
  rw [seek_append]
  cases hseek : seek k us with
  | none => rfl
  | some r =>
    obtain ⟨-, rest, -, rfl⟩ := seek_eq_some hseek
    rfl

@[simp] theorem fieldAt_nil (k : Key) : fieldAt k [] = none := rfl

@[simp] theorem fieldAt_raw (k : Key) (s : CStr) : fieldAt k (.raw s :: ts) = fieldAt k ts := rfl

@[simp] theorem fieldAt_val (k : Key) : fieldAt k (.val v sep :: ts) = fieldAt k ts := rfl

@[simp] theorem fieldAt_key (k k' : Key) : fieldAt k (.key k' :: ts) = if k' = k then some ts else fieldAt k ts := by
  unfold fieldAt
  rw [seek_key]
  split <;> rfl

/-- Lines that are written under a condition. -/
@[simp] theorem fieldAt_ite (k : Key) (p : Prop) [Decidable p] :
    fieldAt k (if p then us else ts) = if p then fieldAt k us else fieldAt k ts := apply_ite (fieldAt k) p us ts

@[simp] theorem fieldAt_line (k : Key) (ind : Nat) :
    fieldAt k (line ind k' v) = if k' = k then some [.val v [',', '\n']] else none := by
  simp [line]

@[simp] theorem fieldAt_lastLine (k : Key) (ind : Nat) :
    fieldAt k (lastLine ind k' v) = if k' = k then some [.val v ['\n']] else none := by
  simp [lastLine]

/-- The value of a key is the text of what follows it. -/
theorem valueOf_render (hs : Sound ts) (k : Key) :
    valueOf (render ts) k.text = (fieldAt k ts).map fun r => (render r).dropWhile isKeyGap := by
  have hsearch : strstr (render ts) ('"' :: k.text ++ ['"']) = (seek k ts).map render := strstr_render hs k
  rw [valueOf, hsearch, fieldAt, Option.map_map, Option.map_map]
  cases hseek : seek k ts with
  | none => rfl
  | some r =>
    obtain ⟨us, rest, -, rfl⟩ := seek_eq_some hseek
    have hdrop : (render (.key k :: rest)).drop (k.text.length + 2) = [':', ' '] ++ render rest := by
      have hlen : (quoted k).length = k.text.length + 2 := by simp [quoted, name]
      rw [render_cons, Tok.text, List.append_assoc, List.drop_left' hlen]
    show some (((render (.key k :: rest)).drop (k.text.length + 2)).dropWhile isKeyGap) = _
    rw [hdrop]
    rfl

/-- A value starts with a character that is no gap. -/
theorem dropWhile_value (v : Value) (r : CStr) : (v.text ++ r).dropWhile isKeyGap = v.text ++ r := by
  have hdigit (n : Nat) (r : CStr) : (showNat n ++ r).dropWhile isKeyGap = showNat n ++ r := by
    obtain ⟨c, ds, hcons, hc⟩ := showNat_eq_cons n
    have hgap : isKeyGap c = false := by
      simp [isKeyGap, ne_of_isDigit hc (d := ' ') rfl, ne_of_isDigit hc (d := ':') rfl,
        ne_of_isDigit hc (d := '\t') rfl, ne_of_isDigit hc (d := '\n') rfl, ne_of_isDigit hc (d := '\r') rfl]
    rw [hcons, List.cons_append, List.dropWhile_cons, hgap]
    rfl
  cases v with
  | str s => rfl
  | num n => exact hdigit n r
  | int z =>
    rw [Value.text, showInt]
    split
    · rfl
    · exact hdigit _ r
  | flag b => cases b <;> rfl
  | dec x =>
    cases x with
    | nan => rfl
    | negInf => rfl
    | posInf => rfl
    | fin num shift =>
      rw [Value.text, CFloat.showTenths]
      by_cases hneg : num < 0
      · rw [if_pos hneg]; rfl
      · rw [if_neg hneg, List.nil_append, List.append_assoc]
        exact hdigit _ _

/-! ## Values -/

theorem sound_of_fieldAt (hs : Sound ts) (h : fieldAt k ts = some r) : Sound r := by
  obtain ⟨r', hseek, rfl⟩ := Option.map_eq_some_iff.mp h
  exact fun t ht => sound_of_seek hs hseek t (List.mem_of_mem_tail ht)

/-- What follows a value does not continue a number. -/
theorem numberEnds_separator (hsep : Separates sep) (r : CStr) : NumberEnds (sep ++ r) := by
  obtain ⟨c, s, rfl, -, hc⟩ := hsep.opens
  exact numberEnds_cons hc

theorem render_val (v : Value) (r : List (Tok Key)) :
    (render (.val v sep :: r)).dropWhile isKeyGap = v.text ++ (sep ++ render r) := by
  rw [render_cons, Tok.text, List.append_assoc, dropWhile_value]

/-- A reader of texts, applied to the value of a key, is a reader of tokens applied to what follows it. -/
theorem elim_valueOf {α : Type} (hs : Sound ts) (k : Key) (d : α) {read : CStr → α} {readToks : List (Tok Key) → α}
    (h : ∀ r, Sound r → read ((render r).dropWhile isKeyGap) = readToks r) :
    (valueOf (render ts) k.text).elim d read = (fieldAt k ts).elim d readToks := by
  rw [valueOf_render hs]
  cases hfield : fieldAt k ts with
  | none => rfl
  | some r => exact h r (sound_of_fieldAt hs hfield)

/-- The part of `extract_json_string` behind the key. -/
def readString (n : Nat) : CStr → Option CStr
  | '"' :: p => (untilQuote false p).map fun raw => unescapeJson (copyInto n raw)
  | _ => none

theorem untilQuote_plain (hq : '"' ∉ s) (hb : '\\' ∉ s) (r : CStr) : untilQuote false (s ++ '"' :: r) = some s := by
  induction s with
  | nil => rfl
  | cons c s ih =>
    have hcq : c ≠ '"' := fun h => hq (h ▸ List.mem_cons_self)
    have hcb : c ≠ '\\' := fun h => hb (h ▸ List.mem_cons_self)
    have ih := ih (fun h => hq (List.mem_cons_of_mem c h)) (fun h => hb (List.mem_cons_of_mem c h))
    rw [List.cons_append, untilQuote, if_neg hcb, if_neg hcq, ih, Option.map_some]

theorem unescapeJson_plain (hb : '\\' ∉ s) : unescapeJson s = s := by
  induction s with
  | nil => rfl
  | cons c s ih =>
    have hcb : c ≠ '\\' := fun h => hb (h ▸ List.mem_cons_self)
    rw [unescapeJson.eq_def]
    simp only [hcb, if_false, ih fun h => hb (List.mem_cons_of_mem c h)]

/-- A string token, cut to the buffer. -/
def strToks (n : Nat) : List (Tok Key) → Option CStr
  | .val (.str s) _ :: _ => some (copyInto n s)
  | r => readString n ((render r).dropWhile isKeyGap)

theorem readString_render (n : Nat) (r : List (Tok Key)) (hr : Sound r) :
    readString n ((render r).dropWhile isKeyGap) = strToks n r := by
  unfold strToks
  split
  · rename_i s sep rest
    have hplain : PlainText Key s := (sound_cons.mp hr).1.1
    have hcut : '\\' ∉ copyInto n s := fun h => hplain.backslash_not_mem (List.mem_of_mem_take h)
    have htext : (Value.str s).text ++ (sep ++ render rest) = '"' :: (s ++ '"' :: (sep ++ render rest)) := by
      simp [Value.text]
    rw [render_val, htext, readString, untilQuote_plain hplain.quote_not_mem hplain.backslash_not_mem,
      Option.map_some, unescapeJson_plain hcut]
  · rfl

theorem extractJsonString_render (hs : Sound ts) (k : Key) (n : Nat) :
    extractJsonString (render ts) k.text n = (fieldAt k ts).elim none (strToks n) := by
  rw [← elim_valueOf hs k none (readString_render n), extractJsonString]
  cases valueOf (render ts) k.text with
  | none => rfl
  | some p =>
    show _ = readString n p
    rw [readString.eq_def]
    split <;> split <;> simp_all

/-- The part of `extract_json_bool` behind the key. -/
def readBool (defaultVal : Bool) (p : CStr) : Bool :=
  if startsWith p "true".toList then true
  else if startsWith p "false".toList then false
  else defaultVal

def boolToks (defaultVal : Bool) : List (Tok Key) → Bool
  | .val (.flag b) _ :: _ => b
  | r => readBool defaultVal ((render r).dropWhile isKeyGap)

theorem readBool_render (d : Bool) (r : List (Tok Key)) :
    readBool d ((render r).dropWhile isKeyGap) = boolToks d r := by
  unfold boolToks
  split
  · rename_i b sep rest
    rw [render_val]
    cases b <;> rfl
  · rfl

theorem extractJsonBool_render (hs : Sound ts) (k : Key) (d : Bool) :
    extractJsonBool (render ts) k.text d = (fieldAt k ts).elim d (boolToks d) := by
  rw [← elim_valueOf hs k d fun r _ => readBool_render d r, extractJsonBool]
  cases valueOf (render ts) k.text <;> rfl

/-- The number of a token, as `atoi` sees it. -/
def intToks : List (Tok Key) → Int
  | .val (.num n) _ :: _ => wrapInt n
  | r => atoi ((render r).dropWhile isKeyGap)

theorem atoi_render (r : List (Tok Key)) (hr : Sound r) : atoi ((render r).dropWhile isKeyGap) = intToks r := by
  unfold intToks
  split
  · rename_i n sep rest
    have hsep : Separates sep := (sound_cons.mp hr).1.2
    rw [render_val, Value.text, atoi_showNat n (numberEnds_separator hsep _)]
  · rfl

theorem extractJsonInt_render (hs : Sound ts) (k : Key) (d : Int) :
    extractJsonInt (render ts) k.text d = (fieldAt k ts).elim d intToks :=
  elim_valueOf hs k d atoi_render

/-- The part of `extract_json_uint64` behind the key. -/
def readUint64 (defaultVal : UInt64) : CStr → UInt64
  | c :: p => if c.isDigit || c = '-' then strtoull (c :: p) else defaultVal
  | [] => defaultVal

def uint64Toks (defaultVal : UInt64) : List (Tok Key) → UInt64
  | .val (.num n) _ :: _ => UInt64.ofNat (min (2 ^ 64 - 1) n)
  | r => readUint64 defaultVal ((render r).dropWhile isKeyGap)

theorem readUint64_render (d : UInt64) (r : List (Tok Key)) (hr : Sound r) :
    readUint64 d ((render r).dropWhile isKeyGap) = uint64Toks d r := by
  unfold uint64Toks
  split
  · rename_i n sep rest
    have hsep : Separates sep := (sound_cons.mp hr).1.2
    have hnum := strtoull_showNat n (numberEnds_separator hsep (render rest))
    obtain ⟨c, ds, hcons, hc⟩ := showNat_eq_cons n
    rw [hcons, List.cons_append] at hnum
    rw [render_val, Value.text, hcons, List.cons_append, readUint64, hc, Bool.true_or, if_pos rfl, hnum]
  · rfl

theorem extractJsonUint64_render (hs : Sound ts) (k : Key) (d : UInt64) :
    extractJsonUint64 (render ts) k.text d = (fieldAt k ts).elim d (uint64Toks d) := by
  rw [← elim_valueOf hs k d (readUint64_render d), extractJsonUint64]
  cases valueOf (render ts) k.text with
  | none => rfl
  | some p => cases p <;> rfl

/-- The decimal of a token, as a `float`. -/
def floatToks : List (Tok Key) → CFloat
  | .val (.dec x) (',' :: _) :: _ => x.atTenths.toFloat
  | r => (CFloat.atof ((render r).dropWhile isKeyGap)).toFloat

theorem atof_render (r : List (Tok Key)) :
    (CFloat.atof ((render r).dropWhile isKeyGap)).toFloat = floatToks r := by
  unfold floatToks
  split
  · rw [render_val, Value.text, List.cons_append, CFloat.atof_showTenths]
  · rfl

theorem extractJsonFloat_render (hs : Sound ts) (k : Key) (d : CFloat) :
    extractJsonFloat (render ts) k.text d = (fieldAt k ts).elim d floatToks :=
  elim_valueOf hs k d fun r _ => atof_render r

/-! ## Evaluating a search

  The rules by which `simp` finds the value of a key in the tokens of a block. -/

@[simp] theorem strToks_str (n : Nat) (s sep : CStr) (r : List (Tok Key)) :
    strToks n (.val (.str s) sep :: r) = some (copyInto n s) := rfl

@[simp] theorem boolToks_flag (d b : Bool) (r : List (Tok Key)) : boolToks d (.val (.flag b) sep :: r) = b := rfl

@[simp] theorem floatToks_dec (x : CFloat) (r : List (Tok Key)) :
    floatToks (.val (.dec x) (',' :: sep) :: r) = x.atTenths.toFloat := rfl

@[simp] theorem uint64Toks_num (d x : UInt64) (r : List (Tok Key)) :
    uint64Toks d (.val (.num x.toNat) sep :: r) = x := by
  have hx : x.toNat < 2 ^ 64 := x.toNat_lt
  rw [uint64Toks, Nat.min_eq_right (by omega), UInt64.ofNat_toNat]

def u32Toks (r : List (Tok Key)) : UInt32 := UInt32.ofNat ((intToks r) % 2 ^ 32).toNat

def u16Toks (r : List (Tok Key)) : UInt16 := UInt16.ofNat ((intToks r) % 2 ^ 16).toNat

def u8Toks (r : List (Tok Key)) : UInt8 := UInt8.ofNat ((intToks r) % 2 ^ 8).toNat

@[simp] theorem u32Toks_num (x : UInt32) (r : List (Tok Key)) : u32Toks (.val (.num x.toNat) sep :: r) = x := by
  have h := toNat_wrapInt (m := 2 ^ 32) (by decide) x.toNat_lt
  show UInt32.ofNat ((wrapInt x.toNat) % ((2 ^ 32 : Nat) : Int)).toNat = x
  rw [h, UInt32.ofNat_toNat]

@[simp] theorem u16Toks_num (x : UInt16) (r : List (Tok Key)) : u16Toks (.val (.num x.toNat) sep :: r) = x := by
  have h := toNat_wrapInt (m := 2 ^ 16) (by decide) x.toNat_lt
  show UInt16.ofNat ((wrapInt x.toNat) % ((2 ^ 16 : Nat) : Int)).toNat = x
  rw [h, UInt16.ofNat_toNat]

@[simp] theorem u8Toks_num (x : UInt8) (r : List (Tok Key)) : u8Toks (.val (.num x.toNat) sep :: r) = x := by
  have h := toNat_wrapInt (m := 2 ^ 8) (by decide) x.toNat_lt
  show UInt8.ofNat ((wrapInt x.toNat) % ((2 ^ 8 : Nat) : Int)).toNat = x
  rw [h, UInt8.ofNat_toNat]

theorem extractJsonU32_render (hs : Sound ts) (k : Key) (d : Nat) :
    extractJsonU32 (render ts) k.text d = (fieldAt k ts).elim (UInt32.ofNat ((d : Int) % 2 ^ 32).toNat) u32Toks := by
  rw [extractJsonU32, extractJsonInt_render hs]
  cases fieldAt k ts <;> rfl

theorem extractJsonU16_render (hs : Sound ts) (k : Key) (d : Nat) :
    extractJsonU16 (render ts) k.text d = (fieldAt k ts).elim (UInt16.ofNat ((d : Int) % 2 ^ 16).toNat) u16Toks := by
  rw [extractJsonU16, extractJsonInt_render hs]
  cases fieldAt k ts <;> rfl

theorem extractJsonU8_render (hs : Sound ts) (k : Key) (d : Nat) :
    extractJsonU8 (render ts) k.text d = (fieldAt k ts).elim (UInt8.ofNat ((d : Int) % 2 ^ 8).toNat) u8Toks := by
  rw [extractJsonU8, extractJsonInt_render hs]
  cases fieldAt k ts <;> rfl

end FluxWAN
