/-
  Base64 texts (`src/crypto_ed25519.c`: `crypto_base64_encode`, `crypto_base64_decode`; `src/proxy_manager.c`:
  `base64_decode`).

  One encoder and two decoders.  The encoder writes the digits of `Lib.Base64` and pads to a multiple of four with
  `=` (`encodeLoop_eq`).

  1. **The decoder of licence keys** works on groups of four.  It reads `=` as the digit 0, so padding turns into
     zero bytes, and it skips dashes before it looks at the table, in which a dash is the digit 62.
     `cryptoBase64Decode_eq_iff` says which texts it reads back.
  2. **The decoder of share links** is a bit accumulator; digits come one by one, and everything that is no digit is
     skipped.  Its register overflows on long texts, but only the bits that wait for their byte are ever looked at:
     `digitLoop_eq`.  It reads every text back, with noise or without (`base64Decode_inserted`).
-/
import Mathlib
import FluxWAN.License.Key
import FluxWAN.Lib.Base64

namespace FluxWAN.Crypto

open Base64 CString License

variable {d k : Nat} {text : CStr}

/-! ## The encoder -/

/-- `b64_table`. -/
def b64Table : CStr := "ABCDEFGHIJKLMNOPQRSTUVWXYZabcdefghijklmnopqrstuvwxyz0123456789+/".toList

/-- `b64_table[n]`. -/
def b64Char (n : Nat) : Char := b64Table.getD n '\x00'

/-- The four characters of a turn, with `rem` bytes left at its start. -/
def encodeGroup (rem : Nat) (a b c : UInt32) : CStr :=
  let triple := a <<< 16 ||| b <<< 8 ||| c
  [b64Char (triple >>> 18 &&& 0x3F).toNat, b64Char (triple >>> 12 &&& 0x3F).toNat,
    if rem > 1 then b64Char (triple >>> 6 &&& 0x3F).toNat else '=',
    if rem > 2 then b64Char (triple &&& 0x3F).toNat else '=']

/-- The loop of `crypto_base64_encode`. -/
def encodeLoop : List UInt8 → CStr
  | a :: b :: c :: s => encodeGroup (s.length + 3) a.toUInt32 b.toUInt32 c.toUInt32 ++ encodeLoop s
  | [a, b] => encodeGroup 2 a.toUInt32 b.toUInt32 0
  | [a] => encodeGroup 1 a.toUInt32 0 0
  | [] => []

/-- `crypto_base64_encode` into a `char [dstMax]`; `none` is its -1. -/
def cryptoBase64Encode (src : List UInt8) (dstMax : Nat) : Option CStr :=
  if 4 * ((src.length + 2) / 3) + 1 > dstMax then none else some (encodeLoop src)

/-- How many `=` close the text of `n` bytes. -/
def padding (n : Nat) : Nat := (3 - n % 3) % 3

/-- A group of three bytes as one number. -/
theorem toNat_triple (a b c : UInt8) :
    (a.toUInt32 <<< 16 ||| b.toUInt32 <<< 8 ||| c.toUInt32).toNat = a.toNat * 65536 + b.toNat * 256 + c.toNat := by
  have ha := a.toNat_lt
  have hb := b.toNat_lt
  have hc := c.toNat_lt
  have hbc : b.toNat <<< 8 ||| c.toNat = b.toNat * 256 + c.toNat := by
    rw [← Nat.shiftLeft_add_eq_or_of_lt hc, Nat.shiftLeft_eq]
  have hshift16 : (a.toUInt32 <<< 16).toNat = a.toNat <<< 16 := by
    rw [UInt32.toNat_shiftLeft]
    show a.toNat <<< 16 % 2 ^ 32 = _
    rw [Nat.shiftLeft_eq]
    omega
  have hshift8 : (b.toUInt32 <<< 8).toNat = b.toNat <<< 8 := by
    rw [UInt32.toNat_shiftLeft]
    show b.toNat <<< 8 % 2 ^ 32 = _
    rw [Nat.shiftLeft_eq]
    omega
  rw [UInt32.toNat_or, UInt32.toNat_or, hshift16, hshift8, UInt8.toNat_toUInt32, Nat.or_assoc, hbc,
    ← Nat.shiftLeft_add_eq_or_of_lt (by omega), Nat.shiftLeft_eq]
  omega

theorem toNat_sextet (t : UInt32) (k : UInt32) (hk : k.toNat < 32) :
    (t >>> k &&& 0x3F).toNat = t.toNat / 2 ^ k.toNat % 64 := by
  rw [UInt32.toNat_and, UInt32.toNat_shiftRight, Nat.mod_eq_of_lt hk, Nat.shiftRight_eq_div_pow]
  exact Nat.and_two_pow_sub_one_eq_mod _ 6

theorem toNat_low_sextet (t : UInt32) : (t &&& 0x3F).toNat = t.toNat % 64 := by
  rw [UInt32.toNat_and]
  exact Nat.and_two_pow_sub_one_eq_mod _ 6

/-- The characters of a group are those of its digits. -/
theorem encodeGroup_eq (a b c : UInt8) :
    encodeGroup rem a.toUInt32 b.toUInt32 c.toUInt32 =
      [b64Char (a.toNat / 4), b64Char (a.toNat % 4 * 16 + b.toNat / 16),
        if rem > 1 then b64Char (b.toNat % 16 * 4 + c.toNat / 64) else '=',
        if rem > 2 then b64Char (c.toNat % 64) else '='] := by
  have ha := a.toNat_lt
  have hb := b.toNat_lt
  have hc := c.toNat_lt
  have h₀ : (a.toNat * 65536 + b.toNat * 256 + c.toNat) / 2 ^ 18 % 64 = a.toNat / 4 := by omega
  have h₁ : (a.toNat * 65536 + b.toNat * 256 + c.toNat) / 2 ^ 12 % 64 = a.toNat % 4 * 16 + b.toNat / 16 := by
    omega
  have h₂ : (a.toNat * 65536 + b.toNat * 256 + c.toNat) / 2 ^ 6 % 64 = b.toNat % 16 * 4 + c.toNat / 64 := by
    omega
  have h₃ : (a.toNat * 65536 + b.toNat * 256 + c.toNat) % 64 = c.toNat % 64 := by omega
  rw [encodeGroup]
  rw [toNat_sextet _ 18 (by decide), toNat_sextet _ 12 (by decide), toNat_sextet _ 6 (by decide), toNat_low_sextet,
    toNat_triple]
  show [b64Char (_ / 2 ^ 18 % 64), b64Char (_ / 2 ^ 12 % 64), if _ then b64Char (_ / 2 ^ 6 % 64) else _, _] = _
  rw [h₀, h₁, h₂, h₃]

/-- **The encoder writes the digits, and the padding.** -/
theorem encodeLoop_eq (s : List UInt8) :
    encodeLoop s = (toDigits s).map b64Char ++ List.replicate (padding s.length) '=' := by
  induction s using encodeLoop.induct with
  | case1 a b c s ih =>
    have hpad : padding (a :: b :: c :: s).length = padding s.length := by
      rw [padding, padding, List.length_cons, List.length_cons, List.length_cons]
      omega
    rw [encodeLoop, ih, encodeGroup_eq, hpad, if_pos (by omega), if_pos (by omega)]
    rfl
  | case2 a b =>
    show encodeGroup 2 a.toUInt32 b.toUInt32 (0 : UInt8).toUInt32 = _
    rw [encodeGroup_eq]
    rfl
  | case3 a =>
    show encodeGroup 1 a.toUInt32 (0 : UInt8).toUInt32 (0 : UInt8).toUInt32 = _
    rw [encodeGroup_eq]
    rfl
  | case4 => rfl

/-! ## The characters -/

theorem b64CharVal_b64Char (h : d < 64) : b64CharVal (b64Char d) = some d := by
  have hall : ∀ d : Fin 64, b64CharVal (b64Char d) = some d.val := by decide +kernel
  exact hall ⟨d, h⟩

theorem isGap_b64Char (h : d < 64) : isGap (b64Char d) = false ∧ b64Char d ≠ '=' := by
  have hall : ∀ d : Fin 64, isGap (b64Char d) = false ∧ b64Char d ≠ '=' := by decide +kernel
  exact hall ⟨d, h⟩

theorem b64Char_inj_plus (h : d < 64) : (b64Char d = '+' ↔ d = 62) ∧ (b64Char d = '/' ↔ d = 63) := by
  have hall : ∀ d : Fin 64, (b64Char d = '+' ↔ d.val = 62) ∧ (b64Char d = '/' ↔ d.val = 63) := by decide +kernel
  exact hall ⟨d, h⟩

/-- `v` spells the character `c`: it is `c`, or its URL-safe form. -/
def Spells (v c : Char) : Prop := v = c ∨ v = '-' ∧ c = '+' ∨ v = '_' ∧ c = '/'

/-- A character that spells a digit is skipped, as a dash for the digit 62, or read. -/
theorem sextet_of_spells (hd : d < 64) (h : Spells v (b64Char d)) :
    v = '-' ∧ d = 62 ∨ isGap v = false ∧ v ≠ '-' ∧ sextet v = some d := by
  rcases h with rfl | ⟨rfl, hc⟩ | ⟨rfl, hc⟩
  · obtain ⟨hgap, hpad⟩ := isGap_b64Char hd
    refine .inr ⟨hgap, fun hdash => ?_, ?_⟩
    · rw [hdash] at hgap
      cases hgap
    · rw [sextet, if_neg hpad]
      exact b64CharVal_b64Char hd
  · exact .inl ⟨rfl, (b64Char_inj_plus hd).1.mp hc⟩
  · rw [(b64Char_inj_plus hd).2.mp hc]
    exact .inr (by decide)

/-! ## The decoder of licence keys -/

/-- The digits that the decoder reads. -/
def readDigits (text : CStr) : List Nat := (text.filter (!isGap ·)).filterMap sextet

/-- Characters that are skipped or read. -/
def Readable (text : CStr) : Prop := ∀ c ∈ text, isGap c = false → ∃ d < 64, sextet c = some d

theorem readDigits_append : readDigits (t₁ ++ t₂) = readDigits t₁ ++ readDigits t₂ := by
  rw [readDigits, List.filter_append, List.filterMap_append]
  rfl

theorem groupBytes_eq (h₁ : d₁ < 64) :
    (∀ d₂ < 64, ∀ d₃ < 64, groupBytes (some d₀) (some d₁) (some d₂) (some d₃) = some (ofDigits [d₀, d₁, d₂, d₃])) ∧
      (∀ d₂ < 64, groupBytes (some d₀) (some d₁) (some d₂) none = some (ofDigits [d₀, d₁, d₂])) ∧
      groupBytes (some d₀) (some d₁) none none = some (ofDigits [d₀, d₁]) := by
  have hfirst : d₀ <<< 2 ||| d₁ >>> 4 = d₀ * 4 + d₁ / 16 := by
    rw [Nat.shiftRight_eq_div_pow, ← Nat.shiftLeft_add_eq_or_of_lt (by omega), Nat.shiftLeft_eq]
  have hsecond : ∀ d₂ < 64, (d₁ &&& 0x0F) <<< 4 ||| d₂ >>> 2 = d₁ % 16 * 16 + d₂ / 4 := by
    intro d₂ h₂
    rw [Nat.shiftRight_eq_div_pow, ← Nat.shiftLeft_add_eq_or_of_lt (by omega), Nat.shiftLeft_eq,
      show d₁ &&& 0x0F = d₁ % 16 from Nat.and_two_pow_sub_one_eq_mod _ 4]
  have hthird : ∀ d₂ < 64, ∀ d₃ < 64, (d₂ &&& 0x03) <<< 6 ||| d₃ = d₂ % 4 * 64 + d₃ := by
    intro d₂ h₂ d₃ h₃
    rw [← Nat.shiftLeft_add_eq_or_of_lt (by omega), Nat.shiftLeft_eq,
      show d₂ &&& 0x03 = d₂ % 4 from Nat.and_two_pow_sub_one_eq_mod _ 2]
  refine ⟨fun d₂ h₂ d₃ h₃ => ?_, fun d₂ h₂ => ?_, ?_⟩
  · show some [UInt8.ofNat _, UInt8.ofNat _, UInt8.ofNat ((d₂ &&& 0x03) <<< 6 ||| d₃)] = _
    rw [hfirst, hsecond d₂ h₂, hthird d₂ h₂ d₃ h₃]
    rfl
  · show some [UInt8.ofNat _, UInt8.ofNat _] = _
    rw [hfirst, hsecond d₂ h₂]
    rfl
  · show some [UInt8.ofNat _] = _
    rw [hfirst]
    rfl

/-- The loop on groups reads the bytes of the digits. -/
theorem base64Groups_eq (h : ∀ c ∈ text, ∃ d < 64, sextet c = some d) :
    base64Groups text = ofDigits (text.filterMap sextet) := by
  induction text using base64Groups.induct with
  | case1 c₀ c₁ c₂ c₃ s ih =>
    simp only [List.forall_mem_cons] at h
    obtain ⟨⟨d₀, -, e₀⟩, ⟨d₁, h₁, e₁⟩, ⟨d₂, h₂, e₂⟩, ⟨d₃, h₃, e₃⟩, hs⟩ := h
    rw [base64Groups, e₀, e₁, e₂, e₃, (groupBytes_eq h₁).1 d₂ h₂ d₃ h₃, ih hs]
    simp [e₀, e₁, e₂, e₃, ofDigits]
  | case2 c₀ c₁ c₂ =>
    simp only [List.forall_mem_cons] at h
    obtain ⟨⟨d₀, -, e₀⟩, ⟨d₁, h₁, e₁⟩, ⟨d₂, h₂, e₂⟩, -⟩ := h
    rw [base64Groups, e₀, e₁, e₂, (groupBytes_eq h₁).2.1 d₂ h₂]
    simp [e₀, e₁, e₂]
  | case3 c₀ c₁ =>
    simp only [List.forall_mem_cons] at h
    obtain ⟨⟨d₀, -, e₀⟩, ⟨d₁, h₁, e₁⟩, -⟩ := h
    rw [base64Groups, e₀, e₁, (groupBytes_eq h₁).2.2]
    simp [e₀, e₁]
  | case4 text h₄ h₃ h₂ =>
    rcases text with _ | ⟨c₀, _ | ⟨c₁, _ | ⟨c₂, _ | ⟨c₃, s⟩⟩⟩⟩
    · rfl
    · obtain ⟨d, -, e⟩ := h c₀ List.mem_cons_self
      simp [base64Groups, e, ofDigits]
    · exact absurd rfl (h₂ c₀ c₁)
    · exact absurd rfl (h₃ c₀ c₁ c₂)
    · exact absurd rfl (h₄ c₀ c₁ c₂ c₃ s)

theorem cryptoBase64Decode_eq (h : Readable text) :
    cryptoBase64Decode text dstMax = (ofDigits (readDigits text)).take dstMax := by
  rw [cryptoBase64Decode, base64Groups_eq]
  · rfl
  · intro c hc
    obtain ⟨hmem, hgap⟩ := List.mem_filter.mp hc
    exact h c hmem (by simpa using hgap)

/-- What the decoder makes of characters that spell digits: each dash is one digit 62 less. -/
theorem readDigits_of_spells {digits : List Nat} (hlt : ∀ d ∈ digits, d < 64)
    (h : List.Forall₂ Spells text (digits.map b64Char)) :
    Readable text ∧ (readDigits text).length + text.count '-' = digits.length ∧
      (readDigits text).count 62 + text.count '-' = digits.count 62 ∧
      (∀ d ∈ readDigits text, d < 64) ∧ ('-' ∉ text → readDigits text = digits) := by
  induction digits generalizing text with
  | nil =>
    obtain rfl := List.forall₂_nil_right_iff.mp h
    simp [Readable, readDigits]
  | cons d digits ih =>
    rw [List.map_cons] at h
    obtain ⟨v, text, hv, htext, rfl⟩ := List.forall₂_cons_right_iff.mp h
    obtain ⟨hread, hlen, hcount, hbound, hsame⟩ := ih (fun d' hd' => hlt d' (List.mem_cons_of_mem _ hd')) htext
    rcases sextet_of_spells (hlt d List.mem_cons_self) hv with ⟨rfl, rfl⟩ | ⟨hgap, hdash, hd⟩
    · -- a dash
      have hskip : readDigits ('-' :: text) = readDigits text := rfl
      rw [hskip, List.count_cons_self, List.count_cons_self, List.length_cons]
      refine ⟨?_, by omega, by omega, hbound, fun hno => absurd List.mem_cons_self hno⟩
      exact List.forall_mem_cons.mpr ⟨fun hgap => Bool.noConfusion hgap, hread⟩
    · have hdigit : readDigits (v :: text) = d :: readDigits text := by
        rw [readDigits, List.filter_cons_of_pos (by rw [hgap]; rfl), List.filterMap_cons_some hd]
        rfl
      have hbound' : d < 64 := hlt d List.mem_cons_self
      rw [hdigit, List.count_cons_of_ne hdash, List.length_cons, List.length_cons, List.count_cons, List.count_cons]
      refine ⟨?_, by omega, by omega, List.forall_mem_cons.mpr ⟨hbound', hbound⟩, fun hno => ?_⟩
      · exact List.forall_mem_cons.mpr ⟨fun _ => ⟨d, hbound', hd⟩, hread⟩
      · rw [hsame fun hmem => hno (List.mem_cons_of_mem _ hmem)]

/-- Padding is spelt as it is, and read as zeros. -/
theorem readDigits_padding (h : List.Forall₂ Spells text (List.replicate n '=')) :
    Readable text ∧ readDigits text = List.replicate n 0 ∧ '-' ∉ text := by
  have htext : text = List.replicate n '=' := by
    induction n generalizing text with
    | zero => exact List.forall₂_nil_right_iff.mp h
    | succ n ih =>
      obtain ⟨v, text, hv, htext, rfl⟩ := List.forall₂_cons_right_iff.mp h
      rw [ih htext, List.replicate_succ]
      rcases hv with rfl | ⟨-, hc⟩ | ⟨-, hc⟩
      · rfl
      · exact absurd hc (by decide)
      · exact absurd hc (by decide)
  subst htext
  refine ⟨fun c hc _ => ?_, ?_, fun hmem => ?_⟩
  · rw [List.eq_of_mem_replicate hc]
    exact ⟨0, by decide, rfl⟩
  · rw [readDigits, List.filter_replicate_of_pos (by rfl), List.filterMap_replicate_of_some (by rfl)]
  · exact absurd (List.eq_of_mem_replicate hmem) (by decide)

theorem take_eq_iff {α : Type} {l s : List α} (h : s.length ≤ m) :
    l.take m = s ↔ l.take s.length = s ∧ min m l.length = s.length := by
  constructor
  · intro heq
    refine ⟨?_, by rw [← List.length_take, heq]⟩
    rw [← Nat.min_eq_left h, ← List.take_take, heq, List.take_length]
  · rintro ⟨heq, hlen⟩
    -- nothing stands behind the first bytes
    have hshort : (l.take m).length = s.length := by rw [List.length_take, hlen]
    rw [← List.take_length (l := l.take m), hshort, List.take_take, Nat.min_eq_left h, heq]

/-- A dash spoils the text: the digits that are left are too few, or they are other ones. -/
theorem take_ofDigits_ne {s : List UInt8} {digits : List Nat} (hk : 0 < k)
    (hlt : ∀ d ∈ digits, d < 64) (hlen : digits.length + k = (toDigits s).length)
    (hcount : digits.count 62 + k = (toDigits s).count 62) (n : Nat) :
    (ofDigits (digits ++ List.replicate n 0)).take s.length ≠ s := by
  intro heq
  have hlength : (digits ++ List.replicate n 0).length = digits.length + n := by
    rw [List.length_append, List.length_replicate]
  have hdigits := length_toDigits s
  have hbytes : s.length ≤ 3 * (digits.length + n) / 4 := by
    have hle := congrArg List.length heq
    rw [List.length_take, length_ofDigits, hlength] at hle
    omega
  have henough : k ≤ n := by omega
  -- the digits that the bytes come from, which are as many as those of the text
  have htake : (digits ++ List.replicate n 0).take ((4 * s.length + 2) / 3) = digits ++ List.replicate k 0 := by
    rw [List.take_append, List.take_of_length_le (by omega), List.take_replicate]
    congr 2
    omega
  rw [take_ofDigits _ (by omega), htake] at heq
  obtain ⟨j, rfl⟩ := Nat.exists_eq_add_one_of_ne_zero (Nat.ne_of_gt hk)
  have hcanonical : Canonical (digits ++ List.replicate (j + 1) 0) := by
    rw [List.replicate_succ', ← List.append_assoc]
    apply canonical_concat_zero
    rw [List.length_append, List.length_replicate]
    omega
  have hbound : ∀ d ∈ digits ++ List.replicate (j + 1) 0, d < 64 := by
    intro d hd
    rcases List.mem_append.mp hd with hd | hd
    · exact hlt d hd
    · rw [List.eq_of_mem_replicate hd]
      decide
  have hsame := toDigits_ofDigits hbound hcanonical
  rw [heq] at hsame
  rw [hsame, List.count_append, List.count_replicate] at hcount
  exact absurd hcount (by simp)

/-- Padded digits make as many zero bytes as there is padding. -/
theorem length_padded (n : Nat) : 3 * ((4 * n + 2) / 3 + padding n) / 4 = n + padding n := by
  rw [padding]
  rcases (by omega : n % 3 = 0 ∨ n % 3 = 1 ∨ n % 3 = 2) with h | h | h <;> rw [h] <;> omega

/-- **Which texts the decoder of licence keys reads back**: those of a multiple of three bytes (or into a buffer that
    is full before the zeros come), spelt without a dash. -/
theorem cryptoBase64Decode_eq_iff {s : List UInt8} {text spelt : CStr} {dstMax outMax : Nat}
    (hencode : cryptoBase64Encode s dstMax = some text) (hspelt : List.Forall₂ Spells spelt text)
    (hroom : s.length ≤ outMax) :
    cryptoBase64Decode spelt outMax = s ↔ '-' ∉ spelt ∧ (s.length % 3 = 0 ∨ outMax = s.length) := by
  have htext : text = (toDigits s).map b64Char ++ List.replicate (padding s.length) '=' := by
    rw [cryptoBase64Encode] at hencode
    split at hencode
    · cases hencode
    · rw [← encodeLoop_eq, Option.some.inj hencode]
  rw [htext] at hspelt
  obtain ⟨hread₁, hlen, hcount, hbound, hsame⟩ :=
    readDigits_of_spells toDigits_lt (List.forall₂_take_append _ _ _ hspelt)
  obtain ⟨hread₂, hzeros, hnodash⟩ := readDigits_padding (List.forall₂_drop_append _ _ _ hspelt)
  rw [List.length_map] at *
  rw [← List.take_append_drop (toDigits s).length spelt]
  generalize spelt.take (toDigits s).length = t₁ at *
  generalize spelt.drop (toDigits s).length = t₂ at *
  have hread : Readable (t₁ ++ t₂) := List.forall_mem_append.mpr ⟨hread₁, hread₂⟩
  rw [cryptoBase64Decode_eq hread, readDigits_append, hzeros, take_eq_iff hroom]
  by_cases hdash : '-' ∈ t₁
  · have hk : 0 < t₁.count '-' := List.count_pos_iff.mpr hdash
    refine iff_of_false (fun h => ?_) (fun h => h.1 (List.mem_append_left _ hdash))
    exact take_ofDigits_ne hk hbound hlen hcount _ h.1
  · have hno : '-' ∉ t₁ ++ t₂ := fun hmem => (List.mem_append.mp hmem).elim hdash hnodash
    have hdigits := length_toDigits s
    have hbytes : (ofDigits (toDigits s ++ List.replicate (padding s.length) 0)).take s.length = s := by
      rw [take_ofDigits _ (by rw [List.length_append]; omega), ← hdigits, List.take_left, ofDigits_toDigits]
    rw [hsame hdash, and_iff_right hbytes, and_iff_right hno, length_ofDigits, List.length_append,
      List.length_replicate, hdigits, length_padded]
    have hpadding : padding s.length = 0 ↔ s.length % 3 = 0 := by
      rw [padding]
      omega
    omega

/-- Three bytes that are read back. -/
theorem cryptoBase64Decode_eq_iff_man :
    cryptoBase64Decode "TWFu".toList 16 = [0x4D, 0x61, 0x6E] := by
  have hspelt : List.Forall₂ Spells "TWFu".toList "TWFu".toList :=
    List.forall₂_same.mpr fun c _ => .inl rfl
  have hencode : cryptoBase64Encode [0x4D, 0x61, 0x6E] 16 = some "TWFu".toList := by decide
  exact (cryptoBase64Decode_eq_iff hencode hspelt (by decide)).mpr ⟨by decide, .inl rfl⟩

/-- One byte comes back with two zeros; three bytes in the URL-safe alphabet come back as one. -/
theorem padding_read_as_zeros :
    cryptoBase64Encode [0x4D] 16 = some "TQ==".toList ∧ cryptoBase64Decode "TQ==".toList 16 = [0x4D, 0, 0] ∧
      cryptoBase64Encode [0xFB, 0xEF, 0x41] 16 = some "++9B".toList ∧
      List.Forall₂ Spells "--9B".toList "++9B".toList ∧ cryptoBase64Decode "--9B".toList 16 = [0xF4] := by
  refine ⟨by decide, by decide, by decide, ?_, by decide⟩
  exact .cons (.inr (.inl ⟨rfl, rfl⟩)) (.cons (.inr (.inl ⟨rfl, rfl⟩)) (.cons (.inl rfl) (.cons (.inl rfl) .nil)))

/-! ## The decoder of share links -/

/-- The alphabets: the standard one, and the two other characters of the URL-safe one. -/
def InAlphabet (c : Char) : Prop := c ∈ b64Table ∨ c = '-' ∨ c = '_'

theorem b64CharVal_isSome (h : (b64CharVal c).isSome) : InAlphabet c := by
  have hall : ∀ n < 128, (b64CharVal (Char.ofNat n)).isSome →
      Char.ofNat n ∈ b64Table ∨ Char.ofNat n = '-' ∨ Char.ofNat n = '_' := by decide +kernel
  have hascii : c.toNat < 128 := by
    show c.val.toNat < 128
    rw [b64CharVal] at h
    split_ifs at h with hupper hlower hdigit hplus hslash
    · simp only [Char.isUpper, decide_eq_true_eq, UInt32.le_iff_toNat_le] at hupper
      exact Nat.lt_of_le_of_lt hupper.2 (by decide)
    · simp only [Char.isLower, Bool.and_eq_true, decide_eq_true_eq, UInt32.le_iff_toNat_le] at hlower
      exact Nat.lt_of_le_of_lt hlower.2 (by decide)
    · simp only [Char.isDigit, Bool.and_eq_true, decide_eq_true_eq, UInt32.le_iff_toNat_le] at hdigit
      exact Nat.lt_of_le_of_lt hdigit.2 (by decide)
    · simp only [Bool.or_eq_true, decide_eq_true_eq] at hplus
      rcases hplus with rfl | rfl <;> decide
    · simp only [Bool.or_eq_true, decide_eq_true_eq] at hslash
      rcases hslash with rfl | rfl <;> decide
    · cases h
  have hc := hall c.toNat hascii
  rw [Char.ofNat_toNat] at hc
  exact hc h

theorem b64CharVal_of_not_inAlphabet (h : ¬ InAlphabet c) : b64CharVal c = none := by
  rcases hval : b64CharVal c with _ | d
  · rfl
  · exact absurd (b64CharVal_isSome (by rw [hval]; rfl)) h

/-- The loop of `base64_decode` on the digits alone. -/
def digitLoop : List Nat → UInt32 → Nat → List Char
  | [], _, _ => []
  | d :: ds, val, bits =>
    let val := (val <<< 6) ||| UInt32.ofNat d
    if 8 ≤ bits + 6 then
      Char.ofNat ((val >>> UInt32.ofNat (bits + 6 - 8)) &&& 0xFF).toNat :: digitLoop ds val (bits + 6 - 8)
    else digitLoop ds val (bits + 6)

/-- What is no digit changes nothing. -/
theorem base64Loop_eq (text : CStr) (val : UInt32) (bits : Nat) :
    base64Loop text val bits = digitLoop (text.filterMap b64CharVal) val bits := by
  induction text generalizing val bits with
  | nil => rfl
  | cons c text ih =>
    have hskip : (if c = '=' || isspace c then none else b64CharVal c) = b64CharVal c := by
      split
      case isTrue h =>
        simp only [isspace, Bool.or_eq_true, decide_eq_true_eq, or_assoc] at h
        rcases h with rfl | rfl | rfl | rfl | rfl | rfl | rfl <;> rfl
      case isFalse => rfl
    rw [base64Loop, hskip]
    rcases hval : b64CharVal c with _ | d
    · rw [List.filterMap_cons_none hval]
      exact ih val bits
    · rw [List.filterMap_cons_some hval, digitLoop]
      dsimp only
      rw [ih, ih]

/-- The register after one more digit. -/
theorem toNat_push (val : UInt32) (h : d < 64) :
    (val <<< 6 ||| UInt32.ofNat d).toNat = (val.toNat * 64 + d) % 2 ^ 32 := by
  have hshift : (val <<< 6).toNat = (val.toNat % 2 ^ 26) <<< 6 := by
    rw [UInt32.toNat_shiftLeft]
    show val.toNat <<< 6 % 2 ^ 32 = _
    rw [Nat.shiftLeft_eq, Nat.shiftLeft_eq]
    omega
  rw [UInt32.toNat_or, hshift, UInt32.toNat_ofNat_of_lt' (Nat.lt_trans h (by decide)),
    ← Nat.shiftLeft_add_eq_or_of_lt h, Nat.shiftLeft_eq]
  omega

theorem toNat_byte (val : UInt32) (h : k < 32) :
    ((val >>> UInt32.ofNat k) &&& 0xFF).toNat = val.toNat / 2 ^ k % 256 := by
  have hk : (UInt32.ofNat k).toNat = k := UInt32.toNat_ofNat_of_lt' (Nat.lt_trans h (by decide))
  rw [UInt32.toNat_and, UInt32.toNat_shiftRight, hk, Nat.mod_eq_of_lt h, Nat.shiftRight_eq_div_pow]
  exact Nat.and_two_pow_sub_one_eq_mod _ 8

/-- A byte leaves the register after the digits `d` and `e`, with `k` bits behind it. -/
theorem pushed_byte (val : UInt32) (hd : d < 64) (he : e < 64) (hk : k < 32) (hb : b < 256)
    (h : ((val.toNat * 64 + d) % 2 ^ 32 * 64 + e) % 2 ^ 32 / 2 ^ k % 256 = b) :
    Char.ofNat ((((val <<< 6 ||| UInt32.ofNat d) <<< 6 ||| UInt32.ofNat e) >>> UInt32.ofNat k) &&& 0xFF).toNat =
      Char.ofNat (UInt8.ofNat b).toNat := by
  rw [toNat_byte _ hk, toNat_push _ he, toNat_push _ hd, h, UInt8.toNat_ofNat_of_lt' hb]

/-- **The accumulator gives the bytes of the digits**, whatever the register held. -/
theorem digitLoop_eq (h : ∀ d ∈ ds, d < 64) (val : UInt32) :
    digitLoop ds val 0 = (ofDigits ds).map fun b => Char.ofNat b.toNat := by
  induction ds using ofDigits.induct generalizing val with
  | case1 d₀ d₁ d₂ d₃ ds ih =>
    -- four digits are three bytes, and none of their bits are left waiting
    simp only [List.forall_mem_cons] at h
    obtain ⟨h₀, h₁, h₂, h₃, h⟩ := h
    show Char.ofNat _ :: Char.ofNat _ :: Char.ofNat _ :: digitLoop ds _ 0 = _
    rw [pushed_byte (k := 4) (b := d₀ * 4 + d₁ / 16) _ h₀ h₁ (by decide) (by omega) (by omega),
      pushed_byte (k := 2) (b := d₁ % 16 * 16 + d₂ / 4) _ h₁ h₂ (by decide) (by omega) (by omega),
      pushed_byte (k := 0) (b := d₂ % 4 * 64 + d₃) _ h₂ h₃ (by decide) (by omega) (by omega), ih h]
    rfl
  | case2 d₀ d₁ d₂ =>
    simp only [List.forall_mem_cons] at h
    obtain ⟨h₀, h₁, h₂, -⟩ := h
    show [Char.ofNat _, Char.ofNat _] = _
    rw [pushed_byte (k := 4) (b := d₀ * 4 + d₁ / 16) _ h₀ h₁ (by decide) (by omega) (by omega),
      pushed_byte (k := 2) (b := d₁ % 16 * 16 + d₂ / 4) _ h₁ h₂ (by decide) (by omega) (by omega)]
    rfl
  | case3 d₀ d₁ =>
    simp only [List.forall_mem_cons] at h
    obtain ⟨h₀, h₁, -⟩ := h
    show [Char.ofNat _] = _
    rw [pushed_byte (k := 4) (b := d₀ * 4 + d₁ / 16) _ h₀ h₁ (by decide) (by omega) (by omega)]
    rfl
  | case4 | case5 => rfl

/-- Characters outside the alphabets put anywhere into a text. -/
inductive Inserted : CStr → CStr → Prop where
  | nil : Inserted [] []
  | keep (c : Char) {s t : CStr} : Inserted s t → Inserted (c :: s) (c :: t)
  | noise (c : Char) {s t : CStr} : ¬ InAlphabet c → Inserted s t → Inserted s (c :: t)

/-- Noise is no digit. -/
theorem filterMap_inserted {clean noisy : CStr} (h : Inserted clean noisy) :
    noisy.filterMap b64CharVal = clean.filterMap b64CharVal := by
  induction h with
  | nil => rfl
  | keep c _ ih => rw [List.filterMap_cons, List.filterMap_cons, ih]
  | noise c hc _ ih => rw [List.filterMap_cons_none (b64CharVal_of_not_inAlphabet hc), ih]

/-- The digits of a text, with its padding and without. -/
theorem filterMap_encodeLoop (s : List UInt8) :
    (encodeLoop s).filterMap b64CharVal = toDigits s ∧
      ((encodeLoop s).takeWhile (· ≠ '=')).filterMap b64CharVal = toDigits s := by
  have hdigits : ((toDigits s).map b64Char).filterMap b64CharVal = toDigits s := by
    rw [List.filterMap_map]
    refine (List.filterMap_congr fun d hd => ?_).trans List.filterMap_some
    exact b64CharVal_b64Char (toDigits_lt d hd)
  have hpadding : (List.replicate (padding s.length) '=').filterMap b64CharVal = [] :=
    List.filterMap_eq_nil_iff.mpr fun c hc => by rw [List.eq_of_mem_replicate hc]; rfl
  have hbody : ∀ c ∈ (toDigits s).map b64Char, decide (c ≠ '=') = true := by
    intro c hc
    obtain ⟨d, hd, rfl⟩ := List.mem_map.mp hc
    exact decide_eq_true (isGap_b64Char (toDigits_lt d hd)).2
  have hstop : (List.replicate (padding s.length) '=').takeWhile (· ≠ '=') = [] := by
    cases padding s.length <;> rfl
  rw [encodeLoop_eq]
  constructor
  · rw [List.filterMap_append, hdigits, hpadding, List.append_nil]
  · rw [List.takeWhile_append_of_pos hbody, hstop, List.append_nil, hdigits]

/-- **The decoder of share links reads every text back**, whatever was put between its characters. -/
theorem base64Decode_inserted {s : List UInt8} {text clean noisy : CStr} {dstMax maxOut : Nat}
    (hencode : cryptoBase64Encode s dstMax = some text) (hclean : clean = text ∨ clean = text.takeWhile (· ≠ '='))
    (hnoise : Inserted clean noisy) (hroom : s.length < maxOut) :
    base64Decode maxOut noisy = s.map fun b => Char.ofNat b.toNat := by
  have htext : text = encodeLoop s := by
    rw [cryptoBase64Encode] at hencode
    split at hencode
    · cases hencode
    · exact (Option.some.inj hencode).symm
  have hdigits : clean.filterMap b64CharVal = toDigits s := by
    rcases hclean with rfl | rfl
    · rw [htext]
      exact (filterMap_encodeLoop s).1
    · rw [htext]
      exact (filterMap_encodeLoop s).2
  rw [base64Decode, base64Loop_eq, filterMap_inserted hnoise, hdigits, digitLoop_eq toDigits_lt, ofDigits_toDigits,
    List.take_of_length_le]
  rw [List.length_map]
  omega

/-- One byte, with a blank in its text and without the padding. -/
theorem base64Decode_inserted_blank : base64Decode 8 "T Q".toList = ['M'] := by
  have hencode : cryptoBase64Encode [0x4D] 16 = some "TQ==".toList := by decide
  have hblank : ¬ InAlphabet ' ' := by
    rw [InAlphabet]
    decide
  have hnoise : Inserted ("TQ==".toList.takeWhile (· ≠ '=')) "T Q".toList :=
    .keep 'T' (.noise ' ' hblank (.keep 'Q' .nil))
  exact base64Decode_inserted hencode (.inr rfl) hnoise (by decide)

end FluxWAN.Crypto
