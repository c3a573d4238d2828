/-
  Numbers written by `printf` and read back by the C library.

  `CString` has the readers (`atoi`, `inet_pton`) and the writer of `%u`; `CFloat` has `atof`.  Here are
  the missing halves (`strtoull`, `%.1f`) and the round trips.  A number in a text is always followed by
  something, so every lemma carries the rest of the text; the only thing that matters about it is that it
  does not go on with a digit (`NumberEnds`).

  * `atoi_showNat`, `toNat_wrapInt` — `(uint32_t) atoi` undoes `%u` for ALL 32-bit numbers: the ones from
    2 ^ 31 on turn negative in `atoi` and come back in the cast;
  * `strtoull_showNat` — the same for `%llu`;
  * `inetPton4_dotted` — `inet_pton` undoes a dotted quad;
  * `atof_showTenths`  — `atof` of a `%.1f` is the double nearest to the tenths printed.
-/
import FluxWAN.Lib.CFloat

namespace FluxWAN.CString

/-- The text does not start with a digit. -/
def NumberEnds (r : CStr) : Prop := ∀ c ∈ r.head?, c.isDigit = false

theorem numberEnds_cons {c : Char} (hc : c.isDigit = false) : NumberEnds (c :: r) := by
  intro c' h
  obtain rfl : c = c' := by simpa using h
  exact hc

/-! ## Digits -/

theorem showNat_ne_nil (n : Nat) : showNat n ≠ [] := Nat.toDigits_ne_nil

theorem isDigit_of_mem_showNat {c : Char} (hc : c ∈ showNat n) : c.isDigit = true :=
  Nat.isDigit_of_mem_toDigits (by decide) (by decide) hc

/-- A printed number starts with a digit. -/
theorem showNat_eq_cons (n : Nat) : ∃ c ds, showNat n = c :: ds ∧ c.isDigit = true := by
  cases h : showNat n with
  | nil => exact absurd h (showNat_ne_nil n)
  | cons c ds => exact ⟨c, ds, rfl, isDigit_of_mem_showNat (h ▸ List.mem_cons_self)⟩

theorem ne_of_isDigit {c d : Char} (hc : c.isDigit = true) (hd : d.isDigit = false) : c ≠ d := by
  rintro rfl
  rw [hc] at hd
  exact absurd hd (by decide)

theorem not_isspace_of_isDigit {c : Char} (hc : c.isDigit = true) : isspace c = false := by
  have h (d : Char) (hd : d.isDigit = false) : c ≠ d := ne_of_isDigit hc hd
  simp [isspace, h ' ' rfl, h '\t' rfl, h '\n' rfl, h '\x0b' rfl, h '\x0c' rfl, h '\r' rfl]

theorem digitsVal_digits (hds : ∀ c ∈ ds, c.isDigit = true) (r : CStr) :
    ∀ acc, digitsVal (ds ++ r) acc = digitsVal r (Nat.ofDigitChars 10 ds acc) := by
  induction ds with
  | nil => intro acc; rfl
  | cons c ds ih =>
    intro acc
    have hc : c.isDigit = true := hds c List.mem_cons_self
    have ih := ih fun d hd => hds d (List.mem_cons_of_mem c hd)
    rw [List.cons_append, digitsVal, if_pos hc, ih, Nat.ofDigitChars_cons, Nat.mul_comm 10 acc]
    rfl

theorem digitsVal_of_numberEnds (hr : NumberEnds r) : digitsVal r acc = acc := by
  cases r with
  | nil => rfl
  | cons c r => rw [digitsVal, hr c rfl]; rfl

theorem digitsVal_showNat (n : Nat) (hr : NumberEnds r) : digitsVal (showNat n ++ r) 0 = n := by
  rw [digitsVal_digits (fun c hc => isDigit_of_mem_showNat hc), digitsVal_of_numberEnds hr]
  exact Nat.ofDigitChars_ten_toDigits

/-! ## `%u` and `atoi` -/

/-- Digits have neither white space nor a sign in front. -/
theorem digits_open (hne : ds ≠ []) (hds : ∀ c ∈ ds, c.isDigit = true) (r : CStr) :
    ∃ c t, ds ++ r = c :: t ∧ isspace c = false ∧ c ≠ '-' ∧ c ≠ '+' := by
  obtain ⟨c, ds, rfl⟩ := List.exists_cons_of_ne_nil hne
  have hc := hds c List.mem_cons_self
  exact ⟨c, ds ++ r, rfl, not_isspace_of_isDigit hc, ne_of_isDigit hc rfl, ne_of_isDigit hc rfl⟩

theorem strtol_digits (hne : ds ≠ []) (hds : ∀ c ∈ ds, c.isDigit = true) (hr : NumberEnds r) :
    strtol (ds ++ r) = min (2 ^ 63 - 1) (Nat.ofDigitChars 10 ds 0 : Int) := by
  have hval : digitsVal (ds ++ r) 0 = Nat.ofDigitChars 10 ds 0 := by
    rw [digitsVal_digits hds, digitsVal_of_numberEnds hr]
  obtain ⟨c, t, hcons, hspace, hminus, hplus⟩ := digits_open hne hds r
  rw [hcons] at hval ⊢
  rw [strtol, List.dropWhile_cons, hspace]
  split
  · rename_i heq; exact absurd (List.cons.inj heq).1 hminus
  · rename_i heq; exact absurd (List.cons.inj heq).1 hplus
  · exact congrArg (fun m : Nat => min (2 ^ 63 - 1 : Int) m) hval

/-- What `atoi` makes of a printed number: it saturates as a `long`, then wraps as an `int`. -/
def wrapInt (n : Nat) : Int := (min (2 ^ 63 - 1) (n : Int)).bmod (2 ^ 32)

theorem atoi_showNat (n : Nat) (hr : NumberEnds r) : atoi (showNat n ++ r) = wrapInt n := by
  rw [atoi, strtol_digits (showNat_ne_nil n) (fun c hc => isDigit_of_mem_showNat hc) hr, showNat,
    Nat.ofDigitChars_ten_toDigits, wrapInt]

/-- The wrapped number is the number again in any narrower unsigned type that holds it. -/
theorem toNat_wrapInt (hm : m ∣ 2 ^ 32) (hn : n < m) : ((wrapInt n) % (m : Int)).toNat = n := by
  have hle : m ≤ 2 ^ 32 := Nat.le_of_dvd (by decide) hm
  have hmin : min (2 ^ 63 - 1) (n : Int) = n := by omega
  have hmod : (wrapInt n) % (m : Int) = (n : Int) % m := by
    rw [wrapInt, hmin, ← Int.emod_emod_of_dvd _ (Int.natCast_dvd_natCast.mpr hm), Int.bmod_emod,
      Int.emod_emod_of_dvd _ (Int.natCast_dvd_natCast.mpr hm)]
  rw [hmod, ← Int.natCast_emod, Int.toNat_natCast, Nat.mod_eq_of_lt hn]

/-! ## `%llu` and `strtoull` -/

/-- `strtoull (s, NULL, 10)`: saturating, a minus sign negates modulo 2 ^ 64. -/
def strtoull (s : CStr) : UInt64 :=
  match s.dropWhile isspace with
  | '-' :: t => 0 - UInt64.ofNat (min (2 ^ 64 - 1) (digitsVal t 0))
  | '+' :: t => UInt64.ofNat (min (2 ^ 64 - 1) (digitsVal t 0))
  | t => UInt64.ofNat (min (2 ^ 64 - 1) (digitsVal t 0))

theorem strtoull_showNat (n : Nat) (hr : NumberEnds r) :
    strtoull (showNat n ++ r) = UInt64.ofNat (min (2 ^ 64 - 1) n) := by
  have hval := digitsVal_showNat n hr
  obtain ⟨c, t, hcons, hspace, hminus, hplus⟩ := digits_open (showNat_ne_nil n) (fun c hc => isDigit_of_mem_showNat hc) r
  rw [hcons] at hval ⊢
  rw [strtoull, List.dropWhile_cons, hspace]
  split
  · rename_i heq; exact absurd (List.cons.inj heq).1 hminus
  · rename_i heq; exact absurd (List.cons.inj heq).1 hplus
  · exact congrArg (fun m => UInt64.ofNat (min (2 ^ 64 - 1) m)) hval

/-! ## Dotted quads -/

/-- A positive number starts with a digit other than 0. -/
theorem showNat_of_pos (n : Nat) : 0 < n →
    ∃ d ds, showNat n = d :: ds ∧ d.isDigit = true ∧ (∀ c ∈ ds, c.isDigit = true) ∧
      0 < d.toNat - 48 := by
  induction n using Nat.strongRecOn with
  | ind n ih =>
    intro hn
    by_cases hlt : n < 10
    · have hshow : showNat n = [n.digitChar] := Nat.toDigits_of_lt_base hlt
      refine ⟨n.digitChar, [], hshow, isDigit_of_mem_showNat (hshow ▸ List.mem_singleton_self _),
        fun c hc => absurd hc List.not_mem_nil, ?_⟩
      exact (by decide : ∀ m < 10, 0 < m → 0 < (Nat.digitChar m).toNat - 48) n hlt hn
    · -- the leading digit is that of `n / 10`
      have hshow : showNat n = showNat (n / 10) ++ [(n % 10).digitChar] :=
        Nat.toDigits_of_base_le (by decide) (by omega)
      obtain ⟨d, ds, heq, hd, -, hpos⟩ := ih (n / 10) (by omega) (by omega)
      have hall : showNat n = d :: (ds ++ [(n % 10).digitChar]) := by rw [hshow, heq]; rfl
      exact ⟨d, ds ++ [(n % 10).digitChar], hall, hd,
        fun c hc => isDigit_of_mem_showNat (hall ▸ List.mem_cons_of_mem d hc), hpos⟩

theorem le_ofDigitChars : ∀ acc, acc ≤ Nat.ofDigitChars 10 ds acc := by
  induction ds with
  | nil => intro acc; exact Nat.le_refl acc
  | cons c ds ih =>
    intro acc
    rw [Nat.ofDigitChars_cons]
    exact Nat.le_trans (by omega) (ih _)

/-- The octet goes on: it is not 0 and stays within a byte. -/
theorem inetPton4_digits (hds : ∀ c ∈ ds, c.isDigit = true) (r : CStr) :
    ∀ d, 0 < d → Nat.ofDigitChars 10 ds d ≤ 255 →
      inetPton4 (ds ++ r) done (some d) = inetPton4 r done (some (Nat.ofDigitChars 10 ds d)) := by
  induction ds with
  | nil => intro d _ _; rfl
  | cons c ds ih =>
    intro d hd hle
    have hc : c.isDigit = true := hds c List.mem_cons_self
    have ih := ih fun e he => hds e (List.mem_cons_of_mem c he)
    rw [Nat.ofDigitChars_cons] at hle ⊢
    have hcomm : 10 * d + (c.toNat - '0'.toNat) = d * 10 + (c.toNat - 48) := by
      rw [Nat.mul_comm]; rfl
    rw [hcomm] at hle ⊢
    have hstep : d * 10 + (c.toNat - 48) ≤ 255 := Nat.le_trans (le_ofDigitChars _) hle
    rw [List.cons_append, inetPton4, if_pos hc]
    show (if d = 0 then none else _) = _
    rw [if_neg (by omega), if_neg (by omega)]
    exact ih _ (by omega) hle

/-- One printed octet. -/
theorem inetPton4_showNat (ha : a < 256) (r : CStr) (done : List Nat) :
    inetPton4 (showNat a ++ r) done none = inetPton4 r done (some a) := by
  rcases Nat.eq_zero_or_pos a with rfl | hpos
  · rfl
  · obtain ⟨d, ds, hshow, hd, hds, hd0⟩ := showNat_of_pos a hpos
    have hval : Nat.ofDigitChars 10 ds (d.toNat - 48) = a := by
      have h : Nat.ofDigitChars 10 (showNat a) 0 = a := Nat.ofDigitChars_ten_toDigits
      rw [hshow, Nat.ofDigitChars_cons] at h
      simpa using h
    rw [hshow, List.cons_append, inetPton4, if_pos hd]
    show inetPton4 (ds ++ r) done (some (d.toNat - 48)) = _
    rw [inetPton4_digits hds r _ hd0 (by omega), hval]

/-- `inet_pton` of a printed dotted quad. -/
theorem inetPton4_dotted (ha : a < 256) (hb : b < 256) (hc : c < 256) (hd : d < 256) :
    inetPton4 (showNat a ++ '.' :: (showNat b ++ '.' :: (showNat c ++ '.' :: showNat d))) [] none =
      some [a, b, c, d] := by
  have hlast := inetPton4_showNat hd [] [a, b, c]
  rw [List.append_nil] at hlast
  rw [inetPton4_showNat ha]
  show inetPton4 (showNat b ++ _) [a] none = _
  rw [inetPton4_showNat hb]
  show inetPton4 (showNat c ++ _) [a, b] none = _
  rw [inetPton4_showNat hc]
  show inetPton4 (showNat d) [a, b, c] none = _
  rw [hlast]
  rfl

end FluxWAN.CString

namespace FluxWAN.CFloat

open CString

/-! ## `%.1f` and `atof` -/

/-- The tenths `printf ("%.1f")` prints for `num / 2 ^ shift`, without the sign. -/
def tenths (num : Int) (shift : Nat) : Nat := roundDiv (num.natAbs * 10) (2 ^ shift)

/-- `printf ("%.1f", x)`. -/
def showTenths : CFloat → CStr
  | nan => "nan".toList
  | negInf => "-inf".toList
  | posInf => "inf".toList
  | fin num shift =>
    (if num < 0 then ['-'] else []) ++ (showNat (tenths num shift / 10) ++ '.' :: showNat (tenths num shift % 10))

/-- The `double` that the printed tenths stand for. -/
def atTenths : CFloat → CFloat
  | fin num shift => toDouble (decide (num < 0)) (tenths num shift) 10
  | x => x

theorem spanDigits_digits {ds : CStr} (hds : ∀ c ∈ ds, c.isDigit = true) (r : CStr) :
    ∀ acc k, spanDigits 10 decDigit (ds ++ r) acc k =
      spanDigits 10 decDigit r (Nat.ofDigitChars 10 ds acc) (k + ds.length) := by
  induction ds with
  | nil => intro acc k; rfl
  | cons c ds ih =>
    intro acc k
    have hc : decDigit c = some (c.toNat - 48) := by rw [decDigit, hds c List.mem_cons_self]; rfl
    have ih := ih fun d hd => hds d (List.mem_cons_of_mem c hd)
    rw [List.cons_append, spanDigits, hc]
    show spanDigits 10 decDigit (ds ++ r) (acc * 10 + (c.toNat - 48)) (k + 1) = _
    rw [ih, Nat.ofDigitChars_cons, Nat.mul_comm 10 acc, List.length_cons, Nat.add_assoc, Nat.add_comm 1]
    rfl

theorem spanDigits_of_numberEnds (hr : NumberEnds r) (acc k : Nat) : spanDigits 10 decDigit r acc k = (acc, k, r) := by
  cases r with
  | nil => rfl
  | cons c r =>
    have hc : decDigit c = none := by rw [decDigit, hr c rfl]; rfl
    rw [spanDigits, hc]

theorem readExp_comma (s : CStr) : readExp 'e' (',' :: s) = 0 := rfl

/-- `atof` on digits, a point, one more digit and a comma. -/
theorem readUnsigned_tenths (k : Nat) (s : CStr) :
    readUnsigned neg 10 10 decDigit 'e' (showNat (k / 10) ++ '.' :: (showNat (k % 10) ++ ',' :: s)) =
      toDouble neg k 10 := by
  have hint : spanDigits 10 decDigit (showNat (k / 10) ++ '.' :: (showNat (k % 10) ++ ',' :: s)) 0 0 =
      (k / 10, (showNat (k / 10)).length, '.' :: (showNat (k % 10) ++ ',' :: s)) := by
    rw [spanDigits_digits (fun c hc => isDigit_of_mem_showNat hc),
      spanDigits_of_numberEnds (numberEnds_cons rfl), Nat.zero_add]
    congr 1
    exact Nat.ofDigitChars_ten_toDigits
  have hlast : showNat (k % 10) = [(k % 10).digitChar] := Nat.toDigits_of_lt_base (Nat.mod_lt k (by decide))
  have hfrac : spanDigits 10 decDigit (showNat (k % 10) ++ ',' :: s) (k / 10) 0 = (k, 1, ',' :: s) := by
    rw [spanDigits_digits (fun c hc => isDigit_of_mem_showNat hc),
      spanDigits_of_numberEnds (numberEnds_cons rfl), hlast]
    rw [Nat.ofDigitChars_cons_digitChar_of_lt_ten (Nat.mod_lt k (by decide)), Nat.ofDigitChars_nil, Nat.div_add_mod]
    rfl
  simp only [readUnsigned, hint, hfrac, readExp_comma]
  rw [if_neg (by omega), if_pos (by decide)]
  simp

theorem toLower_of_isDigit {c : Char} (hc : c.isDigit = true) : c.toLower = c := by
  have hle : c.val ≤ 57 := by
    simp only [Char.isDigit, Bool.and_eq_true, decide_eq_true_eq] at hc
    exact hc.2
  have hn : ¬ (c.val ≥ 'A'.val ∧ c.val ≤ 'Z'.val) := by
    rintro ⟨h, -⟩
    exact absurd (UInt32.le_trans h hle) (by decide)
  exact dif_neg hn

/-- The character after the leading digit of a printed decimal is a digit or the point: it is no
    hexadecimal mark. -/
theorem showNat_append_point (n : Nat) (r : CStr) :
    ∃ c e t, showNat n ++ '.' :: r = c :: e :: t ∧ c.isDigit = true ∧ e.toLower ≠ 'x' := by
  obtain ⟨c, ds, hshow, hc⟩ := showNat_eq_cons n
  rw [hshow]
  cases ds with
  | nil => exact ⟨c, '.', r, rfl, hc, by decide⟩
  | cons e ds =>
    have he : e.isDigit = true :=
      isDigit_of_mem_showNat (hshow ▸ List.mem_cons_of_mem c List.mem_cons_self)
    exact ⟨c, e, ds ++ '.' :: r, rfl, hc, by rw [toLower_of_isDigit he]; exact ne_of_isDigit he rfl⟩

/-- Nothing but the number reader applies to a text that starts like a decimal. -/
theorem atof_decimal {c e : Char} (hc : c.isDigit = true) (he : e.toLower ≠ 'x') :
    atof ((if neg then ['-'] else []) ++ c :: e :: t) = readUnsigned neg 10 10 decDigit 'e' (c :: e :: t) := by
  have hlow : c.toLower = c := toLower_of_isDigit hc
  have hne (d : Char) (hd : d.isDigit = false) : c ≠ d := ne_of_isDigit hc hd
  have hspace : isspace c = false := not_isspace_of_isDigit hc
  have hinf : startsWith ((c :: e :: t).map Char.toLower) "inf".toList = false := by
    simp [startsWith, List.isPrefixOf, hlow, (hne 'i' rfl).symm]
  have hnan : startsWith ((c :: e :: t).map Char.toLower) "nan".toList = false := by
    simp [startsWith, List.isPrefixOf, hlow, (hne 'n' rfl).symm]
  have hhex : startsWith ((c :: e :: t).map Char.toLower) "0x".toList = false := by
    simp [startsWith, List.isPrefixOf, he.symm]
  cases neg with
  | false =>
    have hdrop : (c :: e :: t).dropWhile isspace = c :: e :: t := by
      rw [List.dropWhile_cons, hspace]; rfl
    have hsign : startsWith (c :: e :: t) ['-'] = false := by simp [startsWith, List.isPrefixOf, (hne '-' rfl).symm]
    have hplus : startsWith (c :: e :: t) ['+'] = false := by simp [startsWith, List.isPrefixOf, (hne '+' rfl).symm]
    show atof (c :: e :: t) = _
    simp only [atof, hdrop, hsign, hplus, Bool.or_self, Bool.false_eq_true, if_false, hinf, hnan, hhex]
  | true =>
    have hdrop : ('-' :: c :: e :: t).dropWhile isspace = '-' :: c :: e :: t := rfl
    have hsign : startsWith ('-' :: c :: e :: t) ['-'] = true := rfl
    show atof ('-' :: c :: e :: t) = _
    simp only [atof, hdrop, hsign, Bool.true_or, if_true, List.tail_cons, hinf, hnan, hhex,
      Bool.false_eq_true, if_false]

/-- `atof` of a number printed with `%.1f`. -/
theorem atof_showTenths (x : CFloat) (s : CStr) : atof (showTenths x ++ ',' :: s) = atTenths x := by
  cases x with
  | nan => rfl
  | negInf => rfl
  | posInf => rfl
  | fin num shift =>
    have htext : showTenths (fin num shift) ++ ',' :: s =
        (if decide (num < 0) then ['-'] else []) ++ (showNat (tenths num shift / 10) ++
          '.' :: (showNat (tenths num shift % 10) ++ ',' :: s)) := by
      simp [showTenths]
    obtain ⟨c, e, t, heq, hc, he⟩ := showNat_append_point (tenths num shift / 10)
      (showNat (tenths num shift % 10) ++ ',' :: s)
    rw [htext, heq, atof_decimal hc he, ← heq, readUnsigned_tenths]
    rfl

end FluxWAN.CFloat
