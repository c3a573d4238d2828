/-
  IEEE binary floating point, as far as a program that only READS, COMPARES and scales by powers of
  two needs it.

  A finite value is kept exactly, as `num / 2 ^ shift`: every binary32 and binary64 number has that
  form, comparison is integer cross-multiplication, and nothing is ever rounded behind the reader's
  back.  Rounding happens in one place only, when `atof` turns a decimal text into a `double`
  (`toDouble`) and the caller narrows it to a `float` (`toFloat`); ties go to even.
-/
import FluxWAN.Lib.CString

namespace FluxWAN

open CString

/-- A floating-point value: finite ones are `num / 2 ^ shift`. -/
inductive CFloat where
  | nan
  | negInf
  | posInf
  | fin (num : Int) (shift : Nat)
  deriving DecidableEq, Repr

namespace CFloat

/-- C's `>`: false as soon as one side is a NaN. -/
def gt : CFloat → CFloat → Bool
  | nan, _ => false
  | _, nan => false
  | negInf, _ => false
  | posInf, posInf => false
  | posInf, _ => true
  | fin .., posInf => false
  | fin .., negInf => true
  | fin n s, fin n' s' => decide (n' * 2 ^ s < n * 2 ^ s')

/-! ## Rounding a positive rational to a binary format -/

/-- `n / d` to the nearest integer, ties to even. -/
def roundDiv (n d : Nat) : Nat :=
  if 2 * (n % d) < d then n / d
  else if d < 2 * (n % d) then n / d + 1
  else n / d + (n / d) % 2

/-- `(n / d) / 2 ^ e` as a fraction. -/
def scaleDown (n d : Nat) (e : Int) : Nat × Nat :=
  if 0 ≤ e then (n, d * 2 ^ e.toNat) else (n * 2 ^ (-e).toNat, d)

/-- The exponent of `n / d`: the `k` with `2 ^ k ≤ n / d < 2 ^ (k + 1)`. -/
def expOf (n d : Nat) : Int :=
  let k : Int := (Nat.log2 n : Int) - (Nat.log2 d : Int)
  let f := scaleDown n d k
  if f.2 ≤ f.1 then k else k - 1

/-- Round `± n / d` to `p` bits of precision, exponents from `emin` on, infinity at `2 ^ emax`. -/
def roundTo (p : Nat) (emin emax : Int) (neg : Bool) (n d : Nat) : CFloat :=
  if n = 0 then fin 0 0
  else
    let e := max emin (expOf n d - p + 1)
    let f := scaleDown n d e
    let m := roundDiv f.1 f.2
    if emax ≤ expOf m 1 + e then (if neg then negInf else posInf)
    else
      let num : Int := if neg then -(m : Int) else m
      if 0 ≤ e then fin (num * 2 ^ e.toNat) 0 else fin num (-e).toNat

/-- The nearest binary64 number. -/
def toDouble (neg : Bool) (n d : Nat) : CFloat := roundTo 53 (-1074) 1024 neg n d

/-- The conversion `(float) x`. -/
def toFloat : CFloat → CFloat
  | fin num shift => roundTo 24 (-149) 128 (decide (num < 0)) num.natAbs (2 ^ shift)
  | x => x

/-! ## Reading a number -/

/-- The digits at the front of `s` in base `b`, most significant first, with the rest of the text. -/
def spanDigits (b : Nat) (val : Char → Option Nat) : CStr → Nat → Nat → Nat × Nat × CStr
  | [], acc, k => (acc, k, [])
  | c :: s, acc, k =>
    match val c with
    | some v => spanDigits b val s (acc * b + v) (k + 1)
    | none => (acc, k, c :: s)

def decDigit (c : Char) : Option Nat := if c.isDigit then some (c.toNat - 48) else none

def hexDigit (c : Char) : Option Nat :=
  if c.isDigit then some (c.toNat - 48)
  else if 'a' ≤ c ∧ c ≤ 'f' then some (c.toNat - 87)
  else if 'A' ≤ c ∧ c ≤ 'F' then some (c.toNat - 55)
  else none

/-- An exponent suffix introduced by `mark`; absent or malformed ones count as 0. -/
def readExp (mark : Char) : CStr → Int
  | m :: s =>
    if m.toLower = mark then
      match s with
      | '-' :: t => -((spanDigits 10 decDigit t 0 0).1 : Int)
      | '+' :: t => (spanDigits 10 decDigit t 0 0).1
      | t => (spanDigits 10 decDigit t 0 0).1
    else 0
  | [] => 0

/-- Integer part, optional fraction, optional exponent: the value is
    `mantissa * expBase ^ exponent / base ^ fractionDigits`. -/
def readUnsigned (neg : Bool) (base expBase : Nat) (val : Char → Option Nat) (mark : Char)
    (s : CStr) : CFloat :=
  let i := spanDigits base val s 0 0
  let f := match i.2.2 with
    | '.' :: t => spanDigits base val t i.1 0
    | t => (i.1, 0, t)
  -- no digit at all: no conversion, the result is 0
  if i.2.1 + f.2.1 = 0 then fin 0 0
  else
    let e := readExp mark f.2.2
    if 0 ≤ e then toDouble neg (f.1 * expBase ^ e.toNat) (base ^ f.2.1)
    else toDouble neg f.1 (base ^ f.2.1 * expBase ^ (-e).toNat)

/-- `atof`: decimal and hexadecimal numbers, infinities and NaN, leading white space and a sign. -/
def atof (s : CStr) : CFloat :=
  let t := s.dropWhile isspace
  let neg := startsWith t ['-']
  let u := if startsWith t ['-'] || startsWith t ['+'] then t.tail else t
  let lower := u.map Char.toLower
  if startsWith lower "inf".toList then (if neg then negInf else posInf)
  else if startsWith lower "nan".toList then nan
  else if startsWith lower "0x".toList then readUnsigned neg 16 2 hexDigit 'p' (u.drop 2)
  else readUnsigned neg 10 10 decDigit 'e' u

example : atof "20.5,".toList = fin 5770237022568448 48 := by decide
example : toFloat (atof "20.0".toList) = fin 10485760 19 := by decide
example : gt (fin 700 5) (toFloat (atof "20.0".toList)) = true := by decide   -- 21.875 > 20

end CFloat

end FluxWAN
