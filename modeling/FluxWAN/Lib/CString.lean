/-
  C strings and the part of the C library that reads them.

  A C string is the list of its characters up to (not including) the terminating NUL; every character
  stands for one byte.  A POINTER into a string is modelled by the suffix it points at, so `p + 1` is
  the tail, `p < q` for two pointers into one buffer is "`p`'s suffix is the longer one" (`Before`),
  and a NULL result is `none`.

  The library's own contribution is the meaning of a search: `strstr` succeeds exactly when the needle
  is an infix (`strstr_isSome_iff`), so a claim about raw text needs no unfolding of a search.
-/
import Mathlib.Algebra.Group.Int.Defs
import Mathlib.Algebra.Group.Nat.Defs
import Mathlib.Data.Fintype.Card
import Mathlib.Data.List.Infix

namespace FluxWAN.CString

/-- The characters of a C string, without the terminating NUL. -/
abbrev CStr := List Char

/-- What the C library sees of a buffer: everything before the first NUL. -/
def cstr (buf : List Char) : CStr := buf.takeWhile (· ≠ '\x00')

/-- `p < q` for two pointers into the same buffer. -/
def Before (p q : CStr) : Bool := decide (q.length < p.length)

/-! ## Searching -/

/-- `strstr`: the suffix at the first occurrence of `needle`. -/
def strstr : CStr → CStr → Option CStr
  | [], needle => if needle.isPrefixOf [] then some [] else none
  | c :: s, needle => if needle.isPrefixOf (c :: s) then some (c :: s) else strstr s needle

/-- `strchr`: the suffix at the first occurrence of `ch` (never the NUL). -/
def strchr : CStr → Char → Option CStr
  | [], _ => none
  | c :: s, ch => if c = ch then some (c :: s) else strchr s ch

/-- `strncmp (s, lit, strlen lit) == 0`. -/
def startsWith (s lit : CStr) : Bool := lit.isPrefixOf s

/-- A search succeeds exactly when the needle occurs. -/
theorem strstr_isSome_iff : (strstr hay needle).isSome = true ↔ needle <:+: hay := by
  induction hay with
  | nil =>
    rw [strstr]
    by_cases h : needle.isPrefixOf ([] : CStr) = true
    · rw [if_pos h]
      exact ⟨fun _ => (List.isPrefixOf_iff_prefix.mp h).isInfix, fun _ => rfl⟩
    · rw [if_neg h]
      refine ⟨fun hf => absurd hf (by simp), fun hi => ?_⟩
      obtain rfl := List.infix_nil.mp hi
      exact absurd rfl h
  | cons c s ih =>
    rw [strstr]
    by_cases h : needle.isPrefixOf (c :: s) = true
    · rw [if_pos h]
      exact ⟨fun _ => (List.isPrefixOf_iff_prefix.mp h).isInfix, fun _ => rfl⟩
    · rw [if_neg h, ih, List.infix_cons_iff]
      refine ⟨Or.inr, fun hi => hi.resolve_left fun hp => h ?_⟩
      exact List.isPrefixOf_iff_prefix.mpr hp

theorem strchr_append_of_not_mem (hs : c ∉ s) (r : CStr) : strchr (s ++ r) c = strchr r c := by
  induction s with
  | nil => rfl
  | cons d s ih =>
    have hne : d ≠ c := fun h => hs (h ▸ List.mem_cons_self)
    rw [List.cons_append, strchr, if_neg hne, ih fun h => hs (List.mem_cons_of_mem d h)]

theorem strchr_cons_self (c : Char) (r : CStr) : strchr (c :: r) c = some (c :: r) := if_pos rfl

/-! ## Bounded copies -/

/-- A copy into a `char [size]` that always terminates the result: at most `size - 1` characters. -/
def copyInto (size : Nat) (src : CStr) : CStr := src.take (size - 1)

/-! ## Numbers -/

/-- `isspace` in the C locale. -/
def isspace (c : Char) : Bool :=
  c = ' ' || c = '\t' || c = '\n' || c = '\x0b' || c = '\x0c' || c = '\r'

/-- Value of the longest run of decimal digits at the front, on top of `acc`. -/
def digitsVal : CStr → Nat → Nat
  | [], acc => acc
  | c :: s, acc => if c.isDigit then digitsVal s (acc * 10 + (c.toNat - 48)) else acc

/-- `strtol (s, NULL, 10)` on a 64-bit `long`: white space, one sign, digits, saturating. -/
def strtol (s : CStr) : Int :=
  match s.dropWhile isspace with
  | '-' :: t => max (-(2 : Int) ^ 63) (-(digitsVal t 0 : Int))
  | '+' :: t => min (2 ^ 63 - 1) (digitsVal t 0 : Int)
  | t => min (2 ^ 63 - 1) (digitsVal t 0 : Int)

/-- `atoi`: `strtol` narrowed to a 32-bit `int`. -/
def atoi (s : CStr) : Int := (strtol s).bmod (2 ^ 32)

/-- `printf` conversion `%u`. -/
def showNat (n : Nat) : CStr := (Nat.toDigits 10 n)

/-! ## Dotted quads -/

/-- The scan of `inet_pton (AF_INET, …)`: the finished octets and the one being read.  Leading zeros,
    octets over 255, missing and extra octets are all rejected. -/
def inetPton4 : CStr → List Nat → Option Nat → Option (List Nat)
  | [], done, some d => if done.length = 3 then some (done ++ [d]) else none
  | [], _, none => none
  | c :: s, done, cur =>
    if c.isDigit then
      match cur with
      | none => inetPton4 s done (some (c.toNat - 48))
      | some d =>
        if d = 0 then none
        else if 255 < d * 10 + (c.toNat - 48) then none
        else inetPton4 s done (some (d * 10 + (c.toNat - 48)))
    else if c = '.' then
      match cur with
      | none => none
      | some d => if done.length = 3 then none else inetPton4 s (done ++ [d]) none
    else none

example : inetPton4 "10.250.0.1".toList [] none = some [10, 250, 0, 1] := by decide
example : inetPton4 "10.0.0.01".toList [] none = none := by decide   -- leading zero

end FluxWAN.CString
