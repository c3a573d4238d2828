/-
  SHA-256 and SHA-512, as the Secure Hash Standard (FIPS 180-4) defines them.

  Both work on words of `w` bits, in blocks of sixteen words, and differ in `w`, in the number of rounds and in the
  amounts of the rotations (`Variant`).

  1. **Constants** (4.2, 5.3) — the first `w` bits of the fractional parts of the cube roots of the first primes, and
     of the square roots of the first eight: `rootBits`.
  2. **Padding** (5.1) — a bit 1, zeros, and the length in bits, up to a whole number of blocks: `pad`.
  3. **Hashing** (6.2, 6.4) — the message schedule (`schedule`), the rounds (`Words.round`), and the fold over the blocks:
     `hashFrom`, `digest`.  `hashFrom_append` and `hashFrom_nil` take it block by block.
-/
import Mathlib.Data.Nat.Find
import Mathlib.Data.Nat.Prime.Basic
import FluxWAN.Lib.Slices

namespace FluxWAN.Sha2

open Bytes

/-! ## Constants -/

/-- The first `w` bits of the fractional part of the `n`-th root of `p`: the largest number whose `n`-th power is at
    most `p * 2 ^ (n * w)`, without its integer part. -/
def rootBits (n w p : Nat) : BitVec w :=
  BitVec.ofNat w (Nat.findGreatest (fun x => x ^ n ≤ p * 2 ^ (n * w)) (p * 2 ^ w))

/-- The first 80 primes. -/
def primes : List Nat := (List.range 410).filter Nat.Prime

/-- `c` is the root's fraction and `i` its integer part. -/
def IsRoot (n w p i c : Nat) : Prop :=
  i * 2 ^ w + c ≤ p * 2 ^ w ∧ (i * 2 ^ w + c) ^ n ≤ p * 2 ^ (n * w) ∧ p * 2 ^ (n * w) < (i * 2 ^ w + c + 1) ^ n

instance (n w p i c : Nat) : Decidable (IsRoot n w p i c) := inferInstanceAs (Decidable (_ ∧ _))

theorem rootBits_eq (h : IsRoot n w p i c) : rootBits n w p = BitVec.ofNat w c := by
  obtain ⟨hle, hroot, hnext⟩ := h
  have hgreatest : Nat.findGreatest (fun x => x ^ n ≤ p * 2 ^ (n * w)) (p * 2 ^ w) = i * 2 ^ w + c := by
    refine Nat.findGreatest_eq_iff.mpr ⟨hle, fun _ => hroot, fun x hx _ hpow => ?_⟩
    have hmono : (i * 2 ^ w + c + 1) ^ n ≤ x ^ n := Nat.pow_le_pow_left hx n
    omega
  rw [rootBits, hgreatest]
  apply BitVec.eq_of_toNat_eq
  rw [BitVec.toNat_ofNat, BitVec.toNat_ofNat, Nat.mul_add_mod_self_right]

/-- Trial division, up to 20. -/
def trial (p : Nat) : Bool := 2 ≤ p && (List.range' 2 19).all fun m => p < m * m || p % m != 0

theorem prime_iff_trial (h : p < 441) : Nat.Prime p ↔ trial p = true := by
  rw [Nat.prime_def_le_sqrt, trial, Bool.and_eq_true, List.all_eq_true, decide_eq_true_eq]
  refine and_congr_right fun _ => forall_congr' fun m => ?_
  have hsmall : m * m ≤ p → m < 21 := by
    intro hm
    by_contra hge
    have hmul := Nat.mul_le_mul (Nat.not_lt.mp hge) (Nat.not_lt.mp hge)
    omega
  simp only [Nat.le_sqrt, List.mem_range', Bool.or_eq_true, decide_eq_true_eq, bne_iff_ne, ne_eq,
    Nat.dvd_iff_mod_eq_zero]
  constructor
  · rintro hm ⟨i, hi, rfl⟩
    by_cases hle : (2 + 1 * i) * (2 + 1 * i) ≤ p
    · exact .inr (hm (by omega) hle)
    · exact .inl (by omega)
  · intro hm h2 hle
    have hlt := hsmall hle
    exact (hm ⟨m - 2, by omega, by omega⟩).resolve_left (by omega)

theorem primes_eq : primes =
    [2, 3, 5, 7, 11, 13, 17, 19, 23, 29, 31, 37, 41, 43, 47, 53, 59, 61, 67, 71, 73, 79, 83, 89, 97, 101, 103, 107, 109,
     113, 127, 131, 137, 139, 149, 151, 157, 163, 167, 173, 179, 181, 191, 193, 197, 199, 211, 223, 227, 229, 233, 239,
     241, 251, 257, 263, 269, 271, 277, 281, 283, 293, 307, 311, 313, 317, 331, 337, 347, 349, 353, 359, 367, 373, 379,
     383, 389, 397, 401, 409] := by
  have htrial : primes = (List.range 410).filter trial := by
    refine List.filter_congr fun p hp => ?_
    have hlt := List.mem_range.mp hp
    rw [Bool.eq_iff_iff, decide_eq_true_eq]
    exact prime_iff_trial (by omega)
  rw [htrial]
  decide

/-! ## Words -/

section
variable {w : Nat}

def ch (x y z : BitVec w) : BitVec w := (x &&& y) ^^^ (~~~x &&& z)

def maj (x y z : BitVec w) : BitVec w := (x &&& y) ^^^ (x &&& z) ^^^ (y &&& z)

/-- `Σ`: three rotations. -/
def bigSigma (r : Nat × Nat × Nat) (x : BitVec w) : BitVec w :=
  x.rotateRight r.1 ^^^ x.rotateRight r.2.1 ^^^ x.rotateRight r.2.2

/-- `σ`: two rotations and a shift. -/
def smallSigma (r : Nat × Nat × Nat) (x : BitVec w) : BitVec w :=
  x.rotateRight r.1 ^^^ x.rotateRight r.2.1 ^^^ x >>> r.2.2

/-- The bytes one after the other, the first one on the left. -/
def word (bytes : List UInt8) : BitVec w := bytes.foldl (fun x b => x <<< 8 ||| b.toBitVec.setWidth w) 0

/-- A number in `n` bytes, the last one on the right. -/
def bigEndian : Nat → Nat → List UInt8
  | 0, _ => []
  | n + 1, x => bigEndian n (x / 256) ++ [UInt8.ofNat x]

@[simp] theorem length_bigEndian (n x : Nat) : (bigEndian n x).length = n := by
  induction n generalizing x with
  | zero => rfl
  | succ n ih => rw [bigEndian, List.length_append, ih, List.length_singleton]

theorem bigEndian_eq (n x : Nat) : bigEndian n x = (List.range n).map fun i => UInt8.ofNat (x / 256 ^ (n - 1 - i)) := by
  induction n generalizing x with
  | zero => rfl
  | succ n ih =>
    rw [bigEndian, ih, List.range_succ, List.map_append, List.map_singleton, Nat.add_sub_cancel, Nat.sub_self,
      Nat.pow_zero, Nat.div_one]
    congr 1
    refine List.map_congr_left fun i hi => ?_
    have hpow : n - i = (n - 1 - i) + 1 := by
      have := List.mem_range.mp hi
      omega
    rw [Nat.div_div_eq_div_mul, hpow, Nat.pow_succ, Nat.mul_comm]

/-- Leading zeros. -/
theorem bigEndian_add (m : Nat) (h : x < 256 ^ n) : bigEndian (m + n) x = List.replicate m 0 ++ bigEndian n x := by
  induction n generalizing x with
  | zero =>
    obtain rfl : x = 0 := by
      rw [Nat.pow_zero] at h
      omega
    have hzero : ∀ k, bigEndian k 0 = List.replicate k 0 := by
      intro k
      induction k with
      | zero => rfl
      | succ k ih => rw [bigEndian, Nat.zero_div, ih, List.replicate_succ']; rfl
    rw [Nat.add_zero, hzero]
    exact (List.append_nil _).symm
  | succ n ih =>
    have hdiv : x / 256 < 256 ^ n := by
      rw [Nat.pow_succ] at h
      exact Nat.div_lt_of_lt_mul (by rwa [Nat.mul_comm])
    rw [← Nat.add_assoc, bigEndian, ih hdiv, bigEndian, List.append_assoc]

end

/-! ## Hashing -/

/-- What SHA-256 and SHA-512 differ in. -/
structure Variant where
  rounds : Nat
  big0 : Nat × Nat × Nat
  big1 : Nat × Nat × Nat
  small0 : Nat × Nat × Nat
  small1 : Nat × Nat × Nat

def sha256 : Variant := ⟨64, (2, 13, 22), (6, 11, 25), (7, 18, 3), (17, 19, 10)⟩

def sha512 : Variant := ⟨80, (28, 34, 39), (14, 18, 41), (1, 8, 7), (19, 61, 6)⟩

/-- The eight working variables, or the hash value. -/
structure Words (w : Nat) where
  a : BitVec w
  b : BitVec w
  c : BitVec w
  d : BitVec w
  e : BitVec w
  f : BitVec w
  g : BitVec w
  h : BitVec w

namespace Words
variable {w : Nat}

def add (x y : Words w) : Words w :=
  ⟨x.a + y.a, x.b + y.b, x.c + y.c, x.d + y.d, x.e + y.e, x.f + y.f, x.g + y.g, x.h + y.h⟩

def toList (x : Words w) : List (BitVec w) := [x.a, x.b, x.c, x.d, x.e, x.f, x.g, x.h]

def round (v : Variant) (x : Words w) (k word : BitVec w) : Words w :=
  let t1 := x.h + bigSigma v.big1 x.e + ch x.e x.f x.g + k + word
  let t2 := bigSigma v.big0 x.a + maj x.a x.b x.c
  ⟨t1 + t2, x.a, x.b, x.c, x.d + t1, x.e, x.f, x.g⟩

end Words

section
variable {w : Nat} (v : Variant)

/-- The message schedule of a block. -/
def schedule (block : List UInt8) (t : Nat) : BitVec w :=
  if t < 16 then word (slice block (t * (w / 8)) (w / 8))
  else smallSigma v.small1 (schedule block (t - 2)) + schedule block (t - 7) +
    smallSigma v.small0 (schedule block (t - 15)) + schedule block (t - 16)
termination_by t

def constant (t : Nat) : BitVec w := rootBits 3 w (primes.getD t 0)

def compress (x : Words w) (block : List UInt8) : Words w :=
  x.add ((List.range v.rounds).foldl (fun y t => y.round v (constant t) (schedule v block t)) x)

/-- The message in whole blocks of `2 * w` bytes: a byte 0x80, the fewest zeros, the length in bits in `w / 4` bytes. -/
def pad (w : Nat) (message : List UInt8) : List UInt8 :=
  message ++ 0x80 :: (List.replicate ((2 * w - (message.length + 1 + w / 4) % (2 * w)) % (2 * w)) 0 ++
    bigEndian (w / 4) (8 * message.length))

/-- Block after block, from a hash value. -/
def hashFrom (x : Words w) (bytes : List UInt8) : Words w :=
  (List.range (bytes.length / (2 * w))).foldl (fun y i => compress v y (slice bytes (i * (2 * w)) (2 * w))) x

def initial (w : Nat) : Words w :=
  let root i := rootBits 2 w (primes.getD i 0)
  ⟨root 0, root 1, root 2, root 3, root 4, root 5, root 6, root 7⟩

def digest (w : Nat) (message : List UInt8) : List UInt8 :=
  (hashFrom v (initial w) (pad w message)).toList.flatMap fun x => bigEndian (w / 8) x.toNat

theorem hashFrom_nil (x : Words w) : hashFrom v x [] = x := by
  rw [hashFrom, List.length_nil, Nat.zero_div]
  rfl

/-- The first block, and the others. -/
theorem hashFrom_append (hw : 0 < w) (x : Words w) {block : List UInt8} (hblock : block.length = 2 * w)
    (rest : List UInt8) : hashFrom v x (block ++ rest) = hashFrom v (compress v x block) rest := by
  have hcount : (block ++ rest).length / (2 * w) = rest.length / (2 * w) + 1 := by
    rw [List.length_append, hblock, Nat.add_div_left _ (by omega)]
  have hlater : ∀ i, slice (block ++ rest) ((i + 1) * (2 * w)) (2 * w) = slice rest (i * (2 * w)) (2 * w) := by
    intro i
    have hpos : (i + 1) * (2 * w) = block.length + i * (2 * w) := by
      rw [hblock, Nat.add_mul, Nat.one_mul, Nat.add_comm]
    rw [slice, slice, hpos, List.drop_length_add_append]
  have hfirst : slice (block ++ rest) (0 * (2 * w)) (2 * w) = block := by
    rw [slice, Nat.zero_mul, List.drop_zero, ← hblock, List.take_left]
  rw [hashFrom, hcount, List.range_succ_eq_map, List.foldl_cons, hfirst, List.foldl_map]
  simp only [hlater]
  rfl

end

end FluxWAN.Sha2
