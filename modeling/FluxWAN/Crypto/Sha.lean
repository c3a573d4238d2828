/-
  `crypto_sha256` and `crypto_sha512`.

  The two functions are one text, with other words, amounts and tables, and each has its compression written out three
  times: for the blocks of the message, for a tail that leaves no room for the length, and for the last block.

  1. **Program** — `transform`, the compression; `mainLoop`, the whole blocks; `cryptoSha`, which adds the tail.
  2. **Specification** — `Lib/Sha2`.  The tables are the roots of the primes (`Meets`), checked one by one.
  3. **Correctness** — `transform_eq`: the array `w` holds the schedule, so the rounds are those of the standard.
     `hashFrom_mainLoop`: the loop leaves what is left of the padded message.  `hashFrom_tail`: one block or two.
     Together, `crypto_sha_fips`.
-/
import FluxWAN.Lib.Sha2

namespace FluxWAN.Crypto

open Bytes Sha2

/-! ## The functions -/

/-- What the two functions differ in. -/
structure ShaCode (w : Nat) where
  /-- The size of `w[]` and of the table. -/
  rounds : Nat
  /-- Where the zeros of the last block end: 56 and 112. -/
  lenAt : Nat
  sig0 : Nat × Nat × Nat
  sig1 : Nat × Nat × Nat
  th0 : Nat × Nat × Nat
  th1 : Nat × Nat × Nat
  k : List (BitVec w)
  state : Words w

section
variable {w : Nat}

/-- `ROR32`, `ROR64`. -/
def ror (x : BitVec w) (n : Nat) : BitVec w := (x >>> n) ||| (x <<< (w - n))

/-- `SIG0_256`, … -/
def sig (r : Nat × Nat × Nat) (x : BitVec w) : BitVec w := ror x r.1 ^^^ ror x r.2.1 ^^^ ror x r.2.2

/-- `TH0_256`, … -/
def th (r : Nat × Nat × Nat) (x : BitVec w) : BitVec w := ror x r.1 ^^^ ror x r.2.1 ^^^ (x >>> r.2.2)

/-- `(block[t*4] << 24) | (block[t*4+1] << 16) | …`. -/
def load : List UInt8 → BitVec w
  | [] => 0
  | b :: bs => b.toBitVec.setWidth w <<< (8 * bs.length) ||| load bs

/-- The array `w`. -/
def expand (c : ShaCode w) (block : List UInt8) : List (BitVec w) :=
  (List.range' 16 (c.rounds - 16)).foldl
    (fun ws t => ws ++ [th c.th1 (ws.getD (t - 2) 0) + ws.getD (t - 7) 0 + th c.th0 (ws.getD (t - 15) 0) +
      ws.getD (t - 16) 0])
    ((List.range 16).map fun t => load (slice block (t * (w / 8)) (w / 8)))

/-- One turn of the last loop. -/
def shaRound (c : ShaCode w) (x : Words w) (k word : BitVec w) : Words w :=
  let t1 := x.h + sig c.sig1 x.e + ((x.e &&& x.f) ^^^ (~~~x.e &&& x.g)) + k + word
  let t2 := sig c.sig0 x.a + ((x.a &&& x.b) ^^^ (x.a &&& x.c) ^^^ (x.b &&& x.c))
  ⟨t1 + t2, x.a, x.b, x.c, x.d + t1, x.e, x.f, x.g⟩

def transform (c : ShaCode w) (state : Words w) (block : List UInt8) : Words w :=
  state.add ((List.range c.rounds).foldl (fun x t => shaRound c x (c.k.getD t 0) ((expand c block).getD t 0)) state)

/-- `while (offset + 64 <= len)`: the state, and the data behind `offset`. -/
def mainLoop (c : ShaCode w) : Nat → Words w → List UInt8 → Words w × List UInt8
  | 0, state, data => (state, data)
  | fuel + 1, state, data =>
    if 2 * w ≤ data.length then mainLoop c fuel (transform c state (data.take (2 * w))) (data.drop (2 * w))
    else (state, data)

/-- The block that ends with the length, after `rem` bytes of `block` are there. -/
def lastBlock (c : ShaCode w) (block : List UInt8) (totalBits : Nat) : List UInt8 :=
  block ++ (List.replicate (c.lenAt - block.length) (0 : UInt8) ++ (List.replicate (2 * w - 8 - c.lenAt) (0 : UInt8) ++
    (List.range 8).map fun i => UInt8.ofNat (totalBits >>> (56 - i * 8))))

/-- The blocks of the tail: `rem > 56` takes one more. -/
def shaTail (c : ShaCode w) (state : Words w) (block : List UInt8) (totalBits : Nat) : Words w :=
  if c.lenAt < block.length then
    transform c (transform c state (block ++ List.replicate (2 * w - block.length) 0)) (lastBlock c [] totalBits)
  else transform c state (lastBlock c block totalBits)

/-- `(uint8_t)(state[i] >> 24)`, … -/
def outBytes (x : BitVec w) : List UInt8 :=
  (List.range (w / 8)).map fun j => UInt8.ofNat (x >>> (8 * (w / 8 - 1 - j))).toNat

def cryptoSha (c : ShaCode w) (data : List UInt8) : List UInt8 :=
  let (state, tail) := mainLoop c data.length c.state data
  (shaTail c state (tail ++ [0x80]) (data.length * 8 % 2 ^ 64)).toList.flatMap outBytes

end

def k256 : List (BitVec 32) :=
  [0x428a2f98, 0x71374491, 0xb5c0fbcf, 0xe9b5dba5, 0x3956c25b, 0x59f111f1, 0x923f82a4, 0xab1c5ed5, 0xd807aa98,
   0x12835b01, 0x243185be, 0x550c7dc3, 0x72be5d74, 0x80deb1fe, 0x9bdc06a7, 0xc19bf174, 0xe49b69c1, 0xefbe4786,
   0x0fc19dc6, 0x240ca1cc, 0x2de92c6f, 0x4a7484aa, 0x5cb0a9dc, 0x76f988da, 0x983e5152, 0xa831c66d, 0xb00327c8,
   0xbf597fc7, 0xc6e00bf3, 0xd5a79147, 0x06ca6351, 0x14292967, 0x27b70a85, 0x2e1b2138, 0x4d2c6dfc, 0x53380d13,
   0x650a7354, 0x766a0abb, 0x81c2c92e, 0x92722c85, 0xa2bfe8a1, 0xa81a664b, 0xc24b8b70, 0xc76c51a3, 0xd192e819,
   0xd6990624, 0xf40e3585, 0x106aa070, 0x19a4c116, 0x1e376c08, 0x2748774c, 0x34b0bcb5, 0x391c0cb3, 0x4ed8aa4a,
   0x5b9cca4f, 0x682e6ff3, 0x748f82ee, 0x78a5636f, 0x84c87814, 0x8cc70208, 0x90befffa, 0xa4506ceb, 0xbef9a3f7,
   0xc67178f2]

def k512 : List (BitVec 64) :=
  [0x428a2f98d728ae22, 0x7137449123ef65cd, 0xb5c0fbcfec4d3b2f, 0xe9b5dba58189dbbc, 0x3956c25bf348b538,
   0x59f111f1b605d019, 0x923f82a4af194f9b, 0xab1c5ed5da6d8118, 0xd807aa98a3030242, 0x12835b0145706fbe,
   0x243185be4ee4b28c, 0x550c7dc3d5ffb4e2, 0x72be5d74f27b896f, 0x80deb1fe3b1696b1, 0x9bdc06a725c71235,
   0xc19bf174cf692694, 0xe49b69c19ef14ad2, 0xefbe4786384f25e3, 0x0fc19dc68b8cd5b5, 0x240ca1cc77ac9c65,
   0x2de92c6f592b0275, 0x4a7484aa6ea6e483, 0x5cb0a9dcbd41fbd4, 0x76f988da831153b5, 0x983e5152ee66dfab,
   0xa831c66d2db43210, 0xb00327c898fb213f, 0xbf597fc7beef0ee4, 0xc6e00bf33da88fc2, 0xd5a79147930aa725,
   0x06ca6351e003826f, 0x142929670a0e6e70, 0x27b70a8546d22ffc, 0x2e1b21385c26c926, 0x4d2c6dfc5ac42aed,
   0x53380d139d95b3df, 0x650a73548baf63de, 0x766a0abb3c77b2a8, 0x81c2c92e47edaee6, 0x92722c851482353b,
   0xa2bfe8a14cf10364, 0xa81a664bbc423001, 0xc24b8b70d0f89791, 0xc76c51a30654be30, 0xd192e819d6ef5218,
   0xd69906245565a910, 0xf40e35855771202a, 0x106aa07032bbd1b8, 0x19a4c116b8d2d0c8, 0x1e376c085141ab53,
   0x2748774cdf8eeb99, 0x34b0bcb5e19b48a8, 0x391c0cb3c5c95a63, 0x4ed8aa4ae3418acb, 0x5b9cca4f7763e373,
   0x682e6ff3d6b2b8a3, 0x748f82ee5defb2fc, 0x78a5636f43172f60, 0x84c87814a1f0ab72, 0x8cc702081a6439ec,
   0x90befffa23631e28, 0xa4506cebde82bde9, 0xbef9a3f7b2c67915, 0xc67178f2e372532b, 0xca273eceea26619c,
   0xd186b8c721c0c207, 0xeada7dd6cde0eb1e, 0xf57d4f7fee6ed178, 0x06f067aa72176fba, 0x0a637dc5a2c898a6,
   0x113f9804bef90dae, 0x1b710b35131c471b, 0x28db77f523047d84, 0x32caab7b40c72493, 0x3c9ebe0a15c9bebc,
   0x431d67c49c100d4c, 0x4cc5d4becb3e42b6, 0x597f299cfc657e2a, 0x5fcb6fab3ad6faec, 0x6c44198c4a475817]

def code256 : ShaCode 32 where
  rounds := 64
  lenAt := 56
  sig0 := (2, 13, 22)
  sig1 := (6, 11, 25)
  th0 := (7, 18, 3)
  th1 := (17, 19, 10)
  k := k256
  state := ⟨0x6a09e667, 0xbb67ae85, 0x3c6ef372, 0xa54ff53a, 0x510e527f, 0x9b05688c, 0x1f83d9ab, 0x5be0cd19⟩

def code512 : ShaCode 64 where
  rounds := 80
  lenAt := 112
  sig0 := (28, 34, 39)
  sig1 := (14, 18, 41)
  th0 := (1, 8, 7)
  th1 := (19, 61, 6)
  k := k512
  state :=
    ⟨0x6a09e667f3bcc908, 0xbb67ae8584caa73b, 0x3c6ef372fe94f82b, 0xa54ff53a5f1d36f1, 0x510e527fade682d1,
     0x9b05688c2b3e6c1f, 0x1f83d9abfb41bd6b, 0x5be0cd19137e2179⟩

def cryptoSha256 (data : List UInt8) : List UInt8 := cryptoSha code256 data

def cryptoSha512 (data : List UInt8) : List UInt8 := cryptoSha code512 data

/-! ## One block -/

/-- The amounts, tables and places of the code are those of the standard. -/
structure Meets {w : Nat} (c : ShaCode w) (v : Variant) : Prop where
  width : w = 32 ∨ w = 64
  rounds : c.rounds = v.rounds ∧ 16 ≤ v.rounds
  lenAt : c.lenAt = 2 * w - w / 4
  sig0 : ∀ x : BitVec w, sig c.sig0 x = bigSigma v.big0 x
  sig1 : ∀ x : BitVec w, sig c.sig1 x = bigSigma v.big1 x
  th0 : ∀ x : BitVec w, th c.th0 x = smallSigma v.small0 x
  th1 : ∀ x : BitVec w, th c.th1 x = smallSigma v.small1 x
  k : ∀ t < v.rounds, c.k.getD t 0 = constant t
  state : c.state = initial w

section
variable {w : Nat} {c : ShaCode w} {v : Variant}

theorem ror_eq (x : BitVec w) (h : n < w) : ror x n = x.rotateRight n := by
  rw [BitVec.rotateRight_def, Nat.mod_eq_of_lt h]
  rfl

theorem sig_eq (h : r.1 < w ∧ r.2.1 < w ∧ r.2.2 < w) (x : BitVec w) : sig r x = bigSigma r x := by
  rw [sig, ror_eq x h.1, ror_eq x h.2.1, ror_eq x h.2.2]
  rfl

theorem th_eq (h : r.1 < w ∧ r.2.1 < w) (x : BitVec w) : th r x = smallSigma r x := by
  rw [th, ror_eq x h.1, ror_eq x h.2]
  rfl

theorem load_eq (bytes : List UInt8) : (load bytes : BitVec w) = word bytes := by
  have hfold : ∀ x : BitVec w, bytes.foldl (fun (x : BitVec w) b => x <<< 8 ||| b.toBitVec.setWidth w) x =
      x <<< (8 * bytes.length) ||| load bytes := by
    induction bytes with
    | nil =>
      intro x
      exact ((congrArg (· ||| 0) (BitVec.shiftLeft_zero x)).trans BitVec.or_zero).symm
    | cons b bs ih =>
      intro x
      rw [List.foldl_cons, ih, List.length_cons, load, BitVec.shiftLeft_or_distrib, Nat.mul_succ, Nat.add_comm,
        BitVec.shiftLeft_add, BitVec.or_assoc]
  have hzero : (0 : BitVec w) <<< (8 * bytes.length) = 0 := BitVec.zero_shiftLeft _
  rw [word, hfold, hzero]
  exact BitVec.zero_or.symm

/-- The array holds the schedule. -/
theorem expand_eq (hm : Meets c v) : expand c block = (List.range v.rounds).map (schedule v block) := by
  have hfirst : ((List.range 16).map fun t => load (slice block (t * (w / 8)) (w / 8))) =
      (List.range 16).map (schedule (w := w) v block) := by
    refine List.map_congr_left fun t ht => ?_
    rw [load_eq, schedule, if_pos (List.mem_range.mp ht)]
  have hget : ∀ m t, t < m → ((List.range m).map (schedule (w := w) v block)).getD t 0 = schedule v block t := by
    intro m t ht
    simp [List.getD_eq_getElem?_getD, ht]
  have hfill : ∀ n, (List.range' 16 n).foldl (fun ws t => ws ++ [th c.th1 (ws.getD (t - 2) 0) + ws.getD (t - 7) 0 +
      th c.th0 (ws.getD (t - 15) 0) + ws.getD (t - 16) 0]) ((List.range 16).map (schedule (w := w) v block)) =
      (List.range (16 + n)).map (schedule v block) := by
    -- one word more: the four that it is computed from are there
    intro n
    induction n with
    | zero => rfl
    | succ n ih =>
      rw [List.range'_concat, List.foldl_append, ih, ← Nat.add_assoc, List.range_succ, List.map_append, Nat.one_mul,
        List.foldl_cons, List.foldl_nil, hget _ _ (by omega), hget _ _ (by omega), hget _ _ (by omega),
        hget _ _ (by omega), hm.th0, hm.th1, List.map_singleton, schedule.eq_def v block (16 + n), if_neg (by omega)]
  rw [expand, hfirst, hfill, hm.rounds.1, Nat.add_sub_cancel' hm.rounds.2]

theorem transform_eq (hm : Meets c v) (x : Words w) : transform c x block = compress v x block := by
  have hround : ∀ y : Words w, ∀ t ∈ List.range v.rounds,
      shaRound c y (c.k.getD t 0) ((expand c block).getD t 0) = y.round v (constant t) (schedule v block t) := by
    intro y t ht
    have hlt := List.mem_range.mp ht
    rw [expand_eq hm, hm.k t hlt]
    simp only [shaRound, Words.round, hm.sig0, hm.sig1, ch, maj, List.getD_eq_getElem?_getD, List.getElem?_map,
      List.getElem?_range hlt, Option.map_some, Option.getD_some]
  rw [transform, compress, hm.rounds.1, List.foldl_ext _ _ x hround]

/-! ## All blocks -/

/-- The loop takes whole blocks off, whatever follows the data. -/
theorem hashFrom_mainLoop (hm : Meets c v) {data : List UInt8} (hfuel : data.length ≤ fuel) (x : Words w)
    (rest : List UInt8) :
    hashFrom v x (data ++ rest) = hashFrom v (mainLoop c fuel x data).1 ((mainLoop c fuel x data).2 ++ rest) ∧
      (mainLoop c fuel x data).2.length = data.length % (2 * w) := by
  have hw : 0 < w := by
    rcases hm.width with h | h <;> omega
  induction fuel generalizing data x with
  | zero =>
    obtain rfl := List.eq_nil_of_length_eq_zero (Nat.le_zero.mp hfuel)
    exact ⟨rfl, (Nat.zero_mod _).symm⟩
  | succ fuel ih =>
    rw [mainLoop]
    split
    case isTrue hfull =>
      have hless : (data.drop (2 * w)).length ≤ fuel := by
        rw [List.length_drop]
        omega
      have hrest := ih hless (transform c x (data.take (2 * w)))
      have hblock : (data.take (2 * w)).length = 2 * w := by
        rw [List.length_take]
        omega
      refine ⟨?_, ?_⟩
      · rw [← hrest.1, transform_eq hm, ← hashFrom_append v hw x hblock, ← List.append_assoc, List.take_append_drop]
      · rw [hrest.2, List.length_drop, ← Nat.mod_eq_sub_mod hfull]
    case isFalse hshort => exact ⟨rfl, (Nat.mod_eq_of_lt (Nat.not_le.mp hshort)).symm⟩

theorem lastBlock_eq (hm : Meets c v) (block : List UInt8) (hbits : bits < 256 ^ 8) :
    lastBlock c block bits = block ++ (List.replicate (c.lenAt - block.length) 0 ++ bigEndian (w / 4) bits) := by
  have hbytes : ((List.range 8).map fun i => UInt8.ofNat (bits >>> (56 - i * 8))) = bigEndian 8 bits := by
    rw [bigEndian_eq]
    refine List.map_congr_left fun i _ => ?_
    rw [Nat.shiftRight_eq_div_pow, show 56 - i * 8 = 8 * (8 - 1 - i) by omega, Nat.pow_mul]
  have hfield : bigEndian (w / 4) bits = List.replicate (2 * w - 8 - c.lenAt) 0 ++ bigEndian 8 bits := by
    rw [← bigEndian_add _ hbits]
    have hlen := hm.lenAt
    congr 1
    rcases hm.width with h | h <;> omega
  rw [lastBlock, hbytes, hfield]

/-- The tail: one block, or two if the length does not fit. -/
theorem hashFrom_tail (hm : Meets c v) (x : Words w) {tail : List UInt8} (htail : tail.length = n % (2 * w))
    (hn : 8 * n < 256 ^ 8) :
    hashFrom v x (tail ++ 0x80 :: (List.replicate ((2 * w - (n + 1 + w / 4) % (2 * w)) % (2 * w)) 0 ++
      bigEndian (w / 4) (8 * n))) = shaTail c x (tail ++ [0x80]) (8 * n) := by
  have hw : 0 < w := by
    rcases hm.width with h | h <;> omega
  have hblock : (tail ++ [(0x80 : UInt8)]).length = n % (2 * w) + 1 := by
    rw [List.length_append, htail, List.length_singleton]
  have hone : ∀ {block : List UInt8} (y : Words w), block.length = 2 * w → hashFrom v y block = compress v y block := by
    intro block y hlen
    have h := hashFrom_append v hw y hlen []
    rwa [List.append_nil, hashFrom_nil] at h
  have hassoc : ∀ rest : List UInt8, tail ++ 0x80 :: rest = (tail ++ [0x80]) ++ rest := fun rest => by simp
  have hlen := hm.lenAt
  rw [shaTail, transform_eq hm, transform_eq hm, transform_eq hm, lastBlock_eq hm _ hn, lastBlock_eq hm _ hn, hassoc]
  generalize tail ++ [(0x80 : UInt8)] = block at hblock ⊢
  split
  case isTrue hlong =>
    have hzeros : (2 * w - (n + 1 + w / 4) % (2 * w)) % (2 * w) = (2 * w - block.length) + c.lenAt := by
      rcases hm.width with rfl | rfl <;> omega
    rw [hzeros, List.replicate_add, List.append_assoc, ← List.append_assoc block, hashFrom_append v hw x ?_, hone _ ?_]
    · rfl
    · rw [List.length_append, List.length_replicate, length_bigEndian]
      rcases hm.width with rfl | rfl <;> omega
    · rw [List.length_append, List.length_replicate]
      rcases hm.width with rfl | rfl <;> omega
  case isFalse hshort =>
    have hzeros : (2 * w - (n + 1 + w / 4) % (2 * w)) % (2 * w) = c.lenAt - block.length := by
      rcases hm.width with rfl | rfl <;> omega
    rw [hzeros]
    refine hone x ?_
    rw [List.length_append, List.length_append, List.length_replicate, length_bigEndian]
    rcases hm.width with rfl | rfl <;> omega

theorem outBytes_eq (x : BitVec w) : outBytes x = bigEndian (w / 8) x.toNat := by
  rw [outBytes, bigEndian_eq]
  refine List.map_congr_left fun j _ => ?_
  rw [BitVec.toNat_ushiftRight, Nat.shiftRight_eq_div_pow, Nat.pow_mul]

theorem cryptoSha_eq (hm : Meets c v) {data : List UInt8} (h : data.length < 2 ^ 61) :
    cryptoSha c data = digest v w data := by
  have hbits : data.length * 8 % 2 ^ 64 = 8 * data.length := by omega
  have hloop := hashFrom_mainLoop hm (Nat.le_refl data.length) (initial w)
  show (shaTail c (mainLoop c data.length c.state data).1 ((mainLoop c data.length c.state data).2 ++ [0x80])
    (data.length * 8 % 2 ^ 64)).toList.flatMap outBytes = _
  rw [digest, pad, (hloop _).1, hashFrom_tail hm _ (hloop []).2 (by omega), hbits, hm.state, funext outBytes_eq]

end

/-! ## The two functions -/

/-- A table of roots, checked entry by entry. -/
theorem roots_of_check {ks : List (BitVec w)}
    (h : ∀ t < n, ∃ i < 8, IsRoot r w (primes.getD t 0) i (ks.getD t 0).toNat) :
    ∀ t < n, ks.getD t 0 = rootBits r w (primes.getD t 0) := by
  intro t ht
  obtain ⟨i, -, hi⟩ := h t ht
  rw [rootBits_eq hi, BitVec.ofNat_toNat, BitVec.setWidth_eq]

theorem initial_eq {x : Words w} (h : ∀ t < 8, x.toList.getD t 0 = rootBits 2 w (primes.getD t 0)) : x = initial w := by
  rw [initial]
  dsimp only
  rw [← h 0 (by decide), ← h 1 (by decide), ← h 2 (by decide), ← h 3 (by decide), ← h 4 (by decide),
    ← h 5 (by decide), ← h 6 (by decide), ← h 7 (by decide)]
  rfl

theorem code256_meets : Meets code256 sha256 where
  width := .inl rfl
  rounds := ⟨rfl, by decide⟩
  lenAt := rfl
  sig0 := sig_eq (by decide)
  sig1 := sig_eq (by decide)
  th0 := th_eq (by decide)
  th1 := th_eq (by decide)
  k := roots_of_check (by rw [primes_eq]; decide +kernel)
  state := initial_eq (roots_of_check (by rw [primes_eq]; decide +kernel))

theorem code512_meets : Meets code512 sha512 where
  width := .inr rfl
  rounds := ⟨rfl, by decide⟩
  lenAt := rfl
  sig0 := sig_eq (by decide)
  sig1 := sig_eq (by decide)
  th0 := th_eq (by decide)
  th1 := th_eq (by decide)
  k := roots_of_check (by rw [primes_eq]; decide +kernel)
  state := initial_eq (roots_of_check (by rw [primes_eq]; decide +kernel))

/-- **Both functions compute the digests of the standard**, of every message shorter than 2^61 bytes. -/
theorem crypto_sha_fips (data : List UInt8) (h : data.length < 2 ^ 61) :
    cryptoSha256 data = digest sha256 32 data ∧ cryptoSha512 data = digest sha512 64 data :=
  ⟨cryptoSha_eq code256_meets h, cryptoSha_eq code512_meets h⟩

theorem crypto_sha_fips_abc : cryptoSha256 [0x61, 0x62, 0x63] = digest sha256 32 [0x61, 0x62, 0x63] ∧
    cryptoSha512 [0x61, 0x62, 0x63] = digest sha512 64 [0x61, 0x62, 0x63] :=
  crypto_sha_fips _ (by decide)

end FluxWAN.Crypto
