/-
  The checksum helpers of the XDP program.

  `csum_replace2` and `csum_replace4` update a checksum from the words that change, `csum_fold_helper` takes
  one of a sum over all words.  Both are about sums modulo 65535 (`Lib/OnesComplement`), and each helper has one
  lemma that says what it does to the sum of the string it is stored in:

  * `csumReplace…_mod` — the new words and the new checksum weigh what the old ones did;
  * `csumFoldHelper_mod` — the checksum completes the sum to a multiple of 65535;
  * `hostSum_updateIpChecksum` — so the 20 bytes of a header come out right, whatever was in them.

  Of two strings that both weigh 0 the checksums still can be the two zeros, 0 and 0xffff.  No helper turns a
  checksum that is not 0xffff into 0xffff, and with that `checksum_updates` gives equality with a recomputation.
-/
import FluxWAN.Lib.OnesComplement
import FluxWAN.Xdp.Rewrite

namespace FluxWAN.Xdp

open Bytes OnesComplement

/-! ## Folding -/

theorem toNat_low16 (x : UInt32) : (low16 x).toNat = x.toNat % 65536 := by
  rw [low16, UInt32.toNat_and]
  exact Nat.and_two_pow_sub_one_eq_mod x.toNat 16

theorem toNat_not (x : UInt32) : (~~~x).toNat = 4294967295 - x.toNat := UInt32.toNat_not x

theorem toNat_low16_not (x : UInt32) : (low16 (~~~x)).toNat = 65535 - x.toNat % 65536 := by
  have hx := x.toNat_lt
  rw [toNat_low16, toNat_not]
  omega

theorem toNat_shiftRight_16 (x : UInt32) : (x >>> 16).toNat = x.toNat / 65536 := by
  rw [UInt32.toNat_shiftRight, Nat.shiftRight_eq_div_pow]
  rfl

/-- One fold. -/
theorem toNat_fold (c : UInt32) : (low16 c + (c >>> 16)).toNat = c.toNat % 65536 + c.toNat / 65536 := by
  have hc := c.toNat_lt
  rw [UInt32.toNat_add, toNat_low16, toNat_shiftRight_16]
  omega

/-- Two folds are enough: what is left fits 16 bits, and its complement is stored. -/
theorem exists_fold (c : UInt32) :
    ∃ r, (csumFinish c).toNat = 65535 - r ∧ r ≤ 65535 ∧ r % 65535 = c.toNat % 65535 ∧
      (0 < c.toNat → 0 < r) := by
  have hc := c.toNat_lt
  have hfold := toNat_fold c
  have hfold' := toNat_fold (low16 c + (c >>> 16))
  have hstored : (csumFinish c).toNat =
      (4294967295 - (low16 (low16 c + (c >>> 16)) + ((low16 c + (c >>> 16)) >>> 16)).toNat) % 65536 := by
    simp only [csumFinish, UInt32.toNat_toUInt16, toNat_not]
  generalize (low16 (low16 c + (c >>> 16)) + ((low16 c + (c >>> 16)) >>> 16)).toNat = r at hfold' hstored
  generalize (low16 c + (c >>> 16)).toNat = d at hfold hfold'
  have hd : d ≤ 131070 := by omega
  have hr : r ≤ 65535 := by omega
  refine ⟨r, ?_, hr, ?_, by omega⟩
  · omega
  · have h₁ : d % 65535 = c.toNat % 65535 := by omega
    have h₂ : r % 65535 = d % 65535 := by omega
    rw [h₂, h₁]

theorem csumFinish_mod (c : UInt32) : ((csumFinish c).toNat + c.toNat) % 65535 = 0 := by
  obtain ⟨r, hr, hle, hmod, -⟩ := exists_fold c
  omega

/-- Of the two zeros, an update stores 0. -/
theorem csumFinish_ne {c : UInt32} (h : 0 < c.toNat) : (csumFinish c).toNat ≠ 65535 := by
  obtain ⟨r, hr, hle, -, hpos⟩ := exists_fold c
  have := hpos h
  omega

theorem toNat_low16_not_toUInt32 (x : UInt16) : (low16 (~~~x.toUInt32)).toNat = 65535 - x.toNat := by
  have hx := x.toNat_lt
  rw [toNat_low16_not, UInt16.toNat_toUInt32]
  omega

/-- `csum_replace2` keeps the sum of checksum and word. -/
theorem csumReplace2_mod (csum old new : UInt16) :
    ((csumReplace2 csum old new).toNat + new.toNat) % 65535 = (csum.toNat + old.toNat) % 65535 := by
  have hcsum := csum.toNat_lt
  have hold := old.toNat_lt
  have hnew := new.toNat_lt
  have hsum : (low16 (~~~csum.toUInt32) + low16 (~~~old.toUInt32) + new.toUInt32).toNat =
      65535 - csum.toNat + (65535 - old.toNat) + new.toNat := by
    rw [UInt32.toNat_add, UInt32.toNat_add, toNat_low16_not_toUInt32, toNat_low16_not_toUInt32, UInt16.toNat_toUInt32]
    omega
  have hfin := csumFinish_mod (low16 (~~~csum.toUInt32) + low16 (~~~old.toUInt32) + new.toUInt32)
  rw [hsum] at hfin
  rw [csumReplace2]
  clear hsum
  omega

theorem csumReplace2_ne {csum old new : UInt16} (h : csum.toNat < 65535 ∨ old.toNat < 65535 ∨ 0 < new.toNat) :
    (csumReplace2 csum old new).toNat ≠ 65535 := by
  have hcsum := csum.toNat_lt
  have hold := old.toNat_lt
  have hnew := new.toNat_lt
  refine csumFinish_ne ?_
  rw [UInt32.toNat_add, UInt32.toNat_add, toNat_low16_not_toUInt32, toNat_low16_not_toUInt32, UInt16.toNat_toUInt32]
  omega

theorem halves_le (x : UInt32) : halves x ≤ 131070 := by
  have hx := x.toNat_lt
  unfold halves
  omega

/-- What `csum_replace4` adds up. -/
theorem toNat_csumReplace4_sum (csum : UInt16) :
    (low16 (~~~csum.toUInt32) + low16 (~~~(old >>> 16)) + low16 (~~~(low16 old)) + (new >>> 16) +
      low16 new).toNat = 196605 - csum.toNat - halves old + halves new := by
  have hcsum := csum.toNat_lt
  have hold := old.toNat_lt
  have hnew := new.toNat_lt
  rw [UInt32.toNat_add, UInt32.toNat_add, UInt32.toNat_add, UInt32.toNat_add, toNat_low16_not_toUInt32,
    toNat_low16_not (old >>> 16), toNat_low16_not (low16 old), toNat_low16, toNat_low16,
    toNat_shiftRight_16, toNat_shiftRight_16, halves, halves]
  have hoh : old.toNat / 65536 < 65536 := by omega
  have hol : old.toNat % 65536 < 65536 := Nat.mod_lt _ (by decide)
  have hnh : new.toNat / 65536 < 65536 := by omega
  have hnl : new.toNat % 65536 < 65536 := Nat.mod_lt _ (by decide)
  rw [Nat.mod_eq_of_lt hoh, Nat.mod_eq_of_lt hol]
  generalize old.toNat / 65536 = oh at *
  generalize old.toNat % 65536 = ol at *
  generalize new.toNat / 65536 = nh at *
  generalize new.toNat % 65536 = nl at *
  omega

/-- `csum_replace4` keeps the sum of checksum and both halves. -/
theorem csumReplace4_mod (csum : UInt16) (old new : UInt32) :
    ((csumReplace4 csum old new).toNat + halves new) % 65535 = (csum.toNat + halves old) % 65535 := by
  have hcsum := csum.toNat_lt
  have hhalves := halves_le old
  have hfin := csumFinish_mod (low16 (~~~csum.toUInt32) + low16 (~~~(old >>> 16)) +
    low16 (~~~(low16 old)) + (new >>> 16) + low16 new)
  rw [toNat_csumReplace4_sum] at hfin
  rw [csumReplace4]
  omega

/-- An update that does not change the sum keeps the checksum, except that it turns 0xffff into 0. -/
theorem csumReplace4_eq_self_iff (hpos : halves old < 131070 ∨ 0 < halves new)
    (hsum : halves old % 65535 = halves new % 65535) : csumReplace4 csum old new = csum ↔ csum ≠ 0xffff := by
  have hcsum := csum.toNat_lt
  have hhalves := halves_le old
  have hmod := csumReplace4_mod csum old new
  have hne : (csumReplace4 csum old new).toNat ≠ 65535 :=
    csumFinish_ne (by rw [toNat_csumReplace4_sum]; omega)
  have hlt := (csumReplace4 csum old new).toNat_lt
  rw [← UInt16.toNat_inj, ne_eq, ← UInt16.toNat_inj, show (0xffff : UInt16).toNat = 65535 from rfl]
  omega

theorem csumReplace4_self (csum : UInt16) (x : UInt32) : csumReplace4 csum x x = csum ↔ csum ≠ 0xffff :=
  csumReplace4_eq_self_iff (by omega) rfl

theorem csumReplace4_ones (x : UInt32) : csumReplace4 0xffff x x = 0 := by
  have hhalves := halves_le x
  have hmod := csumReplace4_mod 0xffff x x
  have hne : csumReplace4 0xffff x x ≠ 0xffff := fun h => (csumReplace4_self _ _).mp h rfl
  have hlt := (csumReplace4 0xffff x x).toNat_lt
  rw [ne_eq, ← UInt16.toNat_inj, show (0xffff : UInt16).toNat = 65535 from rfl] at hne
  rw [show (0xffff : UInt16).toNat = 65535 from rfl] at hmod
  rw [← UInt16.toNat_inj, show (0 : UInt16).toNat = 0 from rfl]
  omega

/-- One conditional fold. -/
theorem toNat_csumFold (c : UInt64) (h : c.toNat < 2 ^ 32) :
    (csumFold c).toNat = c.toNat % 65536 + c.toNat / 65536 := by
  have hshift : (c >>> 16).toNat = c.toNat / 65536 := by
    rw [UInt64.toNat_shiftRight, Nat.shiftRight_eq_div_pow]
    rfl
  have hand : (c &&& (0xffff : UInt64)).toNat = c.toNat % 65536 := by
    rw [UInt64.toNat_and]
    exact Nat.and_two_pow_sub_one_eq_mod c.toNat 16
  unfold csumFold
  split
  · rw [UInt64.toNat_add, hand, hshift]
    omega
  · rename_i hzero
    have : c.toNat / 65536 = 0 := by rw [← hshift, not_not.mp hzero]; rfl
    omega

/-- A fold keeps a sum modulo 65535, and from becoming 0. -/
theorem csumFold_mod {c : UInt64} (h : c.toNat < 2 ^ 32) :
    (csumFold c).toNat % 65535 = c.toNat % 65535 ∧ (csumFold c).toNat ≤ 65535 + c.toNat / 65536 ∧
      (0 < c.toNat → 0 < (csumFold c).toNat) := by
  rw [toNat_csumFold c h]
  omega

/-- `csum_fold_helper` completes a sum to a multiple of 65535; of the two zeros it stores 0. -/
theorem csumFoldHelper_mod (c : UInt64) (h : c.toNat < 2 ^ 32) :
    ((csumFoldHelper c).toNat + c.toNat) % 65535 = 0 ∧ (0 < c.toNat → (csumFoldHelper c).toNat ≠ 65535) := by
  obtain ⟨m₁, b₁, p₁⟩ := csumFold_mod h
  have h₁ : (csumFold c).toNat ≤ 131070 := by omega
  obtain ⟨m₂, b₂, p₂⟩ := csumFold_mod (c := csumFold c) (by omega)
  have h₂ : (csumFold (csumFold c)).toNat ≤ 65536 := by omega
  obtain ⟨m₃, -, p₃⟩ := csumFold_mod (c := csumFold (csumFold c)) (by omega)
  have h₃ : (csumFold (csumFold (csumFold c))).toNat ≤ 65535 := by
    rw [toNat_csumFold _ (by omega)]
    omega
  have h₄ := toNat_csumFold (csumFold (csumFold (csumFold c))) (by omega)
  have hnot : (csumFoldHelper c).toNat =
      (18446744073709551615 - (csumFold (csumFold (csumFold (csumFold c)))).toNat) % 65536 := by
    rw [csumFoldHelper, UInt64.toNat_toUInt16]
    exact congrArg (· % 65536) (UInt64.toNat_not _)
  rw [Nat.mod_eq_of_lt (show (csumFold (csumFold (csumFold c))).toNat < 65536 by omega),
    Nat.div_eq_of_lt (show (csumFold (csumFold (csumFold c))).toNat < 65536 by omega), Nat.add_zero] at h₄
  rw [h₄] at hnot
  have hmod : (csumFold (csumFold (csumFold c))).toNat % 65535 = c.toNat % 65535 := by rw [m₃, m₂, m₁]
  have hvalue : (csumFoldHelper c).toNat = 65535 - (csumFold (csumFold (csumFold c))).toNat := by
    clear m₁ m₂ m₃ b₁ b₂ h₁ h₂ h₄ p₁ p₂ p₃ hmod
    omega
  rw [hvalue]
  refine ⟨by clear m₁ m₂ m₃ p₁ p₂ p₃ hnot; omega, fun h => ?_⟩
  have := p₃ (p₂ (p₁ h))
  omega

/-! ## Sums over a frame -/

theorem length_bytes16 (x : UInt16) : (bytes16 x).length = 2 := rfl

theorem length_bytes32 (x : UInt32) : (bytes32 x).length = 4 := rfl

/-- A word in the frame weighs what a load of it gives. -/
theorem hostSum_slice_two {buf : List UInt8} (h : i + 2 ≤ buf.length) :
    hostSum (slice buf i 2) = (le16 buf i).toNat := by
  rw [slice_succ (by omega), slice_succ (by omega), toNat_le16]
  rfl

theorem hostSum_slice_four {buf : List UInt8} (h : i + 4 ≤ buf.length) :
    hostSum (slice buf i 4) = halves (le32 buf i) := by
  have h₀ := (byteAt buf i).toNat_lt
  have h₁ := (byteAt buf (i + 1)).toNat_lt
  rw [slice_succ (by omega), slice_succ (by omega), slice_succ (by omega), slice_succ (by omega), halves, toNat_le32]
  simp only [slice, List.take_zero, hostSum, Nat.add_assoc, Nat.reduceAdd]
  omega

/-- The sum the program takes over `n` words. -/
theorem toNat_wordSum {frame : List UInt8} (h : i + 2 * n ≤ frame.length) (hn : n ≤ 65536) :
    (wordSum frame i n).toNat = hostSum (slice frame i (2 * n)) ∧ (wordSum frame i n).toNat ≤ n * 65535 := by
  induction n with
  | zero => exact ⟨by simp [wordSum, slice, hostSum], by simp [wordSum]⟩
  | succ n ih =>
    obtain ⟨hsum, hle⟩ := ih (by omega) (by omega)
    have hword := (le16 frame (i + 2 * n)).toNat_lt
    have hstep : wordSum frame i (n + 1) = wordSum frame i n + (le16 frame (i + 2 * n)).toUInt64 := by
      simp only [wordSum, List.range_succ, List.foldl_append, List.foldl_cons, List.foldl_nil]
    have hadd : (wordSum frame i (n + 1)).toNat = (wordSum frame i n).toNat + (le16 frame (i + 2 * n)).toNat := by
      rw [hstep, UInt64.toNat_add, UInt16.toNat_toUInt64, Nat.mod_eq_of_lt (by omega)]
    refine ⟨?_, by omega⟩
    rw [hadd, hsum, Nat.mul_succ, hostSum_slice_add 2 (by omega) (by omega), hostSum_slice_two (by omega)]

/-! ## Checksums taken over a range -/

section
variable {frame : List UInt8} {ip : Nat}

/-- What a store of whole words does to the sum of a range around it. -/
theorem hostSum_store (h : i + n ≤ frame.length) (hm : new.length = m) (heven : m % 2 = 0) (hi : i ≤ j)
    (hj : (j - i) % 2 = 0) (hin : j + m ≤ i + n) :
    hostSum (slice (store frame j new) i n) + hostSum (slice frame j m) = hostSum (slice frame i n) + hostSum new := by
  subst hm
  obtain ⟨d, rfl⟩ := Nat.exists_eq_add_of_le hi
  obtain ⟨r, rfl⟩ : ∃ r, n = d + (new.length + r) := ⟨n - d - new.length, by omega⟩
  have hfit : i + d + new.length ≤ frame.length := by omega
  -- the words before the place, at it, and behind it
  have hsplit (buf : List UInt8) (hbuf : buf.length = frame.length) : hostSum (slice buf i (d + (new.length + r))) =
      hostSum (slice buf i d) + (hostSum (slice buf (i + d) new.length) +
        hostSum (slice buf (i + d + new.length) r)) := by
    rw [hostSum_slice_add _ (by omega) (by omega), hostSum_slice_add _ (by omega) heven]
  rw [hsplit frame rfl, hsplit _ (length_store hfit), slice_store_of_outside hfit (.inl (Nat.le_refl _)),
    slice_store_self (by omega), slice_store_of_outside hfit (.inr (Nat.le_refl _))]
  omega

/-- The sum of a range whose checksum is 0, folded into that checksum, makes the range a multiple of 65535. -/
theorem hostSum_store_checksum (h : i + 2 * n ≤ frame.length) (hn : n ≤ 65536) (hk : k < n)
    (hzero : slice frame (i + 2 * k) 2 = bytes16 0) :
    hostSum (slice (store frame (i + 2 * k) (bytes16 (csumFoldHelper (wordSum frame i n)))) i (2 * n)) %
      65535 = 0 := by
  obtain ⟨hsum, hle⟩ := toNat_wordSum h hn
  obtain ⟨hfold, -⟩ := csumFoldHelper_mod (wordSum frame i n) (by omega)
  have hstore := hostSum_store (j := i + 2 * k) h
    (length_bytes16 (csumFoldHelper (wordSum frame i n))) rfl (by omega) (by omega) (by omega)
  rw [hzero, hostSum_bytes16, hostSum_bytes16, UInt16.toNat_zero] at hstore
  omega

/-- `update_ip_checksum` writes two bytes, … -/
theorem slice_updateIpChecksum_of_outside (h : ip + 12 ≤ frame.length)
    (hj : j + n ≤ ip + 10 ∨ ip + 12 ≤ j) : slice (updateIpChecksum frame ip) j n = slice frame j n := by
  simp only [updateIpChecksum]
  rw [slice_store_bytes16_of_outside _ (by rw [length_store_bytes16 _ h]; exact h) hj,
    slice_store_bytes16_of_outside _ h hj]

/-- … which are right for the 20 bytes, whatever these are. -/
theorem hostSum_updateIpChecksum (h : ip + 20 ≤ frame.length) :
    hostSum (slice (updateIpChecksum frame ip) ip 20) % 65535 = 0 := by
  have hfit : ip + 10 + 2 ≤ frame.length := by omega
  have hlen := length_store_bytes16 0 hfit
  exact hostSum_store_checksum (k := 5) (n := 10) (by omega) (by decide) (by decide)
    (slice_store_bytes16 0 hfit)

end

/-! ## Datagrams -/

section
variable (frame : List UInt8) (ip : Nat)

/-- The length of the header at `ip`, options included. -/
def ipHeaderLen : Nat := (byteAt frame ip &&& 0x0F).toNat * 4

/-- `tot_len` of the header at `ip`. -/
def ipTotLen : Nat := (be16 frame (ip + 2)).toNat

/-- What the header at `ip` carries; padding behind it does not belong to the datagram. -/
def ipPayload : List UInt8 := slice frame (ip + ipHeaderLen frame ip) (ipTotLen frame ip - ipHeaderLen frame ip)

/-- A well-formed IPv4 datagram at `ip`, with a correct header checksum. -/
structure ValidIpv4 : Prop where
  version : byteAt frame ip >>> 4 = 4
  headerLen : 20 ≤ ipHeaderLen frame ip
  totLen : ipHeaderLen frame ip ≤ ipTotLen frame ip
  inFrame : ip + ipTotLen frame ip ≤ frame.length
  checksum : Verifies (slice frame ip (ipHeaderLen frame ip))

/-- The pseudo-header of TCP and UDP: addresses, protocol, length. -/
def pseudoHeader : List UInt8 :=
  let n := ipTotLen frame ip - ipHeaderLen frame ip
  slice frame (ip + 12) 8 ++ [0, byteAt frame (ip + 9), UInt8.ofNat (n / 256), UInt8.ofNat n]

/-- The transport checksum is correct. -/
def TransportVerifies : Prop := Verifies (pseudoHeader frame ip ++ ipPayload frame ip)

/-- A TCP segment or a UDP datagram with a checksum, whole and correct. -/
structure ValidTransport : Prop where
  header :
    byteAt frame (ip + 9) = ipprotoTcp ∧ 20 ≤ (ipPayload frame ip).length ∨
      byteAt frame (ip + 9) = ipprotoUdp ∧ 8 ≤ (ipPayload frame ip).length ∧
        (be16 (ipPayload frame ip) 4).toNat = (ipPayload frame ip).length ∧ le16 (ipPayload frame ip) 6 ≠ 0
  checksum : TransportVerifies frame ip

end

section
variable {frame : List UInt8} {ip : Nat}

/-- The first byte keeps a header from being all zeros, … -/
theorem hostSum_pos_of_byteAt (hlen : ip + n ≤ frame.length) (hn : 0 < n) (hbyte : byteAt frame ip ≠ 0) :
    0 < hostSum (slice frame ip n) := by
  obtain ⟨m, rfl⟩ := Nat.exists_eq_succ_of_ne_zero (Nat.ne_of_gt hn)
  refine hostSum_pos (b := byteAt frame ip) ?_ hbyte
  rw [slice_succ (by omega)]
  exact List.mem_cons_self

/-- … for it holds the version. -/
theorem hostSum_header_pos (hlen : ip + n ≤ frame.length) (hn : 0 < n)
    (hversion : byteAt frame ip >>> 4 = 4) : 0 < hostSum (slice frame ip n) := by
  refine hostSum_pos_of_byteAt hlen hn fun hzero => ?_
  rw [hzero] at hversion
  exact absurd hversion (by decide)

/-- The parser's test of the header length. -/
theorem not_ihl_lt_five (h : 20 ≤ ipHeaderLen frame ip) : ¬ byteAt frame ip &&& 0x0F < 5 := by
  intro hlt
  have hnat := UInt8.lt_iff_toNat_lt.mp hlt
  rw [show (5 : UInt8).toNat = 5 from rfl] at hnat
  unfold ipHeaderLen at h
  omega

/-- A datagram is parsed. -/
theorem ValidIpv4.parseIpv4_eq (h : ValidIpv4 frame ip) :
    parseIpv4 frame ip = some (ip + ipHeaderLen frame ip,
      { srcIp := le32 frame (ip + 12), dstIp := le32 frame (ip + 16), proto := byteAt frame (ip + 9) }) := by
  have hfits : ip + ipHeaderLen frame ip ≤ frame.length :=
    Nat.le_trans (Nat.add_le_add_left h.totLen ip) h.inFrame
  have hhead := h.headerLen
  have hihl := not_ihl_lt_five hhead
  unfold ipHeaderLen at hfits hhead
  simp only [parseIpv4]
  rw [if_neg (by omega), if_neg (not_or.mpr ⟨not_not.mpr h.version, hihl⟩), if_neg (by omega)]
  rfl

theorem ipHeaderLen_le : ipHeaderLen frame ip ≤ 60 := by
  have hihl : (byteAt frame ip &&& 0x0F).toNat = (byteAt frame ip).toNat % 16 := by
    rw [UInt8.toNat_and]
    exact Nat.and_two_pow_sub_one_eq_mod _ 4
  unfold ipHeaderLen
  omega

end

/-! ## Updates -/

/-- The checksum that a recomputation over `n` words gives; `update_ip_checksum` stores it with `n = 10`. -/
def fullChecksum (frame : List UInt8) (ip n : Nat) : UInt16 :=
  csumFoldHelper (wordSum (store frame (ip + 10) (bytes16 0)) ip n)

theorem updateIpChecksum_eq_fullChecksum : updateIpChecksum frame ip =
    store (store frame (ip + 10) (bytes16 0)) (ip + 10) (bytes16 (fullChecksum frame ip 10)) := rfl

/-- A header of `n` words at `ip`: any words, but for the version and a checksum that verifies. -/
structure HeaderAt (frame : List UInt8) (ip n : Nat) : Prop where
  words : 10 ≤ n ∧ n ≤ 30
  fits : ip + 2 * n ≤ frame.length
  version : byteAt frame ip >>> 4 ≠ 0
  checksum : Verifies (slice frame ip (2 * n))

/-- Other words behind the first `k`, with this checksum. -/
def replaced (frame : List UInt8) (ip k : Nat) (new : List UInt8) (csum : UInt16) : List UInt8 :=
  store (store frame (ip + 2 * k) new) (ip + 10) (bytes16 csum)

/-- The header verifies again, and a checksum that was the recomputed one still is. -/
def Updated (frame frame' : List UInt8) (ip n : Nat) : Prop :=
  Verifies (slice frame' ip (2 * n)) ∧
    (le16 frame (ip + 10) = fullChecksum frame ip n → le16 frame' (ip + 10) = fullChecksum frame' ip n)

section
variable {frame new : List UInt8} {ip n k : Nat}

/-- The recomputed checksum completes the other words, and is not 0xffff. -/
theorem fullChecksum_spec (hn : 10 ≤ n ∧ n ≤ 30) (hfits : ip + 2 * n ≤ frame.length) (hbyte : byteAt frame ip ≠ 0) :
    ((fullChecksum frame ip n).toNat + hostSum (slice frame ip (2 * n))) % 65535 =
        (le16 frame (ip + 10)).toNat % 65535 ∧
      (fullChecksum frame ip n).toNat ≠ 65535 := by
  have hten : ip + 10 + 2 ≤ frame.length := by omega
  have hlen := length_store_bytes16 0 hten
  have hstore := hostSum_store (j := ip + 10) hfits (length_bytes16 0) rfl (by omega) (by omega) (by omega)
  rw [hostSum_slice_two hten, hostSum_bytes16, UInt16.toNat_zero] at hstore
  have hfirst : byteAt (store frame (ip + 10) (bytes16 0)) ip = byteAt frame ip :=
    byteAt_store_of_outside hten (.inl (by omega))
  have hpos := hostSum_pos_of_byteAt (n := 2 * n) (by omega) (by omega) (hfirst ▸ hbyte)
  rw [fullChecksum]
  generalize store frame (ip + 10) (bytes16 0) = blank at *
  obtain ⟨hsum, hle⟩ := toNat_wordSum (show ip + 2 * n ≤ blank.length by omega) (by omega)
  obtain ⟨hfold, hne⟩ := csumFoldHelper_mod (wordSum blank ip n) (by omega)
  exact ⟨by omega, hne (by omega)⟩

/-- An update that keeps the sum modulo 65535, and does not turn another checksum into 0xffff. -/
theorem HeaderAt.updated (h : HeaderAt frame ip n) (hm : new.length = m) (heven : m % 2 = 0) (hk : 1 ≤ k)
    (hin : 2 * k + m ≤ 2 * n) (hbeside : 2 * k + m ≤ 10 ∨ 12 ≤ 2 * k)
    (hmod : (csum.toNat + hostSum new) % 65535 =
      ((le16 frame (ip + 10)).toNat + hostSum (slice frame (ip + 2 * k) m)) % 65535)
    (hne : (le16 frame (ip + 10)).toNat ≠ 65535 → csum.toNat ≠ 65535) :
    Updated frame (replaced frame ip k new csum) ip n := by
  subst hm
  have hfits := h.fits
  have hn := h.words
  have hbyte : byteAt frame ip ≠ 0 := fun hzero => h.version (by rw [hzero]; rfl)
  have hplace : ip + 2 * k + new.length ≤ frame.length := by omega
  have hlen := length_store hplace
  have hten : ip + 10 + 2 ≤ (store frame (ip + 2 * k) new).length := by omega
  have hlen' := length_store_bytes16 csum hten
  have hcheck : le16 (store frame (ip + 2 * k) new) (ip + 10) = le16 frame (ip + 10) :=
    le16_of_slice ((slice_store_of_outside hplace (by omega)).trans (slice_two (by omega)))
  have hcheck' := le16_of_slice (slice_store_bytes16 csum hten)
  have hfirst : byteAt (replaced frame ip k new csum) ip = byteAt frame ip :=
    (byteAt_store_of_outside hten (.inl (by omega))).trans (byteAt_store_of_outside hplace (.inl (by omega)))
  have hwords := hostSum_store (j := ip + 2 * k) hfits rfl heven (by omega) (by omega) (by omega)
  have hsum := hostSum_store (j := ip + 10) (hlen ▸ hfits) (length_bytes16 csum) rfl (by omega) (by omega) (by omega)
  rw [hostSum_slice_two hten, hcheck, hostSum_bytes16] at hsum
  rw [← replaced] at hlen' hcheck' hsum
  generalize replaced frame ip k new csum = frame' at *
  obtain ⟨-, hold⟩ := (verifies_iff _).mp h.checksum
  have hpos := hostSum_pos_of_byteAt (show ip + 2 * n ≤ frame'.length by omega) (by omega) (hfirst ▸ hbyte)
  refine ⟨(verifies_iff _).mpr ⟨hpos, by omega⟩, fun hfull => ?_⟩
  -- two checksums below 0xffff that complete the same words
  obtain ⟨-, hfullNe⟩ := fullChecksum_spec hn hfits hbyte
  obtain ⟨hnew, hnewNe⟩ := fullChecksum_spec hn (show ip + 2 * n ≤ frame'.length by omega) (hfirst ▸ hbyte)
  have hcsum : csum.toNat ≠ 65535 := hne (hfull ▸ hfullNe)
  have hlt := csum.toNat_lt
  have hlt' := (fullChecksum frame' ip n).toNat_lt
  rw [hcheck'] at hnew ⊢
  rw [← UInt16.toNat_inj]
  omega

end

/-- **Incremental updates are exact.**  For every header, every word but the first and the checksum, and every pair of
    such words. -/
theorem checksum_updates {frame : List UInt8} {ip n : Nat} (h : HeaderAt frame ip n) :
    (∀ k new, 1 ≤ k → k < n → k ≠ 5 → Updated frame (replaced frame ip k (bytes16 new)
      (csumReplace2 (le16 frame (ip + 10)) (le16 frame (ip + 2 * k)) new)) ip n) ∧
    ∀ k new, 1 ≤ k → k + 1 < n → k ≠ 4 → k ≠ 5 → Updated frame (replaced frame ip k (bytes32 new)
      (csumReplace4 (le16 frame (ip + 10)) (le32 frame (ip + 2 * k)) new)) ip n := by
  have hfits := h.fits
  have hlt := (le16 frame (ip + 10)).toNat_lt
  constructor
  · intro k new hk hkn hfive
    refine h.updated (length_bytes16 new) rfl hk (by omega) (by omega) ?_ fun hne => csumReplace2_ne (.inl (by omega))
    rw [hostSum_bytes16, hostSum_slice_two (by omega)]
    exact csumReplace2_mod _ _ _
  · intro k new hk hkn hfour hfive
    refine h.updated (length_bytes32 new) rfl hk (by omega) (by omega) ?_ fun hne => ?_
    · rw [hostSum_bytes32, hostSum_slice_four (by omega)]
      exact csumReplace4_mod _ _ _
    · have hhalves := halves_le (le32 frame (ip + 2 * k))
      refine csumFinish_ne ?_
      rw [toNat_csumReplace4_sum]
      omega

/-- The header of a ping from 10.0.0.1 to 10.0.0.2. -/
def pingHeader : List UInt8 := [0x45, 0, 0, 28, 0, 0, 0, 0, 64, 1, 0x66, 0xDF, 10, 0, 0, 1, 10, 0, 0, 2]

/-- Its source becomes 10.0.0.7. -/
theorem checksum_updates_ping : Updated pingHeader (replaced pingHeader 0 6 (bytes32 0x0700000A)
    (csumReplace4 (le16 pingHeader 10) (le32 pingHeader 12) 0x0700000A)) 0 10 :=
  (checksum_updates ⟨by decide, by decide, by decide, by decide⟩).2 6 _ (by decide) (by decide) (by decide) (by decide)

end FluxWAN.Xdp
