/-
  From the CIDR text of a policy route to the packets it covers.

  `parse_cidr_subnet` keeps the address of the text as it stands and makes a netmask of the prefix length;
  the loader copies both into the policy entry; the program masks the SOURCE of a packet and compares it
  with the address, and takes a zero netmask for "no entry".  So host bits that the text leaves set are
  never matched by a masked source, and the prefix length 0 covers nobody: `cidr_covers_iff`.

  Everything happens in network byte order on a little-endian host.  `htonl` turns the comparison around
  into numbers (`htonl_and`, `htonl_htonl`), where masking is rounding down to a multiple of a power of 2
  (`and_ones_shiftLeft`).
-/
import Mathlib.Data.Nat.Digits.Defs
import FluxWAN.ByteOrder
import FluxWAN.ConfigLoad
import FluxWAN.Xdp.Router

namespace FluxWAN

open CString

/-! ## Byte order -/

/-- Four bytes in network byte order, read as a number. -/
theorem htonl_octets (ha : a < 256) (hb : b < 256) (hc : c < 256) (hd : d < 256) :
    htonl (UInt32.ofNat (a + b * 2 ^ 8 + c * 2 ^ 16 + d * 2 ^ 24)) =
      UInt32.ofNat (a * 2 ^ 24 + b * 2 ^ 16 + c * 2 ^ 8 + d) := by
  have hl : a + b * 2 ^ 8 + c * 2 ^ 16 + d * 2 ^ 24 = 2 ^ 8 * (2 ^ 8 * (2 ^ 8 * d + c) + b) + a := by
    omega
  have hr : a * 2 ^ 24 + b * 2 ^ 16 + c * 2 ^ 8 + d = 2 ^ 8 * (2 ^ 8 * (2 ^ 8 * a + b) + c) + d := by
    omega
  refine eq_of_bits fun i hi => ?_
  rw [getLsbD_htonl _ hi, hl, hr]
  simp only [UInt32.toBitVec_ofNat', BitVec.getLsbD_ofNat]
  rw [Nat.testBit_two_pow_mul_add _ ha, Nat.testBit_two_pow_mul_add _ hb,
    Nat.testBit_two_pow_mul_add _ hc, Nat.testBit_two_pow_mul_add _ hd,
    Nat.testBit_two_pow_mul_add _ hc, Nat.testBit_two_pow_mul_add _ hb]
  interval_cases i <;> simp

/-- Masking with ones above bit `k` rounds down. -/
theorem and_ones_shiftLeft (x : UInt32) (hk : k < 32) :
    (x &&& ((0xFFFFFFFF : UInt32) <<< UInt32.ofNat k)).toNat = x.toNat / 2 ^ k * 2 ^ k := by
  have hk' : (UInt32.ofNat k).toNat % 32 = k := by
    rw [UInt32.toNat_ofNat_of_lt' (Nat.lt_trans hk (by decide)), Nat.mod_eq_of_lt hk]
  have hones : (0xFFFFFFFF : UInt32).toNat = 2 ^ 32 - 1 := rfl
  rw [← Nat.shiftRight_eq_div_pow, ← Nat.shiftLeft_eq]
  refine Nat.eq_of_testBit_eq fun i => ?_
  rw [UInt32.toNat_and, UInt32.toNat_shiftLeft, hk', hones, Nat.testBit_and,
    Nat.testBit_mod_two_pow, Nat.testBit_shiftLeft, Nat.testBit_two_pow_sub_one,
    Nat.testBit_shiftLeft, Nat.testBit_shiftRight]
  by_cases hki : k ≤ i
  · have hadd : k + (i - k) = i := by omega
    by_cases hi : i < 32
    · have hsub : i - k < 32 := by omega
      simp [hki, hi, hsub, hadd]
    · have hx : x.toNat.testBit i = false :=
        Nat.testBit_lt_two_pow (Nat.lt_of_lt_of_le x.toNat_lt
          (Nat.pow_le_pow_right (by decide) (by omega)))
      simp [hadd, hx]
  · simp [hki]

/-! ## The text -/

/-- `a.b.c.d`. -/
def dottedQuad (a b c d : Nat) : CStr :=
  showNat a ++ '.' :: (showNat b ++ '.' :: (showNat c ++ '.' :: showNat d))

/-- `a.b.c.d/p`. -/
def cidrText (a b c d p : Nat) : CStr := dottedQuad a b c d ++ '/' :: showNat p

/-- The number of an address. -/
def addressNumber (a b c d : Nat) : Nat := a * 2 ^ 24 + b * 2 ^ 16 + c * 2 ^ 8 + d

section
variable {a b c d : Nat} (ha : a < 256) (hb : b < 256) (hc : c < 256) (hd : d < 256)
include ha hb hc hd

theorem length_dottedQuad : (dottedQuad a b c d).length < 16 := by
  have hoctet {x : Nat} (hx : x < 256) : (showNat x).length ≤ 3 :=
    Nat.toDigits_length 10 _ 3 (by decide) (Nat.lt_trans hx (by decide))
  have h0 := hoctet ha
  have h1 := hoctet hb
  have h2 := hoctet hc
  have h3 := hoctet hd
  simp only [dottedQuad, List.length_append, List.length_cons]
  omega

theorem htonl_strToIp_dottedQuad :
    (htonl (strToIp (dottedQuad a b c d))).toNat = addressNumber a b c d := by
  have hlt : addressNumber a b c d < 2 ^ 32 := by unfold addressNumber; omega
  rw [strToIp, dottedQuad, inetPton4_dotted ha hb hc hd]
  simp only
  rw [htonl_octets ha hb hc hd]
  exact UInt32.toNat_ofNat_of_lt' hlt

end

theorem slash_notMem_dottedQuad (a b c d : Nat) : '/' ∉ dottedQuad a b c d := by
  have hdigits (n : Nat) : '/' ∉ showNat n := by
    intro h
    exact absurd (isDigit_of_mem_showNat h) (by decide)
  simp [dottedQuad, hdigits]

/-- What the parser makes of `a.b.c.d/p`: the address with its host bits, and the mask. -/
theorem parseCidrSubnet_cidrText (ha : a < 256) (hb : b < 256) (hc : c < 256) (hd : d < 256) (hp : p ≤ 32) :
    parseCidrSubnet (cidrText a b c d p) = (strToIp (dottedQuad a b c d), cidrNetmask p, UInt32.ofNat p) := by
  have hslash : strchr (cidrText a b c d p) '/' = some ('/' :: showNat p) := by
    rw [cidrText, strchr_append_of_not_mem (slash_notMem_dottedQuad a b c d), strchr_cons_self]
  have htake : (cidrText a b c d p).take ((cidrText a b c d p).length - ('/' :: showNat p).length) =
      dottedQuad a b c d := by
    rw [cidrText, List.length_append, Nat.add_sub_cancel, List.take_left]
  have hcopy : copyInto 32 (dottedQuad a b c d) = dottedQuad a b c d := by
    have := length_dottedQuad ha hb hc hd
    exact List.take_of_length_le (by omega)
  have hatoi : ((atoi (showNat p)) % (2 : Int) ^ 32).toNat = p := by
    have h := atoi_showNat p (r := []) (by intro c h; cases h)
    rw [List.append_nil] at h
    rw [h]
    exact toNat_wrapInt (m := 2 ^ 32) (Nat.dvd_refl _) (by omega)
  simp only [parseCidrSubnet, hslash, htake, hcopy, List.drop_one, List.tail_cons, hatoi]
  rw [Nat.min_eq_left hp]

/-- The mask as a number. -/
theorem htonl_cidrNetmask (hpos : 0 < p) (hp : p ≤ 32) :
    htonl (cidrNetmask p) = (0xFFFFFFFF : UInt32) <<< UInt32.ofNat (32 - p) := by
  unfold cidrNetmask
  rw [if_neg (by omega)]
  split
  · subst p
    decide
  · exact htonl_htonl _

namespace Xdp

/-! ## The entry and the packets it covers -/

/-- The first `p` bits of the source and of the address are equal. -/
def SamePrefix (p : Nat) (srcIp : UInt32) (address : Nat) : Prop :=
  (htonl srcIp).toNat / 2 ^ (32 - p) = address / 2 ^ (32 - p)

theorem cidrNetmask_ne_zero (hpos : 0 < p) (hp : p ≤ 32) : cidrNetmask p ≠ 0 := by
  intro h
  have hmask := htonl_cidrNetmask hpos hp
  rw [h] at hmask
  revert hmask
  interval_cases p <;> decide

/-- A masked source is the address rounded down. -/
theorem masked_eq_iff (hpos : 0 < p) (hp : p ≤ 32) :
    srcIp &&& cidrNetmask p = subnetIp ↔
      (htonl srcIp).toNat / 2 ^ (32 - p) * 2 ^ (32 - p) = (htonl subnetIp).toNat := by
  rw [← htonl_injective.eq_iff, htonl_and, htonl_cidrNetmask hpos hp, ← UInt32.toNat_inj,
    and_ones_shiftLeft _ (by omega)]

/-- **Which CIDR routes cover what they say.**  For every text `a.b.c.d/p`, configured as an enabled
    policy route in one of the 16 entries: the entry covers exactly the sources that share the first `p`
    bits with `a.b.c.d`, if and only if `p` is not 0 and the text has no host bits. -/
theorem cidr_covers_iff (a b c d p : Nat) (ha : a < 256) (hb : b < 256) (hc : c < 256) (hd : d < 256)
    (hp : p ≤ 32) (t : Tables) (routes : List PolicyRoute) (i : Fin maxBpfPolicies) (r : PolicyRoute)
    (hget : routes[i.val]? = some r) (henabled : r.enabled = true)
    (hsubnet : (r.subnetIp, r.netmask, r.prefixLen) = parseCidrSubnet (cidrText a b c d p)) :
    (∀ srcIp, policyMatches ((t.updatePolicyRoutes routes).policyRoute i) srcIp = true ↔
        SamePrefix p srcIp (addressNumber a b c d)) ↔
      0 < p ∧ addressNumber a b c d % 2 ^ (32 - p) = 0 := by
  obtain ⟨hip, hmask, -⟩ : r.subnetIp = strToIp (dottedQuad a b c d) ∧ r.netmask = cidrNetmask p ∧
      r.prefixLen = UInt32.ofNat p := by
    rw [parseCidrSubnet_cidrText ha hb hc hd hp] at hsubnet
    simpa using hsubnet
  have hnumber := htonl_strToIp_dottedQuad ha hb hc hd
  have hself : SamePrefix p r.subnetIp (addressNumber a b c d) := by rw [SamePrefix, hip, hnumber]
  have hmatch : ∀ srcIp, policyMatches ((t.updatePolicyRoutes routes).policyRoute i) srcIp = true ↔
      cidrNetmask p ≠ 0 ∧ srcIp &&& cidrNetmask p = r.subnetIp := by
    intro srcIp
    simp [policyMatches, Tables.updatePolicyRoutes, hget, henabled, hmask]
  simp only [hmatch]
  constructor
  · -- the address of the text itself must be covered
    intro h
    obtain ⟨hne, heq⟩ := (h r.subnetIp).mpr hself
    have hpos : 0 < p := by
      rcases Nat.eq_zero_or_pos p with rfl | hpos
      · exact absurd rfl hne
      · exact hpos
    rw [masked_eq_iff hpos hp, hip, hnumber] at heq
    exact ⟨hpos, Nat.mod_eq_zero_of_dvd ⟨_, by rw [Nat.mul_comm]; exact heq.symm⟩⟩
  · rintro ⟨hpos, hhost⟩ srcIp
    have hround : addressNumber a b c d / 2 ^ (32 - p) * 2 ^ (32 - p) = addressNumber a b c d :=
      Nat.div_mul_cancel (Nat.dvd_of_mod_eq_zero hhost)
    have hunit : 0 < 2 ^ (32 - p) := Nat.two_pow_pos _
    rw [masked_eq_iff hpos hp, hip, hnumber, SamePrefix]
    constructor
    · rintro ⟨-, h⟩
      rw [← h, Nat.mul_div_cancel _ hunit]
    · intro h
      refine ⟨cidrNetmask_ne_zero hpos hp, ?_⟩
      rw [h, hround]

/-- A policy route with this subnet. -/
def subnetRoute (cidr : CStr) : PolicyRoute where
  subnetIp := (parseCidrSubnet cidr).1
  netmask := (parseCidrSubnet cidr).2.1
  prefixLen := (parseCidrSubnet cidr).2.2
  enabled := true

theorem cidr_covers_iff_tenOneTwo :
    (∀ srcIp, policyMatches ((({} : Tables).updatePolicyRoutes
        [subnetRoute (cidrText 10 1 2 0 24)]).policyRoute 0) srcIp = true ↔
        SamePrefix 24 srcIp (addressNumber 10 1 2 0)) ↔
      0 < 24 ∧ addressNumber 10 1 2 0 % 2 ^ (32 - 24) = 0 :=
  cidr_covers_iff 10 1 2 0 24 (by decide) (by decide) (by decide) (by decide) (by decide) {}
    [subnetRoute (cidrText 10 1 2 0 24)] 0 (subnetRoute (cidrText 10 1 2 0 24)) rfl rfl rfl

/-- 10.1.2.77 shares 24 bits with 10.1.2.3 and any bits at all with 0.0.0.0/0; neither entry covers it. -/
theorem cidr_uncovered :
    SamePrefix 24 0x4D02010A (addressNumber 10 1 2 3) ∧
      policyMatches ((({} : Tables).updatePolicyRoutes
        [subnetRoute "10.1.2.3/24".toList]).policyRoute 0) 0x4D02010A = false ∧
      SamePrefix 0 0x4D02010A (addressNumber 0 0 0 0) ∧
      policyMatches ((({} : Tables).updatePolicyRoutes
        [subnetRoute "0.0.0.0/0".toList]).policyRoute 0) 0x4D02010A = false := by
  unfold SamePrefix
  decide

end Xdp

end FluxWAN
