/-
  The masquerade rule of a WireGuard tunnel.

  `vpn_manager_apply_wireguard` makes the subnet of the rule out of the tunnel's address by putting 0 in
  place of the last octet, and leaves the masking to iptables.  Up to 24 bits of prefix the last octet is
  masked away, so the text names the network of the tunnel.  Behind that, bits of the last octet belong to
  the network, and the text names the tunnel's own network only if those are 0: `masquerade_covers_iff`.
-/
import FluxWAN.Xdp.PolicySubnet

namespace FluxWAN

open CString Xdp

/-! ## The subnet text -/

/-- `strrchr`. -/
def strrchr : CStr → Char → Option CStr
  | [], _ => none
  | x :: s, c =>
    match strrchr s c with
    | some r => some r
    | none => if x = c then some (x :: s) else none

/-- "Extract subnet base for masquerading".  `slash` points into the buffer that is printed to; the bytes of
    `%s` move to the front by the length of the octet less one, if at all, and are taken as they were. -/
def masqueradeSubnet (address : CStr) : CStr :=
  if address = [] then "10.250.0.0/24".toList
  else
    let sub := copyInto 64 address
    match strrchr sub '.' with
    | none => sub
    | some lastDot =>
      match strchr lastDot '/' with
      | none => sub
      | some slash =>
        let base := sub.take (sub.length - lastDot.length)
        base ++ copyInto (64 - base.length) ('.' :: '0' :: slash)

/-- What `-s` and `-d` make of a subnet text: the address is masked like the packet's. -/
def InSubnet (cidr : CStr) (ip : UInt32) : Prop :=
  ip &&& (parseCidrSubnet cidr).2.1 = (parseCidrSubnet cidr).1 &&& (parseCidrSubnet cidr).2.1

instance : Decidable (InSubnet cidr ip) := inferInstanceAs (Decidable (_ = _))

theorem strrchr_eq_none (h : c ∉ s) : strrchr s c = none := by
  induction s with
  | nil => rfl
  | cons x s ih =>
    rw [List.mem_cons, not_or] at h
    rw [strrchr, ih h.2]
    exact if_neg (Ne.symm h.1)

theorem strrchr_append (h : c ∉ r) : ∀ s, strrchr (s ++ c :: r) c = some (c :: r)
  | [] => by rw [List.nil_append, strrchr, strrchr_eq_none h]; exact if_pos rfl
  | x :: s => by rw [List.cons_append, strrchr, strrchr_append h s]

theorem notMem_showNat {c : Char} (hc : c.isDigit = false) (n : Nat) : c ∉ showNat n := by
  intro h
  rw [isDigit_of_mem_showNat h] at hc
  cases hc

/-- The last octet becomes 0. -/
theorem masqueradeSubnet_cidrText (ha : a < 256) (hb : b < 256) (hc : c < 256) (hd : d < 256) (hp : p ≤ 32) :
    masqueradeSubnet (cidrText a b c d p) = cidrText a b c 0 p := by
  have hlen := length_dottedQuad ha hb hc hd
  have hplen : (showNat p).length ≤ 3 := Nat.toDigits_length 10 _ 3 (by decide) (by omega)
  obtain ⟨base, hbase⟩ : ∃ base, base = showNat a ++ '.' :: (showNat b ++ '.' :: showNat c) := ⟨_, rfl⟩
  have htext (d : Nat) : cidrText a b c d p = base ++ '.' :: (showNat d ++ '/' :: showNat p) := by
    simp [cidrText, dottedQuad, hbase]
  have hquad : dottedQuad a b c d = base ++ '.' :: showNat d := by simp [dottedQuad, hbase]
  rw [hquad, List.length_append, List.length_cons] at hlen
  have hcopy : copyInto 64 (cidrText a b c d p) = cidrText a b c d p := by
    refine List.take_of_length_le ?_
    rw [htext]
    simp only [List.length_append, List.length_cons]
    omega
  have hdot : strrchr (base ++ '.' :: (showNat d ++ '/' :: showNat p)) '.' = _ := strrchr_append
    (by simp [notMem_showNat]) _
  have hslash : strchr ('.' :: (showNat d ++ '/' :: showNat p)) '/' = some ('/' :: showNat p) := by
    rw [← List.cons_append, strchr_append_of_not_mem (by simp [notMem_showNat]), strchr_cons_self]
  have hne : cidrText a b c d p ≠ [] := by simp [htext]
  rw [masqueradeSubnet, if_neg hne]
  dsimp only
  rw [hcopy, htext, hdot]
  dsimp only
  rw [hslash, List.length_append, Nat.add_sub_cancel, List.take_left, htext]
  refine congrArg (base ++ ·) (List.take_of_length_le ?_)
  simp only [List.length_cons]
  omega

/-! ## What the rule covers -/

/-- Masked alike, two addresses are equal if they have the same prefix. -/
theorem masked_eq_masked_iff (hp : p ≤ 32) (ip : UInt32) :
    src &&& cidrNetmask p = ip &&& cidrNetmask p ↔ SamePrefix p src (htonl ip).toNat := by
  rcases Nat.eq_zero_or_pos p with rfl | hpos
  · have hlt (x : UInt32) : (htonl x).toNat / 2 ^ (32 - 0) = 0 := Nat.div_eq_of_lt (htonl x).toNat_lt
    exact iff_of_true (by simp [cidrNetmask]) ((hlt src).trans (hlt ip).symm)
  · rw [masked_eq_iff hpos hp, htonl_and, htonl_cidrNetmask hpos hp, and_ones_shiftLeft _ (by omega), SamePrefix]
    exact Nat.mul_left_inj (Nat.two_pow_pos _).ne'

/-- The network of `a.b.c.0` and that of `a.b.c.d`. -/
theorem samePrefix_lastOctet_iff (hd : d < 256) (hp : p ≤ 32) :
    addressNumber a b c 0 / 2 ^ (32 - p) = addressNumber a b c d / 2 ^ (32 - p) ↔ p ≤ 24 ∨ d < 2 ^ (32 - p) := by
  unfold addressNumber
  interval_cases p <;> omega

/-- **The masquerade rule covers the tunnel's own subnet** if and only if the prefix ends before the last octet, or the
    bits of the last octet that belong to it are 0. -/
theorem masquerade_covers_iff (a b c d p : Nat) (ha : a < 256) (hb : b < 256) (hc : c < 256) (hd : d < 256)
    (hp : p ≤ 32) :
    (∀ src, InSubnet (masqueradeSubnet (cidrText a b c d p)) src ↔ SamePrefix p src (addressNumber a b c d)) ↔
      p ≤ 24 ∨ d < 2 ^ (32 - p) := by
  have hzero : 0 < 256 := by decide
  have hin (src : UInt32) : InSubnet (masqueradeSubnet (cidrText a b c d p)) src ↔
      SamePrefix p src (addressNumber a b c 0) := by
    rw [InSubnet, masqueradeSubnet_cidrText ha hb hc hd hp, parseCidrSubnet_cidrText ha hb hc hzero hp,
      masked_eq_masked_iff hp, htonl_strToIp_dottedQuad ha hb hc hzero]
  rw [← samePrefix_lastOctet_iff hd hp]
  simp only [hin, SamePrefix]
  constructor
  · -- the tunnel's own address must be covered
    intro h
    have hown := (h (strToIp (dottedQuad a b c d))).mpr
    rw [htonl_strToIp_dottedQuad ha hb hc hd] at hown
    exact (hown rfl).symm
  · intro h src
    rw [h]

theorem masquerade_covers_iff_default :
    (∀ src, InSubnet (masqueradeSubnet (cidrText 10 250 0 1 24)) src ↔ SamePrefix 24 src (addressNumber 10 250 0 1)) ↔
      24 ≤ 24 ∨ 1 < 2 ^ (32 - 24) :=
  masquerade_covers_iff 10 250 0 1 24 (by decide) (by decide) (by decide) (by decide) (by decide)

/-- The rule of 10.0.0.130/25 is for 10.0.0.0/25, which does not have the tunnel's address in it. -/
theorem masquerade_misses_tunnel :
    masqueradeSubnet "10.0.0.130/25".toList = "10.0.0.0/25".toList ∧
      ¬ InSubnet (masqueradeSubnet "10.0.0.130/25".toList) (strToIp "10.0.0.130".toList) := by
  decide

end FluxWAN
