/-
  The in-kernel ping.

  `send_icmp_echo_reply` turns a request into its reply in place, behind up to two VLAN tags and any number of
  options.  Two of its bytes pairs are checksums, and each has an exception:

  * the IP checksum is taken over 20 bytes.  That is the whole header only without options; with options it is
    right exactly if these sum up to a multiple of 65535 themselves;
  * the ICMP checksum is updated for the change of type, and an update that should give 0xffff gives 0.
    This happens if everything else in the message is 0, and then the message has a sum of 0, which no
    receiver accepts.

  `echoReplied_iff` says that these are the only exceptions.
-/
import FluxWAN.Xdp.Payload

namespace FluxWAN.Xdp

open Bytes BpfMap OnesComplement

/-! ## Requests and replies -/

/-- A correct echo request at `ip` for the router's LAN address. -/
structure EchoRequest (t : Tables) (frame : List UInt8) (ip : Nat) : Prop where
  eth : parseEth frame = some (ip, htons ethPIp)
  datagram : ValidIpv4 frame ip
  proto : byteAt frame (ip + 9) = ipprotoIcmp
  daddr : le32 frame (ip + 16) = myLanIp t
  length : ipHeaderLen frame ip + 8 ≤ ipTotLen frame ip
  type : slice frame (ip + ipHeaderLen frame ip) 2 = [8, 0]
  checksum : Verifies (ipPayload frame ip)

/-- The bytes a reply may change: addresses, TTL, type and the two checksums. -/
def EchoWrites (ip icmp j : Nat) : Prop :=
  j < 12 ∨ j = ip + 8 ∨ ip + 10 ≤ j ∧ j < ip + 20 ∨ j = icmp ∨ icmp + 2 ≤ j ∧ j < icmp + 4

/-- `out` is the reply to the request `frame`. -/
structure EchoReplied (frame : List UInt8) (ip : Nat) (out : List UInt8) : Prop where
  destMac : slice out 0 6 = slice frame 6 6
  sourceMac : slice out 6 6 = slice frame 0 6
  saddr : slice out (ip + 12) 4 = slice frame (ip + 16) 4
  daddr : slice out (ip + 16) 4 = slice frame (ip + 12) 4
  ttl : byteAt out (ip + 8) = 64
  type : byteAt out (ip + ipHeaderLen frame ip) = 0
  ipChecksum : Verifies (slice out ip (ipHeaderLen frame ip))
  icmpChecksum : Verifies (ipPayload out ip)
  length : out.length = frame.length
  others : ∀ j, ¬ EchoWrites ip (ip + ipHeaderLen frame ip) j → byteAt out j = byteAt frame j

/-! ## The stores -/

/-- Exchange the `n` bytes at `i` with those at `j`. -/
def swapAt (buf : List UInt8) (i j n : Nat) : List UInt8 :=
  store (store buf i (slice buf j n)) j (slice buf i n)

section
variable {buf : List UInt8} {i j n : Nat} (hi : i + n ≤ buf.length) (hj : j + n ≤ buf.length)
include hi hj

theorem length_swapAt : (swapAt buf i j n).length = buf.length := by
  rw [swapAt, length_store, length_store]
  · rw [length_slice hj]
    exact hi
  · rw [length_slice hi, length_store (by rw [length_slice hj]; exact hi)]
    exact hj

theorem slice_swapAt_of_outside (hki : k + m ≤ i ∨ i + n ≤ k) (hkj : k + m ≤ j ∨ j + n ≤ k) :
    slice (swapAt buf i j n) k m = slice buf k m := by
  have hfit : i + (slice buf j n).length ≤ buf.length := by rw [length_slice hj]; exact hi
  rw [swapAt, slice_store_of_outside (by rw [length_slice hi, length_store hfit]; exact hj)
    (by rw [length_slice hi]; exact hkj), slice_store_of_outside hfit (by rw [length_slice hj]; exact hki)]

theorem slice_swapAt (hdisj : i + n ≤ j ∨ j + n ≤ i) :
    slice (swapAt buf i j n) i n = slice buf j n ∧ slice (swapAt buf i j n) j n = slice buf i n := by
  have hfit : i + (slice buf j n).length ≤ buf.length := by rw [length_slice hj]; exact hi
  have hfit' : j + (slice buf i n).length ≤ (store buf i (slice buf j n)).length := by
    rw [length_slice hi, length_store hfit]
    exact hj
  constructor
  · rw [swapAt, slice_store_of_outside hfit' (by rw [length_slice hi]; exact hdisj)]
    have hself : slice (store buf i (slice buf j n)) i (slice buf j n).length = _ :=
      slice_store_self (by omega)
    rwa [length_slice hj] at hself
  · have hself : slice (swapAt buf i j n) j (slice buf i n).length = _ := slice_store_self (by omega)
    rwa [length_slice hi] at hself

end

/-- The addresses swapped, and the TTL. -/
def echoAddressed (frame : List UInt8) (ip : Nat) : List UInt8 :=
  store (swapAt (swapAt frame 6 0 6) (ip + 12) (ip + 16) 4) (ip + 8) [64]

/-- The message: type and checksum. -/
def echoMessage (frame : List UInt8) (icmp : Nat) : List UInt8 :=
  let typed := store frame icmp [0]
  store typed (icmp + 2) (bytes16 (csumReplace2 (le16 typed (icmp + 2)) (htons 0x0800) 0))

/-- All of the reply. -/
def echoedFrame (frame : List UInt8) (ip icmp : Nat) : List UInt8 :=
  echoMessage (updateIpChecksum (echoAddressed frame ip) ip) icmp

section
variable {frame : List UInt8} {ip : Nat} (hip : 14 ≤ ip) (hlen : ip + 20 ≤ frame.length)
include hip hlen

theorem length_swapped : (swapAt (swapAt frame 6 0 6) (ip + 12) (ip + 16) 4).length = frame.length := by
  have h : (swapAt frame 6 0 6).length = frame.length := length_swapAt (by omega) (by omega)
  rw [length_swapAt (by omega) (by omega), h]

theorem length_echoAddressed : (echoAddressed frame ip).length = frame.length := by
  have h := length_swapped hip hlen
  rw [echoAddressed, length_store (show ip + 8 + 1 ≤ _ by omega), h]

theorem slice_echoAddressed (h : j + n ≤ ip + 8 ∨ ip + 9 ≤ j) :
    slice (echoAddressed frame ip) j n = slice (swapAt (swapAt frame 6 0 6) (ip + 12) (ip + 16) 4) j n := by
  have hlen' := length_swapped hip hlen
  exact slice_store_of_outside (show ip + 8 + 1 ≤ _ by omega) h

theorem slice_echoAddressed_macs :
    slice (echoAddressed frame ip) 0 6 = slice frame 6 6 ∧
      slice (echoAddressed frame ip) 6 6 = slice frame 0 6 := by
  have hmacs : (swapAt frame 6 0 6).length = frame.length := length_swapAt (by omega) (by omega)
  have hswap : slice (swapAt frame 6 0 6) 6 6 = slice frame 0 6 ∧
      slice (swapAt frame 6 0 6) 0 6 = slice frame 6 6 := slice_swapAt (by omega) (by omega) (by omega)
  have hkeep : ∀ k, k ≤ 6 → slice (echoAddressed frame ip) k 6 = slice (swapAt frame 6 0 6) k 6 := by
    intro k hk
    rw [slice_echoAddressed hip hlen (by omega), slice_swapAt_of_outside (by omega) (by omega) (by omega) (by omega)]
  rw [hkeep 0 (by decide), hkeep 6 (by decide)]
  exact ⟨hswap.2, hswap.1⟩

theorem slice_echoAddressed_addrs :
    slice (echoAddressed frame ip) (ip + 12) 4 = slice frame (ip + 16) 4 ∧
      slice (echoAddressed frame ip) (ip + 16) 4 = slice frame (ip + 12) 4 := by
  have hmacs : (swapAt frame 6 0 6).length = frame.length := length_swapAt (by omega) (by omega)
  have hkeep : ∀ k, 12 ≤ k → slice (swapAt frame 6 0 6) k 4 = slice frame k 4 := by
    intro k hk
    exact slice_swapAt_of_outside (by omega) (by omega) (by omega) (by omega)
  have hswap := slice_swapAt (show ip + 12 + 4 ≤ (swapAt frame 6 0 6).length by omega)
    (show ip + 16 + 4 ≤ (swapAt frame 6 0 6).length by omega) (by omega)
  rw [slice_echoAddressed hip hlen (by omega), slice_echoAddressed hip hlen (by omega), hswap.1, hswap.2,
    hkeep _ (by omega), hkeep _ (by omega)]
  exact ⟨rfl, rfl⟩

theorem slice_echoAddressed_ttl : slice (echoAddressed frame ip) (ip + 8) 1 = [64] := by
  have hlen' := length_swapped hip hlen
  exact slice_store_self (by omega)

theorem slice_echoAddressed_of_outside (hj : 12 ≤ j)
    (hout : j + n ≤ ip + 8 ∨ ip + 9 ≤ j ∧ j + n ≤ ip + 12 ∨ ip + 20 ≤ j) :
    slice (echoAddressed frame ip) j n = slice frame j n := by
  have hmacs : (swapAt frame 6 0 6).length = frame.length := length_swapAt (by omega) (by omega)
  rw [slice_echoAddressed hip hlen (by omega), slice_swapAt_of_outside (by omega) (by omega) (by omega) (by omega),
    slice_swapAt_of_outside (by omega) (by omega) (by omega) (by omega)]

/-- With the header finished, everything behind it and most of it is as it was. -/
theorem slice_echoHeader_of_outside (hj : 12 ≤ j) (hout : j + n ≤ ip + 8 ∨ ip + 9 ≤ j ∧ j + n ≤ ip + 10 ∨ ip + 20 ≤ j) :
    slice (updateIpChecksum (echoAddressed frame ip) ip) j n = slice frame j n := by
  have hlen' := length_echoAddressed hip hlen
  rw [slice_updateIpChecksum_of_outside (by omega) (by omega), slice_echoAddressed_of_outside hip hlen hj (by omega)]

end

section
variable {frame : List UInt8} {icmp : Nat} (hlen : icmp + 4 ≤ frame.length)
include hlen

theorem length_echoMessage : (echoMessage frame icmp).length = frame.length := by
  have h : (store frame icmp [0]).length = frame.length := length_store (show icmp + 1 ≤ _ by omega)
  rw [echoMessage, length_store_bytes16 _ (by omega), h]

theorem slice_echoMessage_of_outside (hout : j + n ≤ icmp ∨ icmp + 1 ≤ j ∧ j + n ≤ icmp + 2 ∨ icmp + 4 ≤ j) :
    slice (echoMessage frame icmp) j n = slice frame j n := by
  have h : (store frame icmp [0]).length = frame.length := length_store (show icmp + 1 ≤ _ by omega)
  rw [echoMessage, slice_store_bytes16_of_outside _ (by omega) (by omega)]
  exact slice_store_of_outside (show icmp + 1 ≤ _ by omega)
    (show j + n ≤ icmp ∨ icmp + 1 ≤ j by omega)

theorem slice_echoMessage_type : slice (echoMessage frame icmp) icmp 1 = [0] := by
  have h : (store frame icmp [0]).length = frame.length := length_store (show icmp + 1 ≤ _ by omega)
  rw [echoMessage, slice_store_bytes16_of_outside _ (by omega) (by omega)]
  exact slice_store_self (by omega)

theorem slice_echoMessage_check :
    slice (echoMessage frame icmp) (icmp + 2) 2 = bytes16 (csumReplace2 (le16 frame (icmp + 2)) (htons 0x0800) 0) := by
  have h : (store frame icmp [0]).length = frame.length := length_store (show icmp + 1 ≤ _ by omega)
  have hload : le16 (store frame icmp [0]) (icmp + 2) = le16 frame (icmp + 2) := by
    rw [le16, byteAt_store_of_outside (show icmp + 1 ≤ _ by omega) (.inr (show icmp + 1 ≤ icmp + 2 by omega)),
      byteAt_store_of_outside (show icmp + 1 ≤ _ by omega) (.inr (show icmp + 1 ≤ icmp + 2 + 1 by omega)), le16]
  rw [echoMessage, slice_store_bytes16 _ (by omega), hload]

end

section
variable {frame : List UInt8} {ip icmp : Nat} (hip : 14 ≤ ip) (hicmp : ip + 20 ≤ icmp)
  (hlen : icmp + 4 ≤ frame.length)
include hip hicmp hlen

theorem length_echoHeader : (updateIpChecksum (echoAddressed frame ip) ip).length = frame.length := by
  have h := length_echoAddressed hip (show ip + 20 ≤ frame.length by omega)
  rw [length_updateIpChecksum (by omega), h]

/-- The message is stored behind the header. -/
theorem slice_echoedFrame_header (hj : j + n ≤ icmp) :
    slice (echoedFrame frame ip icmp) j n = slice (updateIpChecksum (echoAddressed frame ip) ip) j n := by
  have h := length_echoHeader hip hicmp hlen
  exact slice_echoMessage_of_outside (by omega) (.inl hj)

theorem slice_echoedFrame_addressed (hj : j + n ≤ ip + 10 ∨ ip + 12 ≤ j ∧ j + n ≤ icmp) :
    slice (echoedFrame frame ip icmp) j n = slice (echoAddressed frame ip) j n := by
  have h := length_echoAddressed hip (show ip + 20 ≤ frame.length by omega)
  rw [slice_echoedFrame_header hip hicmp hlen (by omega), slice_updateIpChecksum_of_outside (by omega) (by omega)]

theorem byteAt_echoedFrame (hj : ¬ EchoWrites ip icmp j) : byteAt (echoedFrame frame ip icmp) j = byteAt frame j := by
  unfold EchoWrites at hj
  have h := length_echoHeader hip hicmp hlen
  apply byteAt_of_slice
  rw [echoedFrame, slice_echoMessage_of_outside (by omega) (by omega),
    slice_echoHeader_of_outside hip (by omega) (by omega) (by omega)]

end

/-- The frame is an echo request, as far as the responder looks. -/
def Echoes (frame : List UInt8) (ip : Nat) : Prop :=
  ip + 20 ≤ frame.length ∧ byteAt frame ip >>> 4 = 4 ∧ 20 ≤ ipHeaderLen frame ip ∧
    ip + ipHeaderLen frame ip + 8 ≤ frame.length ∧ byteAt frame (ip + ipHeaderLen frame ip) = 8

section
variable {frame : List UInt8} {ip : Nat} (heth : parseEth frame = some (ip, htons ethPIp))
include heth

/-- What the program stores. -/
theorem sendIcmpEchoReply_of_echoes (h : Echoes frame ip) :
    sendIcmpEchoReply frame = (.tx, echoedFrame frame ip (ip + ipHeaderLen frame ip)) := by
  obtain ⟨hroom, hversion, hhead, hlen, htype⟩ := h
  have hihl := not_ihl_lt_five hhead
  simp only [ipHeaderLen] at htype hlen
  simp only [sendIcmpEchoReply, heth]
  rw [if_neg (by simp), if_neg (by omega), if_neg (not_or.mpr ⟨not_not.mpr hversion, hihl⟩),
    if_neg (by omega), if_neg (by omega), if_neg (not_not.mpr htype)]
  rfl

theorem sendIcmpEchoReply_of_not (h : ¬ Echoes frame ip) : sendIcmpEchoReply frame = (.pass, frame) := by
  simp only [sendIcmpEchoReply, heth]
  split_ifs with htype hroom hversion hhead hlong hecho
  iterate 6 rfl
  obtain ⟨hver, hihl⟩ := not_or.mp hversion
  have hfive : 5 ≤ (byteAt frame ip &&& 0x0F).toNat := Nat.not_lt.mp fun hlt => hihl (UInt8.lt_iff_toNat_lt.mpr hlt)
  refine absurd ⟨by omega, not_not.mp hver, ?_, Nat.not_lt.mp hlong, not_not.mp hecho⟩ h
  unfold ipHeaderLen
  omega

end

/-! ## Right and wrong replies -/

/-- The IP checksum covers 20 bytes: the `m` bytes of options have to weigh nothing. -/
theorem verifies_echoedFrame_header_iff {frame : List UInt8} (hip : 14 ≤ ip)
    (hversion : byteAt frame ip >>> 4 = 4) (hlen : ip + (20 + m) + 8 ≤ frame.length) :
    Verifies (slice (echoedFrame frame ip (ip + (20 + m))) ip (20 + m)) ↔
      hostSum (slice frame (ip + 20) m) % 65535 = 0 := by
  have hlen₁ := length_echoAddressed hip (show ip + 20 ≤ frame.length by omega)
  have hlen₂ : (updateIpChecksum (echoAddressed frame ip) ip).length = frame.length := by
    rw [length_updateIpChecksum (by omega), hlen₁]
  -- the message is stored behind the header
  have hkeep : slice (echoedFrame frame ip (ip + (20 + m))) ip (20 + m) =
      slice (updateIpChecksum (echoAddressed frame ip) ip) ip (20 + m) :=
    slice_echoMessage_of_outside (by omega) (.inl (Nat.le_refl _))
  have hbyte : byteAt (updateIpChecksum (echoAddressed frame ip) ip) ip = byteAt frame ip := by
    exact byteAt_of_slice (slice_echoHeader_of_outside hip (by omega) (by omega) (by omega))
  have hpos : 0 < hostSum (slice (updateIpChecksum (echoAddressed frame ip) ip) ip (20 + m)) :=
    hostSum_header_pos (by omega) (by omega) (by rw [hbyte]; exact hversion)
  have hoptions : slice (updateIpChecksum (echoAddressed frame ip) ip) (ip + 20) m = slice frame (ip + 20) m :=
    slice_echoHeader_of_outside hip (by omega) (by omega) (by omega)
  have hfixed := hostSum_updateIpChecksum (show ip + 20 ≤ (echoAddressed frame ip).length by omega)
  have hsum := hostSum_slice_add m (show ip + 20 ≤ (updateIpChecksum (echoAddressed frame ip) ip).length by omega)
    (by decide)
  rw [hoptions] at hsum
  rw [verifies_iff, hkeep]
  rw [hsum] at hpos ⊢
  generalize hostSum (slice (updateIpChecksum (echoAddressed frame ip) ip) ip 20) = a at *
  generalize hostSum (slice frame (ip + 20) m) = b at *
  clear hsum
  omega

/-- A message in three parts: type and code, checksum, the rest. -/
theorem hostSum_message {frame : List UInt8} (h : icmp + (4 + n) ≤ frame.length) :
    hostSum (slice frame icmp (4 + n)) = hostSum (slice frame icmp 2) +
      (hostSum (slice frame (icmp + 2) 2) + hostSum (slice frame (icmp + 4) n)) := by
  rw [show 4 + n = 2 + (2 + n) by omega, hostSum_slice_add _ (by omega) (by decide),
    hostSum_slice_add _ (by omega) (by decide)]

/-- The ICMP checksum is updated to one of the zeros, and that is the wrong one if there is nothing else. -/
theorem verifies_echoMessage_iff {frame : List UInt8} (h : icmp + (4 + n) ≤ frame.length)
    (htype : slice frame icmp 2 = [8, 0]) (hold : Verifies (slice frame icmp (4 + n))) :
    Verifies (slice (echoMessage frame icmp) icmp (4 + n)) ↔ 0 < hostSum (slice frame (icmp + 4) n) := by
  have hlen : (echoMessage frame icmp).length = frame.length := length_echoMessage (by omega)
  have hnew : slice (echoMessage frame icmp) icmp 2 = [0, 0] := by
    have hcode : slice frame (icmp + 1) 1 = [0] := by
      rw [slice_succ (by omega)] at htype
      exact (List.cons.inj htype).2
    rw [slice_add _ _ 1 1, slice_echoMessage_type (by omega), slice_echoMessage_of_outside (by omega) (by omega), hcode]
    rfl
  rw [verifies_iff, hostSum_message h, htype, hostSum_slice_two (by omega)] at hold
  rw [verifies_iff, hostSum_message (by omega), hnew, slice_echoMessage_check (by omega),
    slice_echoMessage_of_outside (by omega) (.inr (.inr (Nat.le_refl _))), hostSum_bytes16]
  have hmod := csumReplace2_mod (le16 frame (icmp + 2)) (htons 0x0800) 0
  have hne : (csumReplace2 (le16 frame (icmp + 2)) (htons 0x0800) 0).toNat ≠ 65535 :=
    csumReplace2_ne (.inr (.inl (by decide)))
  have hcheck := (csumReplace2 (le16 frame (icmp + 2)) (htons 0x0800) 0).toNat_lt
  have hword : (htons 0x0800).toNat = 8 := by decide
  have h₈ : hostSum [8, 0] = 8 := rfl
  have h₀ : hostSum [0, 0] = 0 := rfl
  rw [hword, UInt16.toNat_zero] at hmod
  rw [h₈] at hold
  rw [h₀]
  generalize (csumReplace2 (le16 frame (icmp + 2)) (htons 0x0800) 0).toNat = new at *
  generalize (le16 frame (icmp + 2)).toNat = old at *
  generalize hostSum (slice frame (icmp + 4) n) = rest at *
  omega

/-- All of a reply but the checksums is always right. -/
theorem echoReplied_echoedFrame_iff {frame : List UInt8} (hip : 14 ≤ ip)
    (hhead : 20 ≤ ipHeaderLen frame ip) (hlen : ip + ipHeaderLen frame ip + 8 ≤ frame.length) :
    EchoReplied frame ip (echoedFrame frame ip (ip + ipHeaderLen frame ip)) ↔
      Verifies (slice (echoedFrame frame ip (ip + ipHeaderLen frame ip)) ip (ipHeaderLen frame ip)) ∧
      Verifies (ipPayload (echoedFrame frame ip (ip + ipHeaderLen frame ip)) ip) := by
  refine ⟨fun h => ⟨h.ipChecksum, h.icmpChecksum⟩, fun ⟨hsum, hsum'⟩ => ?_⟩
  have hicmp : ip + 20 ≤ ip + ipHeaderLen frame ip := by omega
  have hlen₄ : ip + ipHeaderLen frame ip + 4 ≤ frame.length := by omega
  have hlenHeader := length_echoHeader hip hicmp hlen₄
  obtain ⟨hdest, hsource⟩ := slice_echoAddressed_macs hip (show ip + 20 ≤ frame.length by omega)
  obtain ⟨hsaddr, hdaddr⟩ := slice_echoAddressed_addrs hip (show ip + 20 ≤ frame.length by omega)
  have hkeep : ∀ j n, j + n ≤ ip + 10 ∨ ip + 12 ≤ j ∧ j + n ≤ ip + ipHeaderLen frame ip →
      slice (echoedFrame frame ip (ip + ipHeaderLen frame ip)) j n = slice (echoAddressed frame ip) j n :=
    fun j n hj => slice_echoedFrame_addressed hip hicmp hlen₄ hj
  refine ⟨?_, ?_, ?_, ?_, ?_, ?_, hsum, hsum', ?_, ?_⟩
  · rw [hkeep _ _ (by omega), hdest]
  · rw [hkeep _ _ (by omega), hsource]
  · rw [hkeep _ _ (by omega), hsaddr]
  · rw [hkeep _ _ (by omega), hdaddr]
  · rw [← Nat.add_zero (ip + 8), ← byteAt_slice Nat.zero_lt_one, hkeep _ _ (by omega),
      slice_echoAddressed_ttl hip (by omega)]
    rfl
  · rw [← Nat.add_zero (ip + ipHeaderLen frame ip), ← byteAt_slice Nat.zero_lt_one, Nat.add_zero, echoedFrame,
      slice_echoMessage_type (by omega)]
    rfl
  · rw [echoedFrame, length_echoMessage (by omega), hlenHeader]
  · exact fun j hj => byteAt_echoedFrame hip hicmp hlen₄ hj

/-- A request is answered, not routed. -/
theorem EchoRequest.result {p : Packet} (h : EchoRequest p.tables p.frame ip) :
    (p.result s).action = .tx ∧
      (p.result s).frame = echoedFrame p.frame ip (ip + ipHeaderLen p.frame ip) := by
  have hlen := h.length
  have hin := h.datagram.inFrame
  have htype : byteAt p.frame (ip + ipHeaderLen p.frame ip) = 8 := by
    rw [← Nat.add_zero (ip + _), ← byteAt_slice (show 0 < 2 by decide), h.type]
    rfl
  have hparse : parseFrame p.frame = some
      { srcIp := le32 p.frame (ip + 12)
        dstIp := myLanIp p.tables
        srcPort := le16 p.frame (ip + ipHeaderLen p.frame ip + 4)
        dstPort := le16 p.frame (ip + ipHeaderLen p.frame ip + 6)
        proto := ipprotoIcmp
        pktFlags := pktFlagIcmp } := by
    simp only [parseFrame, h.eth, Option.bind_some, ne_eq, not_true_eq_false, if_false,
      h.datagram.parseIpv4_eq, h.proto, h.daddr]
    rw [if_neg (by decide), if_neg (by decide), if_pos trivial, parseIcmp, if_neg (by omega)]
    simp only [htype, true_or, if_true]
  have hhead := h.datagram.headerLen
  have hreply := sendIcmpEchoReply_of_echoes h.eth
    ⟨by omega, h.datagram.version, hhead, by omega, htype⟩
  have hping : ∀ src sport dport, pingsRouter p.tables
      { srcIp := src, dstIp := myLanIp p.tables, srcPort := sport, dstPort := dport, proto := ipprotoIcmp,
        pktFlags := pktFlagIcmp } = true := by
    intro src sport dport
    simp [pingsRouter, show pktFlagIcmp ≠ 0 by decide]
  simp only [Packet.result, xdpRouterFunc, hparse, hping, if_true, hreply, and_self]

/-- **When a ping is answered right.**  For every correct echo request for the router, behind up to two VLAN
    tags and with any options, id, sequence number and payload: the frame that is sent back is its reply, with
    both checksums correct, if and only if

    * the options, if any, sum up to a multiple of 65535; and
    * id, sequence number and payload are not all zero. -/
theorem echoReplied_iff (s : RouterState) (p : Packet) (ip : Nat) (h : EchoRequest p.tables p.frame ip) :
    ((p.result s).action = .tx ∧ EchoReplied p.frame ip (p.result s).frame) ↔
      hostSum (slice p.frame (ip + 20) (ipHeaderLen p.frame ip - 20)) % 65535 = 0 ∧
      ∃ b ∈ (ipPayload p.frame ip).drop 4, b ≠ 0 := by
  obtain ⟨htx, hframe⟩ := h.result (s := s)
  have hip := parseEth_le h.eth
  have hlen := h.length
  have hin := h.datagram.inFrame
  have htype := h.type
  have hold := h.checksum
  have hversion := h.datagram.version
  have hhead := h.datagram.headerLen
  rw [hframe, htx, echoReplied_echoedFrame_iff hip hhead (by omega)]
  -- the reply has the lengths of the request
  have hbyte : ∀ j, j = ip ∨ j = ip + 2 ∨ j = ip + 3 →
      byteAt (echoedFrame p.frame ip (ip + ipHeaderLen p.frame ip)) j = byteAt p.frame j := by
    intro j hj
    refine byteAt_echoedFrame hip (by omega) (by omega) ?_
    unfold EchoWrites
    omega
  have hpayload : ipPayload (echoedFrame p.frame ip (ip + ipHeaderLen p.frame ip)) ip =
      slice (echoedFrame p.frame ip (ip + ipHeaderLen p.frame ip)) (ip + ipHeaderLen p.frame ip)
        (ipTotLen p.frame ip - ipHeaderLen p.frame ip) := by
    simp only [ipPayload, ipHeaderLen, ipTotLen, be16] at hbyte ⊢
    rw [hbyte ip (by omega), hbyte (ip + 2) (by omega), hbyte (ip + 2 + 1) (by omega)]
  rw [hpayload]
  simp only [ipPayload] at hold ⊢
  generalize ipHeaderLen p.frame ip = hl at *
  generalize ipTotLen p.frame ip = total at *
  obtain ⟨m, rfl⟩ := Nat.exists_eq_add_of_le hhead
  obtain ⟨n, hn⟩ := Nat.exists_eq_add_of_le (show 4 ≤ total - (20 + m) by omega)
  rw [hn] at hold ⊢
  have hhead₂ := length_echoHeader hip (show ip + 20 ≤ ip + (20 + m) by omega)
    (show ip + (20 + m) + 4 ≤ p.frame.length by omega)
  have hbehind : ∀ j k, ip + 20 ≤ j →
      slice (updateIpChecksum (echoAddressed p.frame ip) ip) j k = slice p.frame j k :=
    fun j k hj => slice_echoHeader_of_outside hip (by omega) (by omega) (by omega)
  have hrest : (slice p.frame (ip + (20 + m)) (4 + n)).drop 4 = slice p.frame (ip + (20 + m) + 4) n := by
    rw [slice_add, List.drop_append_of_le_length (by rw [length_slice (by omega)]),
      List.drop_of_length_le (by rw [length_slice (by omega)]), List.nil_append]
  rw [verifies_echoedFrame_header_iff hip hversion (by omega), echoedFrame,
    verifies_echoMessage_iff (by omega) (by rw [hbehind _ _ (by omega)]; exact htype)
      (by rw [hbehind _ _ (by omega)]; exact hold),
    hbehind _ _ (by omega), Nat.add_sub_cancel_left, hrest, Nat.pos_iff_ne_zero, ne_eq, hostSum_eq_zero_iff]
  simp only [not_forall, exists_prop, true_and]

/-- A ping from 192.168.1.50 to 192.168.1.1: header, options and message. -/
def pingFrame (header options message : List UInt8) : List UInt8 :=
  List.replicate 12 0 ++ [0x08, 0x00] ++ header ++ [192, 168, 1, 50, 192, 168, 1, 1] ++ options ++ message

def pingPacket (header options message : List UInt8) : Packet where
  tables := {}
  cpu := 0
  frame := pingFrame header options message

/-- Id 0x4321, sequence number 1. -/
def pingMessage : List UInt8 := [8, 0, 0xB4, 0xDD, 0x43, 0x21, 0, 1]

/-- Without options. -/
def plainHeader : List UInt8 := [0x45, 0, 0, 28, 0, 0, 0, 0, 64, 1, 0xF7, 0x5D]

/-- With room for a router alert. -/
def alertHeader : List UInt8 := [0x46, 0, 0, 32, 0, 0, 0, 0, 64, 1, 0x62, 0x55]

theorem echoRequest_plain : EchoRequest {} (pingFrame plainHeader [] pingMessage) 14 := by
  constructor
  case datagram => constructor <;> decide
  all_goals decide

theorem echoReplied_iff_plain :
    (((pingPacket plainHeader [] pingMessage).result {}).action = .tx ∧
        EchoReplied (pingFrame plainHeader [] pingMessage) 14
          ((pingPacket plainHeader [] pingMessage).result {}).frame) ↔
      hostSum (slice (pingFrame plainHeader [] pingMessage) 34
        (ipHeaderLen (pingFrame plainHeader [] pingMessage) 14 - 20)) % 65535 = 0 ∧
      ∃ b ∈ (ipPayload (pingFrame plainHeader [] pingMessage) 14).drop 4, b ≠ 0 :=
  echoReplied_iff {} (pingPacket plainHeader [] pingMessage) 14 echoRequest_plain

/-- A correct request with a router alert is answered with an IP checksum that leaves the alert out, … -/
theorem alert_answered_wrong :
    EchoRequest {} (pingFrame alertHeader [0x94, 4, 0, 0] pingMessage) 14 ∧
      ((pingPacket alertHeader [0x94, 4, 0, 0] pingMessage).result {}).action = .tx ∧
      ¬ EchoReplied (pingFrame alertHeader [0x94, 4, 0, 0] pingMessage) 14
        ((pingPacket alertHeader [0x94, 4, 0, 0] pingMessage).result {}).frame := by
  refine ⟨?_, by decide, ?_⟩
  · constructor
    case datagram => constructor <;> decide
    all_goals decide
  · intro h
    have hchecksum := h.ipChecksum
    revert hchecksum
    decide

-- … and one whose id, sequence number and payload are 0 with an ICMP checksum of 0
example : Verifies (ipPayload (pingFrame plainHeader [] [8, 0, 0xF7, 0xFF, 0, 0, 0, 0]) 14) ∧
    ¬ Verifies (ipPayload ((pingPacket plainHeader [] [8, 0, 0xF7, 0xFF, 0, 0, 0, 0]).result {}).frame 14) := by
  decide

end FluxWAN.Xdp
