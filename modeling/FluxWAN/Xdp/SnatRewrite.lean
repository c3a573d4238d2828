/-
  What source NAT does to a packet.

  `apply_snat` stores the WAN's address and updates ONE checksum, that of the IP header.  The source address is
  covered by a second one: the pseudo-header of TCP and UDP holds it.  So the IP header comes out right for
  all addresses and all carries (`verifies_applySnat`), and the transport checksum is left as it was, which is
  right for the new address exactly if the two addresses weigh the same: if the sums of their halves
  agree modulo 65535 (`snatCorrect_iff`).
-/
import FluxWAN.Xdp.Payload

namespace FluxWAN.Xdp

open Bytes BpfMap OnesComplement

/-! ## The rewrite -/

section
variable {frame : List UInt8} {wanIp : UInt32}

theorem length_of_snatFits (h : snatFits frame = true) : 34 ≤ frame.length := by
  simp only [snatFits, Bool.and_eq_true, decide_eq_true_eq] at h
  exact h.1.1

/-- A frame that is not turned away gets an address and a checksum. -/
theorem applySnat_eq (h : snatFits frame = true) :
    applySnat frame wanIp = store (store frame 26 (bytes32 wanIp)) 24
      (bytes16 (csumReplace4 (le16 frame 24) (le32 frame 26) wanIp)) := by
  simp only [snatFits, Bool.and_eq_true, Bool.not_eq_true', decide_eq_true_eq, decide_eq_false_iff_not] at h
  obtain ⟨⟨hlen, hver⟩, hihl⟩ := h
  simp only [applySnat]
  rw [if_neg (by omega), if_neg (not_or.mpr ⟨not_not.mpr hver, hihl⟩)]

/-- Nothing else is written. -/
theorem slice_applySnat_of_outside (h : snatFits frame = true) (hj : j + n ≤ 24 ∨ 30 ≤ j) :
    slice (applySnat frame wanIp) j n = slice frame j n := by
  have hlen := length_of_snatFits h
  have hfit : 26 + (bytes32 wanIp).length ≤ frame.length := show 30 ≤ frame.length by omega
  rw [applySnat_eq h, slice_store_bytes16_of_outside _ (by rw [length_store hfit]; omega) (by omega),
    slice_store_of_outside hfit (by simp only [bytes32, List.length_cons, List.length_nil]; omega)]

theorem slice_applySnat_source (h : snatFits frame = true) :
    slice (applySnat frame wanIp) 26 4 = bytes32 wanIp := by
  have hlen := length_of_snatFits h
  have hfit : 26 + (bytes32 wanIp).length ≤ frame.length := show 30 ≤ frame.length by omega
  rw [applySnat_eq h, slice_store_bytes16_of_outside _ (by rw [length_store hfit]; omega) (by omega)]
  exact slice_store_self (by omega)

theorem slice_applySnat_check (h : snatFits frame = true) :
    slice (applySnat frame wanIp) 24 2 = bytes16 (csumReplace4 (le16 frame 24) (le32 frame 26) wanIp) := by
  have hlen := length_of_snatFits h
  have hfit : 26 + (bytes32 wanIp).length ≤ frame.length := show 30 ≤ frame.length by omega
  rw [applySnat_eq h, slice_store_bytes16 _ (by rw [length_store hfit]; omega)]

theorem length_applySnat (h : snatFits frame = true) : (applySnat frame wanIp).length = frame.length := by
  have hlen := length_of_snatFits h
  have hfit : 26 + (bytes32 wanIp).length ≤ frame.length := show 30 ≤ frame.length by omega
  rw [applySnat_eq h, length_store_bytes16 _ (by rw [length_store hfit]; omega), length_store hfit]

theorem byteAt_applySnat (h : snatFits frame = true) (hj : j < 24 ∨ 30 ≤ j) :
    byteAt (applySnat frame wanIp) j = byteAt frame j := by
  have hslice : slice (applySnat frame wanIp) j 1 = slice frame j 1 :=
    slice_applySnat_of_outside h (by omega)
  have hbyte := congrArg (byteAt · 0) hslice
  simpa only [byteAt_slice Nat.zero_lt_one, Nat.add_zero] using hbyte

/-- The header keeps its shape, … -/
theorem ipHeaderLen_applySnat (h : snatFits frame = true) :
    ipHeaderLen (applySnat frame wanIp) 14 = ipHeaderLen frame 14 := by
  rw [ipHeaderLen, byteAt_applySnat h (by omega), ipHeaderLen]

theorem ipTotLen_applySnat (h : snatFits frame = true) :
    ipTotLen (applySnat frame wanIp) 14 = ipTotLen frame 14 := by
  rw [ipTotLen, be16, byteAt_applySnat h (by omega), byteAt_applySnat h (by omega), ipTotLen, be16]

/-- A header by the fields that are written: what stands before, checksum, source, what follows. -/
theorem hostSum_fields {g : List UInt8} (h : 30 + n ≤ g.length) :
    hostSum (slice g 14 (16 + n)) = hostSum (slice g 14 10) +
      (hostSum (slice g 24 2) + (hostSum (slice g 26 4) + hostSum (slice g 30 n))) := by
  rw [show 16 + n = 10 + (2 + (4 + n)) by omega, hostSum_slice_add _ (by omega) (by decide),
    hostSum_slice_add _ (by omega) (by decide), hostSum_slice_add _ (by omega) (by decide)]

/-- … and the incremental update keeps its sum: the IP checksum is right for every pair of addresses. -/
theorem verifies_applySnat (h : snatFits frame = true) (hip : ValidIpv4 frame 14) :
    Verifies (slice (applySnat frame wanIp) 14 (ipHeaderLen (applySnat frame wanIp) 14)) := by
  have hlen : (applySnat frame wanIp).length = frame.length := length_applySnat h
  have hhead := hip.headerLen
  have hfits : 14 + ipHeaderLen frame 14 ≤ frame.length :=
    Nat.le_trans (Nat.add_le_add_left hip.totLen 14) hip.inFrame
  have hsum := ((verifies_iff _).mp hip.checksum).2
  have hcsum := csumReplace4_mod (le16 frame 24) (le32 frame 26) wanIp
  rw [verifies_iff, ipHeaderLen_applySnat h]
  refine ⟨hostSum_header_pos (by omega) (by omega) ?_, ?_⟩
  · rw [byteAt_applySnat h (by omega)]
    exact hip.version
  · obtain ⟨n, hn⟩ := Nat.exists_eq_add_of_le (show 16 ≤ ipHeaderLen frame 14 by omega)
    rw [hn] at hsum hfits ⊢
    rw [hostSum_fields (by omega), hostSum_slice_two (by omega), hostSum_slice_four (by omega)] at hsum
    rw [hostSum_fields (by omega), slice_applySnat_check h, slice_applySnat_source h,
      slice_applySnat_of_outside h (.inl (Nat.le_refl _)),
      slice_applySnat_of_outside h (.inr (Nat.le_refl _)), hostSum_bytes16, hostSum_bytes32]
    omega

/-! ## The transport checksum -/

/-- What the transport checksum covers besides the source address. -/
def transportRest (frame : List UInt8) : List UInt8 :=
  let n := ipTotLen frame 14 - ipHeaderLen frame 14
  slice frame 30 4 ++ [0, byteAt frame 23, UInt8.ofNat (n / 256), UInt8.ofNat n] ++ ipPayload frame 14

theorem hostSum_transport (hlen : 34 ≤ frame.length) :
    hostSum (pseudoHeader frame 14 ++ ipPayload frame 14) =
      hostSum (slice frame 26 4) + hostSum (transportRest frame) := by
  rw [← hostSum_append (by rw [length_slice (by omega)])]
  simp only [pseudoHeader, transportRest, show slice frame (14 + 12) 8 = slice frame 26 4 ++ slice frame 30 4 from
    slice_add frame 26 4 4, List.append_assoc]

/-- None of it is written … -/
theorem transportRest_applySnat (h : snatFits frame = true) (hhead : 20 ≤ ipHeaderLen frame 14) :
    transportRest (applySnat frame wanIp) = transportRest frame := by
  simp only [transportRest, ipPayload]
  rw [ipHeaderLen_applySnat h, ipTotLen_applySnat h, slice_applySnat_of_outside h (.inr (Nat.le_refl _)),
    byteAt_applySnat h (by omega), slice_applySnat_of_outside h (.inr (by omega))]

/-- … so the transport checksum stays right exactly if the addresses weigh the same. -/
theorem transportVerifies_applySnat_iff (h : snatFits frame = true) (hhead : 20 ≤ ipHeaderLen frame 14)
    (hproto : byteAt frame 23 ≠ 0) (hvalid : TransportVerifies frame 14) :
    TransportVerifies (applySnat frame wanIp) 14 ↔
      halves wanIp % 65535 = halves (le32 frame 26) % 65535 := by
  have hlen := length_of_snatFits h
  have hlen' : (applySnat frame wanIp).length = frame.length := length_applySnat h
  have hpos : 0 < hostSum (transportRest frame) :=
    hostSum_pos (b := byteAt frame 23) (by simp [transportRest]) hproto
  have hold := (verifies_iff _).mp hvalid
  rw [hostSum_transport hlen, hostSum_slice_four (by omega)] at hold
  rw [TransportVerifies, verifies_iff, hostSum_transport (by omega), slice_applySnat_source h,
    transportRest_applySnat h hhead, hostSum_bytes32]
  omega

end

/-! ## Rewritten packets -/

/-- Where the transport checksum stands in an untagged frame. -/
def transportCheckAt (frame : List UInt8) : Nat :=
  14 + ipHeaderLen frame 14 + if byteAt frame 23 = ipprotoTcp then 16 else 6

/-- What a receiver may expect of `out`, the packet `frame` with a new source address. -/
structure SnatCorrect (frame out : List UInt8) (wanIp : UInt32) : Prop where
  source : slice out 26 4 = bytes32 wanIp
  ipChecksum : Verifies (slice out 14 (ipHeaderLen out 14))
  transportChecksum : TransportVerifies out 14
  length : out.length = frame.length
  others : ∀ j, j < 24 ∨ 30 ≤ j → j ≠ transportCheckAt frame → j ≠ transportCheckAt frame + 1 →
    byteAt out j = byteAt frame j

/-- A packet that is rewritten leaves with the address of its WAN. -/
theorem Packet.frame_of_rewritten {p : Packet} (hp : p.Has key) {w : UInt32} (hw : p.wan s = some w) {e : BpfWanEntry}
    (hrow : p.tables.wanTable.lookup w.toNat = some e) (hr : p.Rewritten s) :
    snatFits p.frame = true ∧ (p.result s).frame = applySnat p.frame e.ipAddr := by
  obtain ⟨hfits, htrans, hlan⟩ := (Packet.rewritten_iff hp hw).mp hr
  obtain ⟨s', hfinish, -⟩ := Packet.result_eq_finish hp hw
  refine ⟨hfits, ?_⟩
  simp only [translates, rowSatisfies, hrow, Option.any_some, Bool.and_eq_true, Bool.not_eq_true',
    decide_eq_true_eq] at htrans
  obtain ⟨hon, ⟨hmtu, hactive⟩, haddr⟩ := htrans
  have hsnat : p.tables.ctrl.snatEnabled ≠ 0 ∧ e.isActive ≠ 0 ∧ e.ipAddr ≠ 0 ∧ isLan key.srcIp = true :=
    ⟨hon, hactive, haddr, hlan⟩
  rw [hfinish]
  simp only [finish, hrow, hmtu, Bool.false_eq_true, if_false, if_pos hsnat]

/-- **When source NAT is right.**  For every TCP or UDP packet with correct checksums, untagged as its header
    starts at byte 14, that is rewritten: it leaves with its WAN's address, with both checksums correct and with nothing else changed,
    if and only if the two addresses have the same one's-complement sum. -/
theorem snatCorrect_iff (s : RouterState) (p : Packet) (key : FlowKey) (w : UInt32) (e : BpfWanEntry)
    (hp : p.Has key) (hw : p.wan s = some w) (hrow : p.tables.wanTable.lookup w.toNat = some e)
    (hip : ValidIpv4 p.frame 14) (htransport : ValidTransport p.frame 14) (hr : p.Rewritten s) :
    SnatCorrect p.frame (p.result s).frame e.ipAddr ↔
      halves e.ipAddr % 65535 = halves (le32 p.frame 26) % 65535 := by
  obtain ⟨hfits, hframe⟩ := Packet.frame_of_rewritten hp hw hrow hr
  have hproto : byteAt p.frame 23 ≠ 0 := by
    rcases htransport.header with ⟨h, -⟩ | ⟨h, -⟩ <;> rw [show byteAt p.frame 23 = _ from h] <;> decide
  have hiff : TransportVerifies (applySnat p.frame e.ipAddr) 14 ↔ _ :=
    transportVerifies_applySnat_iff hfits hip.headerLen hproto htransport.checksum
  rw [hframe, ← hiff]
  refine ⟨fun h => h.transportChecksum, fun h => ?_⟩
  exact
    { source := slice_applySnat_source hfits
      ipChecksum := verifies_applySnat hfits hip
      transportChecksum := h
      length := length_applySnat hfits
      others := fun j hj _ _ => byteAt_applySnat hfits hj }

/-- A SYN from 10.0.0.5:50000 to 93.184.216.34:443, both checksums correct. -/
def synFrame : List UInt8 :=
  List.replicate 12 0 ++ [0x08, 0x00] ++
    [0x45, 0, 0, 40, 0, 0, 0x40, 0, 64, 6, 0xFA, 0xF0, 10, 0, 0, 5, 93, 184, 216, 34] ++
    [0xC3, 0x50, 0x01, 0xBB, 0, 0, 0, 1, 0, 0, 0, 0, 0x50, 0x02, 0x20, 0, 0x8A, 0xF6, 0, 0]

/-- It leaves through one of two WANs with this address. -/
def synPacket (wanIp : UInt32) : Packet where
  tables :=
    { maglevLut := fun _ => 1
      wanTable := fun i => if i.val < 2 then { isActive := 1, weight := 10, ipAddr := wanIp } else {}
      ctrl := { snatEnabled := 1 } }
  cpu := 0
  frame := synFrame

def synKey : FlowKey :=
  { srcIp := 0x0500000A, dstIp := 0x22D8B85D, srcPort := 0x50C3, dstPort := 0xBB01, proto := ipprotoTcp,
    pktFlags := pktFlagSyn }

theorem synPacket_has : (synPacket wanIp).Has synKey := by
  have hparse : parseFrame synFrame = some synKey := by decide
  exact ⟨hparse, rfl⟩

theorem synFrame_validIpv4 : ValidIpv4 synFrame 14 := by
  constructor <;> decide

theorem synFrame_validTransport : ValidTransport synFrame 14 := by
  refine ⟨.inl ⟨by decide, by decide⟩, ?_⟩
  unfold TransportVerifies
  decide

/-- 8.0.2.5 happens to weigh what 10.0.0.5 does. -/
theorem snatCorrect_iff_sameSum :
    SnatCorrect synFrame ((synPacket 0x05020008).result {}).frame 0x05020008 ↔
      halves 0x05020008 % 65535 = halves (le32 synFrame 26) % 65535 :=
  snatCorrect_iff {} (synPacket 0x05020008) synKey 1 { isActive := 1, weight := 10, ipAddr := 0x05020008 }
    synPacket_has (by decide) rfl synFrame_validIpv4 synFrame_validTransport (by
      unfold Packet.Rewritten
      decide)

/-- 203.0.113.7 does not: the packet leaves with a correct IP header and a TCP checksum that no receiver
    accepts. -/
theorem synPacket_dropped :
    ValidIpv4 synFrame 14 ∧ ValidTransport synFrame 14 ∧ (synPacket 0x077100CB).Rewritten {} ∧
      slice ((synPacket 0x077100CB).result {}).frame 26 4 = [203, 0, 113, 7] ∧
      Verifies (slice ((synPacket 0x077100CB).result {}).frame 14 20) ∧
      ¬ SnatCorrect synFrame ((synPacket 0x077100CB).result {}).frame 0x077100CB := by
  refine ⟨synFrame_validIpv4, synFrame_validTransport, ?_, by decide, by decide, ?_⟩
  · unfold Packet.Rewritten
    decide
  · intro h
    have hchecksum := h.transportChecksum
    unfold TransportVerifies at hchecksum
    revert hchecksum
    decide

end FluxWAN.Xdp
