/-
  One packet, with and without VLAN tags.

  The parser skips up to two tags, and so does the ping responder.  The rest of the program does not: the
  packet-too-big test asks for the Ethernet type of an untagged frame, and `apply_snat` takes the bytes behind
  the Ethernet header, which in a tagged frame are the tag, for the IP header.  So tags change nothing about the
  key, the WAN and the answer to a ping (`parseFrame_insertTags`, `sendIcmpEchoReply_insertTags`), and
  `sameUnderTags_iff` says when they change nothing at all: when neither NAT nor an answer is due, or NAT would
  write what stands there already.
-/
import Mathlib.Data.List.GetD
import FluxWAN.Xdp.EchoReply
import FluxWAN.Xdp.SnatRewrite

namespace FluxWAN.Xdp

open Bytes BpfMap OnesComplement

variable {n j cur ip : Nat} {wanIp : UInt32} {key : FlowKey}

/-! ## Tags -/

/-- A tag: service tag or customer tag, and its control information. -/
structure VlanTag where
  service : Bool
  tci : UInt8 × UInt8

def VlanTag.bytes (v : VlanTag) : List UInt8 :=
  (if v.service then [0x88, 0xA8] else [0x81, 0x00]) ++ [v.tci.1, v.tci.2]

/-- The frame with these bytes between the addresses and the Ethernet type. -/
def insertTags (tags frame : List UInt8) : List UInt8 := frame.take 12 ++ tags ++ frame.drop 12

def tagBytes (tags : List VlanTag) : List UInt8 := tags.flatMap VlanTag.bytes

theorem VlanTag.length_bytes (v : VlanTag) : v.bytes.length = 4 := by
  unfold VlanTag.bytes
  split <;> rfl

theorem length_tagBytes (tags : List VlanTag) : (tagBytes tags).length = 4 * tags.length := by
  induction tags with
  | nil => rfl
  | cons v tags ih =>
    rw [tagBytes, List.flatMap_cons, List.length_append, v.length_bytes, ← tagBytes, ih, List.length_cons]
    omega

section
variable {front rest tags frame : List UInt8}

/-- The frame in two parts … -/
theorem exists_parts (h : 12 ≤ frame.length) : ∃ macs rest, frame = macs ++ rest ∧ macs.length = 12 :=
  ⟨frame.take 12, frame.drop 12, (List.take_append_drop 12 frame).symm, by rw [List.length_take]; omega⟩

/-- … and where the tags go. -/
theorem insertTags_append (h : front.length = 12) : insertTags tags (front ++ rest) = front ++ tags ++ rest := by
  rw [insertTags, ← h, List.take_left, List.drop_left]

variable (h : 12 ≤ frame.length)
include h

theorem length_insertTags : (insertTags tags frame).length = frame.length + tags.length := by
  simp only [insertTags, List.length_append, List.length_take, List.length_drop]
  omega

/-- What is read behind the tags moves by their length. -/
theorem insertTags_reads {α : Type} {f : List UInt8 → Nat → α}
    (hf : ∀ front rest k, f (front ++ rest) (front.length + k) = f rest k) (hj : 12 ≤ j) :
    f (insertTags tags frame) (j + tags.length) = f frame j := by
  obtain ⟨macs, rest, rfl, hmacs⟩ := exists_parts h
  obtain ⟨k, rfl⟩ := Nat.exists_eq_add_of_le hj
  rw [insertTags_append hmacs, ← hmacs, hf, Nat.add_right_comm, ← List.length_append, hf]

theorem slice_insertTags_high (hj : 12 ≤ j) :
    slice (insertTags tags frame) (j + tags.length) n = slice frame j n :=
  insertTags_reads (f := fun buf j => slice buf j n) h (fun _ _ k => slice_behind k n) hj

theorem le16_insertTags_high (hj : 12 ≤ j) : le16 (insertTags tags frame) (j + tags.length) = le16 frame j :=
  insertTags_reads h (fun _ _ k => le16_behind k) hj

theorem insertTags_store_high (hj : 12 ≤ j) :
    insertTags tags (store frame j new) = store (insertTags tags frame) (j + tags.length) new := by
  obtain ⟨macs, rest, rfl, hmacs⟩ := exists_parts h
  obtain ⟨k, rfl⟩ := Nat.exists_eq_add_of_le hj
  rw [insertTags_append hmacs, ← hmacs, store_behind, insertTags_append hmacs, Nat.add_right_comm,
    ← List.length_append, store_behind]

end

/-! ## The parsers behind a front

  Each reads at its offset and behind it, so what lies in front only moves the offsets it returns. -/

section
variable {front rest : List UInt8}

theorem skipVlan_behind : skipVlan (front ++ rest) (front.length + cur) proto =
    (skipVlan rest cur proto).map fun r => (front.length + r.1, r.2) := by
  simp only [skipVlan, Nat.add_assoc, le16_behind, List.length_append, gt_iff_lt, Nat.add_lt_add_iff_left]
  split_ifs <;> rfl

theorem parseIpv4_behind : parseIpv4 (front ++ rest) (front.length + cur) =
    (parseIpv4 rest cur).map fun r => (front.length + r.1, r.2) := by
  simp only [parseIpv4, Nat.add_assoc, byteAt_behind, le32_behind, List.length_append, gt_iff_lt,
    Nat.add_lt_add_iff_left]
  split_ifs <;> rfl

theorem parseTcp_behind : parseTcp (front ++ rest) (front.length + cur) flow = parseTcp rest cur flow := by
  simp only [parseTcp, Nat.add_assoc, byteAt_behind, le16_behind, List.length_append, gt_iff_lt,
    Nat.add_lt_add_iff_left]

theorem quicDcid_behind :
    quicDcid (front ++ rest) (front.length + cur) = (quicDcid rest cur).map (front.length + ·) := by
  simp only [quicDcid, Nat.add_assoc, byteAt_behind, List.length_append, Nat.add_le_add_iff_left]
  split_ifs <;> rfl

theorem parseUdp_behind : parseUdp (front ++ rest) (front.length + cur) flow = parseUdp rest cur flow := by
  simp only [parseUdp, Nat.add_assoc, byteAt_behind, le16_behind, quicDcid_behind, Option.elim_map,
    Function.comp_def, List.length_append, gt_iff_lt, Nat.add_lt_add_iff_left, Nat.add_le_add_iff_left]

theorem parseIcmp_behind : parseIcmp (front ++ rest) (front.length + cur) flow = parseIcmp rest cur flow := by
  simp only [parseIcmp, Nat.add_assoc, byteAt_behind, le16_behind, le32_behind, List.length_append, gt_iff_lt,
    Nat.add_lt_add_iff_left, Nat.add_le_add_iff_left]

/-- Two frames that are the same from the IP header on have the same key. -/
theorem parseFrame_congr {front' : List UInt8}
    (h : parseEth (front ++ rest) = some (front.length + cur, htons ethPIp))
    (h' : parseEth (front' ++ rest) = some (front'.length + cur, htons ethPIp)) :
    parseFrame (front ++ rest) = parseFrame (front' ++ rest) := by
  simp only [parseFrame, h, h', Option.bind_some, ne_eq, not_true_eq_false, if_false, parseIpv4_behind,
    Option.bind_map, Function.comp_def, parseTcp_behind, parseUdp_behind, parseIcmp_behind]

end

/-! ## One and two tags -/

/-- An IPv4 frame without tags. -/
structure UntaggedIpv4 (frame : List UInt8) : Prop where
  length : 14 ≤ frame.length
  type : le16 frame 12 = htons ethPIp

section
variable {macs rest frame : List UInt8} {tags : List VlanTag}

theorem UntaggedIpv4.exists_parts (h : UntaggedIpv4 frame) :
    ∃ macs rest, frame = macs ++ rest ∧ macs.length = 12 ∧ 2 ≤ rest.length ∧ le16 rest 0 = htons ethPIp := by
  have hlen := h.length
  have htype := h.type
  obtain ⟨macs, rest, rfl, hmacs⟩ := Xdp.exists_parts (show 12 ≤ frame.length by omega)
  rw [List.length_append] at hlen
  rw [← hmacs, ← Nat.add_zero macs.length, le16_behind] at htype
  exact ⟨macs, rest, rfl, hmacs, by omega, htype⟩

/-- The type of a tag, as it is loaded. -/
theorem VlanTag.type_eq (v : VlanTag) (rest : List UInt8) :
    le16 (v.bytes ++ rest) 0 = htons ethP8021Q ∨ le16 (v.bytes ++ rest) 0 = htons ethP8021AD := by
  obtain ⟨_ | _, tci⟩ := v
  · exact .inl (show (0x81 : UInt8).toUInt16 ||| (0x00 : UInt8).toUInt16 <<< 8 = htons ethP8021Q by decide)
  · exact .inr (show (0x88 : UInt8).toUInt16 ||| (0xA8 : UInt8).toUInt16 <<< 8 = htons ethP8021AD by decide)

theorem VlanTag.skips (v : VlanTag) (h : 2 ≤ rest.length) :
    skipVlan (v.bytes ++ rest) 2 (le16 (v.bytes ++ rest) 0) = some (4 + 2, le16 rest 0) := by
  have hnext : le16 (v.bytes ++ rest) (v.bytes.length + 0) = le16 rest 0 := le16_behind ..
  rw [v.length_bytes] at hnext
  rw [skipVlan, if_pos (v.type_eq rest), if_neg (by rw [List.length_append, v.length_bytes]; omega), hnext]

theorem parseEth_append (h : macs.length = 12) (hrest : 2 ≤ rest.length) : parseEth (macs ++ rest) =
    ((skipVlan rest 2 (le16 rest 0)).bind fun r => skipVlan rest r.1 r.2).map fun r => (12 + r.1, r.2) := by
  rw [parseEth, if_neg (by rw [List.length_append]; omega)]
  show (skipVlan (macs ++ rest) (12 + 2) (le16 (macs ++ rest) (12 + 0))).bind _ = _
  rw [← h, skipVlan_behind, le16_behind, Option.bind_map, Option.map_bind]
  simp only [Function.comp_def, skipVlan_behind]

theorem skipVlan_ethPIp (buf : List UInt8) : skipVlan buf cur (htons ethPIp) = some (cur, htons ethPIp) :=
  if_neg (by decide)

theorem UntaggedIpv4.parseEth_eq (h : UntaggedIpv4 frame) : parseEth frame = some (14, htons ethPIp) := by
  obtain ⟨macs, rest, rfl, hmacs, hrest, htype⟩ := h.exists_parts
  simp only [parseEth_append hmacs hrest, htype, skipVlan_ethPIp, Option.bind_some, Option.map_some]

/-- The parser gets behind one tag and behind two. -/
theorem UntaggedIpv4.parseEth_insertTags (h : UntaggedIpv4 frame) (htags : tags.length = 1 ∨ tags.length = 2) :
    parseEth (insertTags (tagBytes tags) frame) = some (14 + (tagBytes tags).length, htons ethPIp) := by
  obtain ⟨macs, rest, rfl, hmacs, hrest, htype⟩ := h.exists_parts
  rw [length_tagBytes, insertTags_append hmacs, List.append_assoc,
    parseEth_append hmacs (by rw [List.length_append]; omega)]
  rcases htags with hone | htwo
  · obtain ⟨v, rfl⟩ := List.length_eq_one_iff.mp hone
    rw [show tagBytes [v] = v.bytes from List.append_nil _, v.skips hrest, htype, Option.bind_some, skipVlan_ethPIp]
    rfl
  · obtain ⟨u, v, rfl⟩ := List.length_eq_two.mp htwo
    have hnext : skipVlan (u.bytes ++ (v.bytes ++ rest)) (4 + 2) (le16 (v.bytes ++ rest) 0) =
        some (4 + (4 + 2), htons ethPIp) := by
      rw [← u.length_bytes, skipVlan_behind, v.skips hrest, htype, u.length_bytes]
      rfl
    rw [show tagBytes [u, v] = u.bytes ++ (v.bytes ++ []) from rfl, List.append_nil, List.append_assoc,
      u.skips (by rw [List.length_append]; omega), Option.bind_some, hnext]
    rfl

/-- **Tags do not show in the key.** -/
theorem UntaggedIpv4.parseFrame_insertTags (h : UntaggedIpv4 frame) (htags : tags.length = 1 ∨ tags.length = 2) :
    parseFrame (insertTags (tagBytes tags) frame) = parseFrame frame := by
  have heth := h.parseEth_eq
  have heth' := h.parseEth_insertTags htags
  obtain ⟨macs, rest, rfl, hmacs, -⟩ := h.exists_parts
  rw [insertTags_append hmacs] at heth' ⊢
  have hlen : (macs ++ tagBytes tags).length + 2 = 14 + (tagBytes tags).length := by
    rw [List.length_append]
    omega
  exact parseFrame_congr (hlen ▸ heth') (show parseEth _ = some (macs.length + 2, _) by rw [hmacs, heth])

end

/-! ## Pings behind tags -/

section
variable {front rest : List UInt8} {icmp : Nat}

theorem swapAt_append_left (hcur : cur + n ≤ front.length) (hj : j + n ≤ front.length) :
    swapAt (front ++ rest) cur j n = swapAt front cur j n ++ rest := by
  have hlen : (store front cur (slice front j n)).length = front.length :=
    length_store (by rw [length_slice hj]; exact hcur)
  rw [swapAt, slice_append_left hj, slice_append_left hcur, store_append_left (by rw [length_slice hj]; exact hcur),
    store_append_left (by rw [length_slice hcur, hlen]; exact hj), swapAt]

/-- The link addresses are swapped in front, and everything else is done behind. -/
theorem echoedFrame_behind (h : 12 ≤ front.length) :
    echoedFrame (front ++ rest) (front.length + ip) (front.length + icmp) = swapAt front 6 0 6 ++
      echoMessage (updateIpChecksum (store (swapAt rest (ip + 12) (ip + 16) 4) (ip + 8) [64]) ip) icmp := by
  have hlen : (swapAt front 6 0 6).length = front.length := length_swapAt (by omega) (by omega)
  rw [echoedFrame, echoAddressed, swapAt_append_left (by omega) (by omega), ← hlen]
  simp only [Nat.add_assoc, swapAt, store_behind, slice_behind, updateIpChecksum, wordSum, le16_behind, echoMessage]

theorem ipHeaderLen_behind : ipHeaderLen (front ++ rest) (front.length + ip) = ipHeaderLen rest ip := by
  rw [ipHeaderLen, byteAt_behind, ipHeaderLen]

theorem echoes_behind_iff : Echoes (front ++ rest) (front.length + ip) ↔ Echoes rest ip := by
  simp only [Echoes, ipHeaderLen_behind, byteAt_behind, Nat.add_assoc, List.length_append, Nat.add_le_add_iff_left]

end

/-- **Tags do not matter to a ping**, and are kept in the reply. -/
theorem UntaggedIpv4.sendIcmpEchoReply_insertTags (h : UntaggedIpv4 frame)
    {tags : List VlanTag} (htags : tags.length = 1 ∨ tags.length = 2) :
    sendIcmpEchoReply (insertTags (tagBytes tags) frame) =
      ((sendIcmpEchoReply frame).1, insertTags (tagBytes tags) (sendIcmpEchoReply frame).2) := by
  have heth := h.parseEth_eq
  have heth' := h.parseEth_insertTags htags
  obtain ⟨macs, rest, rfl, hmacs, -⟩ := h.exists_parts
  have hlen : (macs ++ tagBytes tags).length + 2 = 14 + (tagBytes tags).length := by
    rw [List.length_append]
    omega
  rw [insertTags_append hmacs, ← hlen] at heth'
  rw [show 14 = macs.length + 2 by rw [hmacs]] at heth
  rw [insertTags_append hmacs]
  by_cases hecho : Echoes rest 2
  · rw [sendIcmpEchoReply_of_echoes heth' (echoes_behind_iff.mpr hecho), ipHeaderLen_behind, Nat.add_assoc,
      echoedFrame_behind (by omega), swapAt_append_left (by omega) (by omega),
      sendIcmpEchoReply_of_echoes heth (echoes_behind_iff.mpr hecho), ipHeaderLen_behind, Nat.add_assoc,
      echoedFrame_behind (by omega), insertTags_append (by rw [length_swapAt (by omega) (by omega), hmacs])]
  · rw [sendIcmpEchoReply_of_not heth' (mt echoes_behind_iff.mp hecho),
      sendIcmpEchoReply_of_not heth (mt echoes_behind_iff.mp hecho), insertTags_append hmacs]

/-! ## Source NAT behind tags -/

/-- The packet-too-big test does not know tags. -/
theorem exceedsMtu_insertTags {frame : List UInt8} (h : 12 ≤ frame.length)
    : exceedsMtu (insertTags (tagBytes (v :: tags)) frame) e = false := by
  obtain ⟨macs, rest, rfl, hmacs⟩ := exists_parts h
  have htype : le16 (insertTags (tagBytes (v :: tags)) (macs ++ rest)) 12 ≠ htons ethPIp := by
    rw [insertTags_append hmacs, List.append_assoc, ← hmacs, ← Nat.add_zero macs.length, le16_behind, tagBytes,
      List.flatMap_cons, List.append_assoc]
    rcases v.type_eq (tags.flatMap VlanTag.bytes ++ rest) with h | h <;> rw [h] <;> decide
  simp [exceedsMtu, htype]

theorem applySnat_of_not_fits (h : snatFits frame = false) : applySnat frame wanIp = frame := by
  simp only [applySnat]
  split
  · rfl
  · rename_i hlen
    split
    · rfl
    · rename_i hversion
      obtain ⟨hver, hihl⟩ := not_or.mp hversion
      have hfits : snatFits frame = true := by
        simp only [snatFits, Bool.and_eq_true, Bool.not_eq_true', decide_eq_true_eq, decide_eq_false_iff_not]
        exact ⟨⟨by omega, not_not.mp hver⟩, hihl⟩
      rw [h] at hfits
      cases hfits

/-- NAT has nothing to do: `apply_snat` turns the frame away, or it has the address and a checksum other than
    0xffff, the zero that an update turns into 0. -/
def LeftAlone (frame : List UInt8) (wanIp : UInt32) : Prop :=
  snatFits frame = true → le32 frame 26 = wanIp ∧ le16 frame 24 ≠ 0xffff

theorem applySnat_eq_self_iff : applySnat frame wanIp = frame ↔ LeftAlone frame wanIp := by
  unfold LeftAlone
  by_cases hfits : snatFits frame = true
  · have hlen := length_of_snatFits hfits
    simp only [hfits, forall_const]
    constructor
    · intro heq
      have hsource : bytes32 wanIp = slice frame 26 4 := by
        rw [← slice_applySnat_source hfits, heq]
      have haddr : le32 frame 26 = wanIp := le32_of_slice hsource.symm
      have hcheck : bytes16 (csumReplace4 (le16 frame 24) wanIp wanIp) = slice frame 24 2 := by
        rw [← haddr, ← slice_applySnat_check hfits, haddr, heq]
      have hself : le16 frame 24 = csumReplace4 (le16 frame 24) wanIp wanIp := le16_of_slice hcheck.symm
      exact ⟨haddr, (csumReplace4_self _ _).mp hself.symm⟩
    · rintro ⟨rfl, hcheck⟩
      rw [applySnat_eq hfits, (csumReplace4_self _ _).mpr hcheck, ← slice_four (by omega), store_slice (by omega),
        ← slice_two (by omega), store_slice (by omega)]
  · simp only [hfits, Bool.false_eq_true, false_implies, iff_true]
    exact applySnat_of_not_fits (by simpa using hfits)

/-! ## The whole program -/

/-- NAT is due for packets of this key through this WAN. -/
def SnatDue (t : Tables) (key : FlowKey) (e : BpfWanEntry) : Prop :=
  t.ctrl.snatEnabled ≠ 0 ∧ e.isActive ≠ 0 ∧ e.ipAddr ≠ 0 ∧ isLan key.srcIp = true

instance (t : Tables) (key : FlowKey) (e : BpfWanEntry) : Decidable (SnatDue t key e) :=
  inferInstanceAs (Decidable (_ ∧ _))

/-- What becomes of a packet that has a WAN, as far as the wire is concerned. -/
def sent (t : Tables) (tailroom : Nat) (key : FlowKey) (frame : List UInt8) (e : BpfWanEntry) :
    XdpAction × List UInt8 :=
  if exceedsMtu frame e then sendIcmpTooBig tailroom frame e.mtu
  else (.pass, if SnatDue t key e then applySnat frame e.ipAddr else frame)

theorem finish_sent (t : Tables) (tailroom : Nat) (cpu : Cpu) (s : RouterState) (key : FlowKey)
    (frame : List UInt8) (w : UInt32) :
    ((finish t tailroom cpu s key frame w).action, (finish t tailroom cpu s key frame w).frame) =
      (t.wanTable.lookup w.toNat).elim (.pass, frame) (sent t tailroom key frame) := by
  unfold finish
  rcases t.wanTable.lookup w.toNat with _ | e
  · rfl
  · simp only [Option.elim_some, sent]
    by_cases hbig : exceedsMtu frame e = true
    · simp only [hbig, if_true]
    · simp only [hbig, Bool.false_eq_true, if_false, SnatDue]
      rfl

/-- The packet with these tags. -/
def Packet.tagged (p : Packet) (tags : List VlanTag) : Packet :=
  { p with frame := insertTags (tagBytes tags) p.frame }

/-- The tags make no difference, and are kept: the same WAN, the same verdict, and on the wire the same frame
    but for the tags. -/
structure SameUnderTags (p : Packet) (tags : List VlanTag) (s : RouterState) : Prop where
  wan : ((p.tagged tags).result s).wan = (p.result s).wan
  action : ((p.tagged tags).result s).action = (p.result s).action
  frame : ((p.tagged tags).result s).frame = insertTags (tagBytes tags) (p.result s).frame

/-- The one way to clear the datagram's checksum 0xffff behind a tag, as `apply_snat` does in front: one tag, so
    that it stands where the program writes the second half of the address, and an address that ends in zeros
    and begins with the bytes before the checksum, time to live and protocol. -/
structure ClearsBehind (p : Packet) (tags : List VlanTag) (wanIp : UInt32) : Prop where
  one : tags.length = 1
  fits : snatFits (p.tagged tags).frame = true
  address : bytes32 wanIp = [byteAt p.frame 22, byteAt p.frame 23, 0, 0]
  fragment : le16 p.frame 20 ≠ 0xffff

/-- Where a packet with these tags is treated as without, given its key and the row of its WAN.

    * Too big for the WAN: there is no answer to it, and NAT, if due, has nothing to do to the tagged frame.
    * Else, if NAT is due: the WAN has the packet's own address, so that only a checksum 0xffff changes, and
      so it does behind the tags. -/
def TagsIgnored (p : Packet) (tags : List VlanTag) (key : FlowKey) (e : BpfWanEntry) : Prop :=
  (exceedsMtu p.frame e = true → ¬ Reflectable p.tailroom p.frame.length ∧
    (SnatDue p.tables key e → LeftAlone (p.tagged tags).frame e.ipAddr)) ∧
  (exceedsMtu p.frame e = false → SnatDue p.tables key e → e.ipAddr = le32 p.frame 26 ∧
    (le16 p.frame 24 ≠ 0xffff → LeftAlone (p.tagged tags).frame e.ipAddr) ∧
    (le16 p.frame 24 = 0xffff → ClearsBehind p tags e.ipAddr))

/-- Behind tags, `apply_snat` never reaches the source address. -/
theorem eq_source_of_applySnat_insertTags (hfits : snatFits frame = true)
    {tags : List VlanTag} (htags : tags.length = 1 ∨ tags.length = 2)
    (heq : applySnat (insertTags (tagBytes tags) frame) wanIp =
      insertTags (tagBytes tags) (applySnat frame wanIp)) : wanIp = le32 frame 26 := by
  have hlen := length_of_snatFits hfits
  have hbytes := length_tagBytes tags
  have hkept : slice (applySnat (insertTags (tagBytes tags) frame) wanIp) (26 + (tagBytes tags).length) 4 =
      slice frame 26 4 := by
    rw [← slice_insertTags_high (show 12 ≤ frame.length by omega) (show 12 ≤ 26 by decide)]
    by_cases h : snatFits (insertTags (tagBytes tags) frame) = true
    · exact slice_applySnat_of_outside h (.inr (by omega))
    · rw [applySnat_of_not_fits (by simpa using h)]
  have hout : 12 ≤ (applySnat frame wanIp).length := by
    rw [length_applySnat hfits]
    omega
  rw [heq, slice_insertTags_high hout (by decide), slice_applySnat_source hfits] at hkept
  exact (le32_of_slice hkept.symm).symm

/-- A frame that has the address, and a checksum 0xffff, loses the checksum. -/
theorem applySnat_ones (hfits : snatFits frame = true) (hcheck : le16 frame 24 = 0xffff) :
    applySnat frame (le32 frame 26) = store frame 24 [0, 0] := by
  have hlen := length_of_snatFits hfits
  rw [applySnat_eq hfits, hcheck, csumReplace4_ones, ← slice_four (by omega), store_slice (by omega)]
  rfl

section
variable {p : Packet} {tags : List VlanTag} (hfits : snatFits p.frame = true)
include hfits

/-- Behind one tag the source address of the program is two bytes of the datagram and its checksum. -/
theorem slice_tagged_source (hone : tags.length = 1) :
    slice (p.tagged tags).frame 26 2 = [byteAt p.frame 22, byteAt p.frame 23] ∧
      slice (p.tagged tags).frame 28 2 = bytes16 (le16 p.frame 24) := by
  have hlen := length_of_snatFits hfits
  have hfour : (tagBytes tags).length = 4 := by rw [length_tagBytes, hone]
  have hmoved : ∀ j, 12 ≤ j → slice (p.tagged tags).frame (j + 4) 2 = slice p.frame j 2 := by
    intro j hj
    rw [Packet.tagged, ← hfour, slice_insertTags_high (by omega) hj]
  refine ⟨?_, ?_⟩
  · rw [hmoved 22 (by decide), slice_succ (by omega), slice_succ (by omega)]
    rfl
  · rw [hmoved 24 (by decide), slice_two (by omega)]

theorem halves_tagged_source (hone : tags.length = 1) (hcheck : le16 p.frame 24 = 0xffff)
    (haddress : bytes32 wanIp = [byteAt p.frame 22, byteAt p.frame 23, 0, 0]) :
    halves (le32 (p.tagged tags).frame 26) = halves wanIp + 65535 := by
  have hlen := length_of_snatFits hfits
  have hlen' : (p.tagged tags).frame.length = p.frame.length + (tagBytes tags).length :=
    length_insertTags (by omega)
  obtain ⟨hfront, hrest⟩ := slice_tagged_source hfits hone
  have hold : slice (p.tagged tags).frame 26 4 = [byteAt p.frame 22, byteAt p.frame 23, 0xff, 0xff] := by
    rw [show 4 = 2 + 2 from rfl, slice_add, hfront, hrest, hcheck]
    rfl
  rw [← hostSum_slice_four (by omega), hold, ← hostSum_bytes32, haddress]
  rfl

/-- Behind one tag, with this address, an update keeps the two bytes that are the fragment field of the datagram
    and that the program takes for the checksum. -/
theorem csumReplace4_tagged (hone : tags.length = 1) (hcheck : le16 p.frame 24 = 0xffff)
    (haddress : bytes32 wanIp = [byteAt p.frame 22, byteAt p.frame 23, 0, 0]) :
    csumReplace4 (le16 (p.tagged tags).frame 24) (le32 (p.tagged tags).frame 26) wanIp =
      le16 (p.tagged tags).frame 24 ↔ le16 p.frame 20 ≠ 0xffff := by
  have hlen := length_of_snatFits hfits
  have hfour : (tagBytes tags).length = 4 := by rw [length_tagBytes, hone]
  have hfragment : le16 (p.tagged tags).frame 24 = le16 p.frame 20 := by
    rw [Packet.tagged, show 24 = 20 + (tagBytes tags).length by omega, le16_insertTags_high (by omega) (by decide)]
  have hsum := halves_tagged_source hfits hone hcheck haddress
  rw [csumReplace4_eq_self_iff (by omega) (by omega), hfragment]

theorem clearsBehind_iff (htags : tags.length = 1 ∨ tags.length = 2) (hcheck : le16 p.frame 24 = 0xffff)
    (hsource : wanIp = le32 p.frame 26) :
    applySnat (p.tagged tags).frame wanIp = insertTags (tagBytes tags) (applySnat p.frame wanIp) ↔
      ClearsBehind p tags wanIp := by
  have hlen := length_of_snatFits hfits
  have h12 : 12 ≤ p.frame.length := by omega
  have hbytes := length_tagBytes tags
  have hlen' : (p.tagged tags).frame.length = p.frame.length + (tagBytes tags).length := length_insertTags h12
  have hgoal : insertTags (tagBytes tags) (applySnat p.frame wanIp) =
      store (p.tagged tags).frame (24 + (tagBytes tags).length) [0, 0] := by
    rw [hsource, applySnat_ones hfits hcheck, insertTags_store_high h12 (by decide)]
    rfl
  have hcleared : slice (store (p.tagged tags).frame (24 + (tagBytes tags).length) [0, 0])
      (24 + (tagBytes tags).length) 2 = [0, 0] := slice_store_self (by omega)
  rw [hgoal]
  constructor
  · intro heq
    -- the checksum behind the tags changes, so it lies where the program writes
    have hchanged : slice (applySnat (p.tagged tags).frame wanIp) (24 + (tagBytes tags).length) 2 ≠
        slice (p.tagged tags).frame (24 + (tagBytes tags).length) 2 := by
      rw [heq, hcleared, Packet.tagged, slice_insertTags_high h12 (by decide), slice_two (by omega), hcheck]
      decide
    have hfits' : snatFits (p.tagged tags).frame = true := by
      by_contra h
      rw [applySnat_of_not_fits (by simpa using h)] at hchanged
      exact hchanged rfl
    have hone : tags.length = 1 := by
      by_contra h
      exact hchanged (slice_applySnat_of_outside hfits' (.inr (by omega)))
    have hfour : (tagBytes tags).length = 4 := by omega
    rw [hfour] at heq hcleared
    have hkept : ∀ {j}, j ≤ 26 → slice (applySnat (p.tagged tags).frame wanIp) j 2 =
        slice (p.tagged tags).frame j 2 := by
      intro j hj
      rw [heq]
      exact slice_store_of_outside (by simp only [List.length_cons, List.length_nil]; omega) (.inl (by omega))
    have haddress : bytes32 wanIp = [byteAt p.frame 22, byteAt p.frame 23, 0, 0] := by
      rw [← slice_applySnat_source hfits', show 4 = 2 + 2 from rfl, slice_add, hkept (by decide), heq, hcleared,
        (slice_tagged_source hfits hone).1]
      rfl
    have hfragment := hkept (j := 24) (by decide)
    rw [slice_applySnat_check hfits', slice_two (by omega)] at hfragment
    have hupdate : csumReplace4 (le16 (p.tagged tags).frame 24) (le32 (p.tagged tags).frame 26) wanIp =
        le16 (p.tagged tags).frame 24 := by
      rw [← UInt16.toNat_inj, ← hostSum_bytes16, hfragment, hostSum_bytes16]
    exact ⟨hone, hfits', haddress, (csumReplace4_tagged hfits hone hcheck haddress).mp hupdate⟩
  · rintro ⟨hone, hfits', haddress, hfragment⟩
    have hfour : (tagBytes tags).length = 4 := by omega
    have hsame : slice (store (p.tagged tags).frame 28 [0, 0]) 24 2 = slice (p.tagged tags).frame 24 2 :=
      slice_store_of_outside (by simp only [List.length_cons, List.length_nil]; omega) (.inl (by decide))
    have hkeep : store (p.tagged tags).frame 26 [byteAt p.frame 22, byteAt p.frame 23] = (p.tagged tags).frame := by
      rw [← (slice_tagged_source hfits hone).1, store_slice (by omega)]
    rw [applySnat_eq hfits', (csumReplace4_tagged hfits hone hcheck haddress).mpr hfragment, haddress, hfour,
      ← slice_two (by omega), ← hsame,
      show [byteAt p.frame 22, byteAt p.frame 23, 0, 0] = [byteAt p.frame 22, byteAt p.frame 23] ++ [0, 0] from rfl,
      store_append _ _ _ (by simp only [List.length_cons, List.length_nil]; omega), hkeep]
    exact store_slice (by rw [length_store (by simp only [List.length_cons, List.length_nil]; omega)]; omega)

end

theorem applySnat_tagged_iff {p : Packet} {tags : List VlanTag} (hfits : snatFits p.frame = true)
    (htags : tags.length = 1 ∨ tags.length = 2) :
    applySnat (p.tagged tags).frame wanIp = insertTags (tagBytes tags) (applySnat p.frame wanIp) ↔
      wanIp = le32 p.frame 26 ∧ (le16 p.frame 24 ≠ 0xffff → LeftAlone (p.tagged tags).frame wanIp) ∧
        (le16 p.frame 24 = 0xffff → ClearsBehind p tags wanIp) := by
  by_cases hsource : wanIp = le32 p.frame 26
  · by_cases hcheck : le16 p.frame 24 = 0xffff
    · simp only [hsource, hcheck, ne_eq, not_true_eq_false, false_implies, true_and, forall_const]
      exact clearsBehind_iff hfits htags hcheck rfl
    · have hself : applySnat p.frame wanIp = p.frame := applySnat_eq_self_iff.mpr fun _ => ⟨hsource.symm, hcheck⟩
      rw [hself, ← applySnat_eq_self_iff]
      simp only [hsource, hcheck, ne_eq, not_false_eq_true, false_implies, true_and, and_true, forall_const]
      rfl
  · simp only [hsource, false_and, iff_false]
    exact fun heq => hsource (eq_source_of_applySnat_insertTags hfits htags heq)

theorem sent_tagged_iff {p : Packet} {tags : List VlanTag}
    (h12 : 12 ≤ p.frame.length) (htags : tags.length = 1 ∨ tags.length = 2) (hfits : snatFits p.frame = true) :
    sent p.tables p.tailroom key (p.tagged tags).frame e = ((sent p.tables p.tailroom key p.frame e).1,
          insertTags (tagBytes tags) (sent p.tables p.tailroom key p.frame e).2) ↔
      TagsIgnored p tags key e := by
  -- a tagged packet is never too big
  have hnever : exceedsMtu (p.tagged tags).frame e = false := by
    rcases tags with _ | ⟨v, tags⟩
    · simp at htags
    · exact exceedsMtu_insertTags h12
  have htagged : sent p.tables p.tailroom key (p.tagged tags).frame e =
      (.pass, if SnatDue p.tables key e then applySnat (p.tagged tags).frame e.ipAddr else (p.tagged tags).frame) := by
    rw [sent, hnever]
    rfl
  rw [htagged]
  unfold TagsIgnored
  by_cases hbig : exceedsMtu p.frame e = true
  · have hsent : sent p.tables p.tailroom key p.frame e = sendIcmpTooBig p.tailroom p.frame e.mtu := if_pos hbig
    rw [hsent]
    rcases sendIcmpTooBig_cases p.tailroom p.frame e.mtu with ⟨hr, answer, hsend, -⟩ | ⟨hr, hsend⟩
    · simp [hsend, hbig, hr]
    · rw [hsend, ← applySnat_eq_self_iff]
      by_cases hdue : SnatDue p.tables key e
      · simp only [hdue, if_true, hbig, hr, Prod.mk.injEq, true_and, forall_const, not_false_eq_true,
          Bool.true_eq_false, false_implies, and_true]
        rfl
      · simp only [hdue, if_false, hbig, hr, Prod.mk.injEq, true_and, forall_const, not_false_eq_true,
          Bool.true_eq_false, false_implies, and_true, iff_true]
        rfl
  · rw [Bool.not_eq_true] at hbig
    have hsent : sent p.tables p.tailroom key p.frame e =
        (.pass, if SnatDue p.tables key e then applySnat p.frame e.ipAddr else p.frame) := by
      rw [sent, hbig]
      rfl
    rw [hsent]
    by_cases hdue : SnatDue p.tables key e
    · simp only [hdue, if_true, hbig, Prod.mk.injEq, true_and, forall_const, Bool.false_eq_true, false_implies]
      exact applySnat_tagged_iff hfits htags
    · simp only [hdue, if_false, hbig, Prod.mk.injEq, true_and, Bool.false_eq_true, false_implies, implies_true,
        iff_true]
      rfl

/-- An untagged packet that is parsed is not turned away by `apply_snat`. -/
theorem UntaggedIpv4.snatFits_of_parseFrame (h : UntaggedIpv4 frame)
    (hparse : parseFrame frame = some key) : snatFits frame = true := by
  simp only [parseFrame, h.parseEth_eq, Option.bind_some, ne_eq, not_true_eq_false, if_false] at hparse
  obtain ⟨r, hip, -⟩ := Option.bind_eq_some_iff.mp hparse
  simp only [parseIpv4] at hip
  split at hip
  · cases hip
  · rename_i hroom
    split at hip
    · cases hip
    · rename_i hversion
      obtain ⟨hver, hihl⟩ := not_or.mp hversion
      simp only [snatFits, Bool.and_eq_true, Bool.not_eq_true', decide_eq_true_eq, decide_eq_false_iff_not]
      exact ⟨⟨by omega, not_not.mp hver⟩, hihl⟩

section
variable {s : RouterState} {p : Packet} {tags : List VlanTag} (h : UntaggedIpv4 p.frame)
  (htags : tags.length = 1 ∨ tags.length = 2)
include h htags

/-- A packet that is not for the router. -/
theorem sameUnderTags_of_unparsed (hparse : parseFrame p.frame = none) : SameUnderTags p tags s := by
  have hsame : parseFrame (p.tagged tags).frame = none := (h.parseFrame_insertTags htags).trans hparse
  have hplain : p.result s = { action := .pass, frame := p.frame, state := s } := by
    simp only [Packet.result, xdpRouterFunc, hparse]
  have htagged : (p.tagged tags).result s = { action := .pass, frame := (p.tagged tags).frame, state := s } := by
    simp only [Packet.result, xdpRouterFunc, hsame]
  constructor <;> rw [htagged, hplain]
  rfl

/-- A ping to the router itself. -/
theorem sameUnderTags_of_ping (hparse : parseFrame p.frame = some key)
    (hping : pingsRouter p.tables key = true) : SameUnderTags p tags s := by
  have hsame : parseFrame (p.tagged tags).frame = some key := (h.parseFrame_insertTags htags).trans hparse
  have hping' : pingsRouter (p.tagged tags).tables key = true := hping
  have hecho : sendIcmpEchoReply (p.tagged tags).frame =
      ((sendIcmpEchoReply p.frame).1, insertTags (tagBytes tags) (sendIcmpEchoReply p.frame).2) :=
    h.sendIcmpEchoReply_insertTags htags
  constructor <;>
    simp only [Packet.result, xdpRouterFunc, hparse, hsame, hping, hping', if_true, hecho]

/-- A packet that gets a WAN gets the same with tags. -/
theorem sameUnderTags_iff_of_routed (hp : p.Has key) {w : UInt32} (hw : p.wan s = some w) :
    SameUnderTags p tags s ↔ ∀ e, p.tables.wanTable.lookup w.toNat = some e → TagsIgnored p tags key e := by
  have h12 : 12 ≤ p.frame.length := Nat.le_trans (by decide) h.length
  have hp' : (p.tagged tags).Has key := ⟨(h.parseFrame_insertTags htags).trans hp.1, hp.2⟩
  have hw' : (p.tagged tags).wan s = some w := by
    rw [← hw, Packet.wan_eq hp, Packet.wan_eq hp']
    rfl
  obtain ⟨s₁, hplain, -⟩ := Packet.result_eq_finish hp hw
  obtain ⟨s₂, htagged, -⟩ := Packet.result_eq_finish hp' hw'
  have hout := finish_sent p.tables p.tailroom p.cpu s₁ key p.frame w
  have hout' := finish_sent p.tables p.tailroom p.cpu s₂ key (p.tagged tags).frame w
  rw [← hplain] at hout
  rw [← show (p.tagged tags).result s = finish p.tables p.tailroom p.cpu s₂ key (p.tagged tags).frame w from
    htagged] at hout'
  have hiff : SameUnderTags p tags s ↔
      (((p.tagged tags).result s).action, ((p.tagged tags).result s).frame) =
        ((p.result s).action, insertTags (tagBytes tags) (p.result s).frame) := by
    rw [Prod.mk.injEq]
    exact ⟨fun hs => ⟨hs.action, hs.frame⟩, fun hs => ⟨hw'.trans hw.symm, hs.1, hs.2⟩⟩
  rw [hiff, hout', show (p.result s).action = _ from congrArg Prod.fst hout,
    show (p.result s).frame = _ from congrArg Prod.snd hout]
  rcases hrow : p.tables.wanTable.lookup w.toNat with _ | e
  · simp only [Option.elim_none, reduceCtorEq, false_implies, implies_true, iff_true]
    rfl
  · simp only [Option.elim_some, Option.some.injEq, forall_eq']
    exact sent_tagged_iff h12 htags (h.snatFits_of_parseFrame hp.1)

end

/-- **When tags make no difference**: when nothing is done to the packet that is due.  The WAN is always the same;
    an answer that the packet is too big, and NAT, are due to the untagged packet only. -/
theorem sameUnderTags_iff (s : RouterState) (p : Packet) (tags : List VlanTag)
    (htags : tags.length = 1 ∨ tags.length = 2) (h : UntaggedIpv4 p.frame) :
    SameUnderTags p tags s ↔ ∀ key w e, p.Has key → Goes p.tables key (s.sessions.find p.cpu key).1 w →
      p.tables.wanTable.lookup w.toNat = some e → TagsIgnored p tags key e := by
  rcases hparse : parseFrame p.frame with _ | key
  · refine iff_of_true (sameUnderTags_of_unparsed h htags hparse) ?_
    intro key w e hp
    exact absurd (hp.1.symm.trans hparse) (by simp)
  · by_cases hping : pingsRouter p.tables key = true
    · refine iff_of_true (sameUnderTags_of_ping h htags hparse hping) ?_
      intro key' w e hp
      obtain rfl := Option.some.inj (hp.1.symm.trans hparse)
      exact absurd (hp.2.symm.trans hping) (by simp)
    · have hp : p.Has key := ⟨hparse, by simpa using hping⟩
      rw [sameUnderTags_iff_of_routed h htags hp (Packet.wan_eq hp)]
      constructor
      · intro hrow key' w e hp' hgoes hlookup
        obtain rfl := Option.some.inj (hp'.1.symm.trans hparse)
        have hw := (Packet.wan_eq_some_iff_goes hp).mpr hgoes
        rw [Packet.wan_eq hp, Option.some_inj] at hw
        exact hrow e (hw ▸ hlookup)
      · intro hall e hlookup
        exact hall key _ e hp ((Packet.wan_eq_some_iff_goes hp).mp (Packet.wan_eq hp)) hlookup

theorem synFrame_untagged : UntaggedIpv4 synFrame := by
  constructor <;> decide

/-- The SYN through a WAN that has the sender's own address. -/
theorem sameUnderTags_iff_ownAddress : SameUnderTags (synPacket 0x0500000A) [⟨false, (0, 5)⟩] {} := by
  refine (sameUnderTags_iff {} (synPacket 0x0500000A) [⟨false, (0, 5)⟩] (.inl rfl) synFrame_untagged).mpr ?_
  intro key w e hp hgoes hrow
  obtain rfl := Option.some.inj (hp.1.symm.trans synPacket_has.1)
  have hwan : (synPacket 0x0500000A).wan {} = some 1 := by decide
  obtain rfl := Option.some.inj (((Packet.wan_eq_some_iff_goes hp).mpr hgoes).symm.trans hwan)
  obtain rfl : { isActive := 1, weight := 10, ipAddr := 0x0500000A } = e := Option.some.inj hrow
  refine ⟨fun hbig => absurd hbig (by decide), fun _ _ => ⟨by decide, fun _ hfits => ?_, ?_⟩⟩
  · exact absurd hfits (by decide)
  · exact fun hones => absurd hones (by decide)

/-- Through 203.0.113.7 the untagged SYN gets the WAN's address; with a tag it leaves with 10.0.0.5. -/
theorem taggedSyn_not_translated :
    UntaggedIpv4 synFrame ∧
      slice ((synPacket 0x077100CB).result {}).frame 26 4 = [203, 0, 113, 7] ∧
      slice (((synPacket 0x077100CB).tagged [⟨false, (0, 5)⟩]).result {}).frame 30 4 = [10, 0, 0, 5] ∧
      ¬ SameUnderTags (synPacket 0x077100CB) [⟨false, (0, 5)⟩] {} := by
  refine ⟨synFrame_untagged, by decide, by decide, ?_⟩
  intro hsame
  have hframe := hsame.frame
  revert hframe
  decide

end FluxWAN.Xdp
