/-
  What a translated packet is worth.

  The program exchanges the IP header and touches nothing else.  It takes 20 bytes of the packet for the IPv4
  header, whatever the header says, so options stay in front of the segment; it copies the protocol number, so ICMP
  does not become ICMPv6; and it leaves the transport checksum, which covers the addresses, as it was.

  1. **Packets** — `ValidIpv6` next to `ValidIpv4`; a request, a reply, and what must come out of each (`Sent`,
     `Returned`).
  2. **The two paths** — `egress_eq`, `ingress_eq`: the bytes of the packets that come out.
  3. **Result** — `translated_iff`: a request and its reply come out right exactly if the packet is not ICMP, the
     segment stands right behind the first 20 bytes, and the IPv4 and the IPv6 addresses have the same sum modulo
     65535 (and there is room: in front of the packet, in the map, and in the length field of the reply).
-/
import FluxWAN.Nat46.Replies
import FluxWAN.Xdp.Checksum

namespace FluxWAN.Nat46

open Bytes BpfMap OnesComplement
open Xdp (ipHeaderLen ipTotLen ipPayload ValidIpv4 pseudoHeader TransportVerifies ipprotoTcp ipprotoUdp ipprotoIcmp)

/-! ## Packets -/

/-- The number of an IPv4 protocol in an IPv6 packet. -/
def nextHeader (proto : UInt8) : UInt8 := if proto = ipprotoIcmp then 58 else proto

/-- Where a segment has its checksum. -/
def checksumAt (proto : UInt8) : Nat := if proto = ipprotoTcp then 16 else if proto = ipprotoUdp then 6 else 2

/-- What a translator may change in a segment: the checksum, and the type of an ICMP message. -/
def MayChange (proto : UInt8) (j : Nat) : Prop :=
  j = checksumAt proto ∨ j = checksumAt proto + 1 ∨ proto = ipprotoIcmp ∧ j = 0

structure SameSegment (proto : UInt8) (before after : List UInt8) : Prop where
  length : after.length = before.length
  bytes : ∀ j < before.length, ¬ MayChange proto j → byteAt after j = byteAt before j

/-- A whole TCP segment, UDP datagram or echo message; `echoes` are the types of the latter. -/
def Whole (proto : UInt8) (echoes segment : List UInt8) : Prop :=
  proto = ipprotoTcp ∧ 20 ≤ segment.length ∨
    proto = ipprotoUdp ∧ 8 ≤ segment.length ∧ (be16 segment 4).toNat = segment.length ∨
    proto = ipprotoIcmp ∧ 8 ≤ segment.length ∧ byteAt segment 0 ∈ echoes ∧ byteAt segment 1 = 0

theorem whole_ne_zero {segment : List UInt8} (h : Whole proto echoes segment) : proto ≠ 0 := by
  rintro rfl
  rcases h with ⟨h, -⟩ | ⟨h, -⟩ | ⟨h, -⟩ <;> exact absurd h (by decide)

section
variable (frame : List UInt8)

/-- `payload_len` of the IPv6 header behind Ethernet. -/
def ip6PayloadLen : Nat := (be16 frame 18).toNat

/-- What the IPv6 header carries. -/
def ip6Payload : List UInt8 := slice frame 54 (ip6PayloadLen frame)

end

/-- The pseudo-header of IPv6. -/
def pseudoHeader6 (src dst : In6Addr) (n : Nat) (next : UInt8) : List UInt8 :=
  src ++ dst ++ [0, 0, UInt8.ofNat (n / 256), UInt8.ofNat n, 0, 0, 0, next]

/-- A correct IPv6 packet for what is `proto` in IPv4, without extension headers.  UDP must have a checksum. -/
structure ValidIpv6 (frame : List UInt8) (proto : UInt8) (src dst : In6Addr) : Prop where
  type : le16 frame 12 = htons ethPIpv6
  version : byteAt frame 14 >>> 4 = 6
  next : byteAt frame 20 = nextHeader proto
  source : slice frame 22 16 = src
  target : slice frame 38 16 = dst
  inFrame : 54 + ip6PayloadLen frame ≤ frame.length
  checksum : Verifies (pseudoHeader6 src dst (ip6PayloadLen frame) (nextHeader proto) ++ ip6Payload frame)
  present : proto = ipprotoUdp → le16 (ip6Payload frame) 6 ≠ 0

/-- The checksum of the segment in an IPv4 packet is correct; UDP may be without. -/
def SoundChecksum (frame : List UInt8) : Prop :=
  if byteAt frame 23 = ipprotoIcmp then Verifies (ipPayload frame 14)
  else byteAt frame 23 = ipprotoUdp ∧ le16 (ipPayload frame 14) 6 = 0 ∨ TransportVerifies frame 14

/-- A correct packet to a synthetic address, and the server it is for. -/
structure Request (cfg : Nat46Config) (maps : Maps) (frame : List UInt8) (server : In6Addr) : Prop where
  enabled : cfg.enabled ≠ 0
  type : le16 frame 12 = htons Xdp.ethPIp
  ip : ValidIpv4 frame 14
  segment : Whole (byteAt frame 23) [8, 0] (ipPayload frame 14)
  checksum : SoundChecksum frame
  synthetic : htonl (le32 frame 30) &&& synthIpv4Mask = synthIpv4Net
  mapped : maps.forward.lookup (le32 frame 30) = some server
  address : server.length = 16

/-- What must become of it. -/
structure Sent (cfg : Nat46Config) (frame : List UInt8) (server : In6Addr) (r : NatResult) : Prop where
  action : r.action = .redirect cfg.starlinkIfindex
  packet : ValidIpv6 r.frame (byteAt frame 23) cfg.routerV6Src server
  segment : SameSegment (byteAt frame 23) (ipPayload frame 14) (ip6Payload r.frame)
  echo : byteAt frame 23 = ipprotoIcmp →
    byteAt (ip6Payload r.frame) 0 = if byteAt (ipPayload frame 14) 0 = 8 then 128 else 129

/-- A correct packet from the server to the router, of the protocol of the request. -/
structure Reply (cfg : Nat46Config) (proto : UInt8) (server : In6Addr) (reply : List UInt8) : Prop where
  packet : ValidIpv6 reply proto server cfg.routerV6Src
  segment : Whole proto [128, 129] (ip6Payload reply)

/-- What must become of it. -/
structure Returned (cfg : Nat46Config) (proto : UInt8) (reply : List UInt8) (r : NatResult) : Prop where
  action : r.action = .redirect cfg.lanIfindex
  type : le16 r.frame 12 = htons Xdp.ethPIp
  ip : ValidIpv4 r.frame 14
  protocol : byteAt r.frame 23 = proto
  segment : SameSegment proto (ip6Payload reply) (ipPayload r.frame 14)
  checksum : SoundChecksum r.frame
  echo : proto = ipprotoIcmp →
    byteAt (ipPayload r.frame 14) 0 = if byteAt (ip6Payload reply) 0 = 128 then 8 else 0

/-! ## Sums -/

/-- Of a pseudo-header only the addresses depend on the family. -/
def protocolSum (proto : UInt8) (n : Nat) : Nat := hostSum [0, proto, UInt8.ofNat (n / 256), UInt8.ofNat n]

theorem protocolSum_pos (h : proto ≠ 0) (n : Nat) : 0 < protocolSum proto n :=
  hostSum_pos (b := proto) (by simp) h

theorem hostSum_pseudoHeader6 {src dst : In6Addr} {segment : List UInt8} (hsrc : src.length = 16) (hdst : dst.length = 16) (n : Nat)
    (next : UInt8) :
    hostSum (pseudoHeader6 src dst n next ++ segment) =
      hostSum src + hostSum dst + (protocolSum next n + hostSum segment) := by
  have hwords : hostSum ([0, 0, UInt8.ofNat (n / 256), UInt8.ofNat n, 0, 0, 0, next] ++ segment) =
      protocolSum next n + hostSum segment := by
    simp only [protocolSum, hostSum, List.cons_append, List.nil_append, UInt8.toNat_zero]
    omega
  rw [pseudoHeader6, List.append_assoc, List.append_assoc, hostSum_append (by omega), hostSum_append (by omega),
    hwords]
  omega

theorem hostSum_pseudoHeader {frame segment : List UInt8} (hlen : 34 ≤ frame.length) :
    hostSum (pseudoHeader frame 14 ++ segment) = hostSum (slice frame 26 8) +
      (protocolSum (byteAt frame 23) (ipTotLen frame 14 - ipHeaderLen frame 14) + hostSum segment) := by
  simp only [pseudoHeader]
  rw [List.append_assoc, hostSum_append (by rw [length_slice (by omega)])]
  simp only [protocolSum, hostSum, List.cons_append, List.nil_append, Nat.reduceAdd]
  omega

/-! ## Egress -/

/-- "Populate IPv6 Header". -/
def ipv6Header (cfg : Nat46Config) (payloadLen : UInt16) (proto : UInt8) (server : In6Addr) : List UInt8 :=
  [0x60, 0, 0, 0] ++ bytes16 (htons payloadLen) ++ [proto, 64] ++ cfg.routerV6Src ++ server

section
variable (cfg : Nat46Config) {frame : List UInt8} (payloadLen : UInt16) (proto : UInt8) {server : In6Addr}

theorem length_ipv6Header (hserver : server.length = 16) : (ipv6Header cfg payloadLen proto server).length = 40 := by
  simp only [ipv6Header, List.length_append, cfg.length_routerV6Src, hserver]
  rfl

variable (hserver : server.length = 16) (hlen : 54 ≤ frame.length)
include hserver hlen

theorem ipv6Header_fits : 14 + (ipv6Header cfg payloadLen proto server).length ≤ frame.length := by
  rw [length_ipv6Header cfg payloadLen proto hserver]
  exact hlen

theorem length_toIpv6 : (toIpv6 cfg frame payloadLen proto server).length = frame.length :=
  length_rewrapped _ (ipv6Header_fits cfg payloadLen proto hserver hlen) cfg.length_starlinkGwMac

theorem le16_toIpv6_type : le16 (toIpv6 cfg frame payloadLen proto server) 12 = htons ethPIpv6 :=
  le16_rewrapped _ (ipv6Header_fits cfg payloadLen proto hserver hlen) cfg.length_starlinkGwMac

theorem slice_toIpv6_behind (hj : 54 ≤ j) : slice (toIpv6 cfg frame payloadLen proto server) j n = slice frame j n := by
  have hhdr := length_ipv6Header cfg payloadLen proto hserver
  exact slice_rewrapped_behind _ (ipv6Header_fits cfg payloadLen proto hserver hlen) cfg.length_starlinkGwMac (by omega)

/-- The IPv6 header of the packet that comes out, field by field. -/
theorem toIpv6_fields :
    byteAt (toIpv6 cfg frame payloadLen proto server) 14 = 0x60 ∧
      ip6PayloadLen (toIpv6 cfg frame payloadLen proto server) = payloadLen.toNat ∧
      byteAt (toIpv6 cfg frame payloadLen proto server) 20 = proto ∧
      slice (toIpv6 cfg frame payloadLen proto server) 22 16 = cfg.routerV6Src ∧
      slice (toIpv6 cfg frame payloadLen proto server) 38 16 = server := by
  have hhdr := length_ipv6Header cfg payloadLen proto hserver
  have hpart : ∀ k n, k + n ≤ 40 → slice (toIpv6 cfg frame payloadLen proto server) (14 + k) n =
      slice (ipv6Header cfg payloadLen proto server) k n := fun k n hk =>
    slice_rewrapped_header _ (ipv6Header_fits cfg payloadLen proto hserver hlen) cfg.length_starlinkGwMac (by omega)
  have hrouter := cfg.length_routerV6Src
  refine ⟨byteAt_of_slice (hpart 0 1 (by decide)), ?_, byteAt_of_slice (hpart 6 1 (by decide)), ?_, ?_⟩
  · exact congrArg UInt16.toNat (be16_of_htons (hpart 4 2 (by decide)))
  · rw [hpart 8 16 (by decide), ipv6Header, List.append_assoc, slice]
    exact List.take_left' hrouter
  · rw [hpart 24 16 (by decide), ipv6Header, slice, List.drop_left' (by simp only [List.length_append, hrouter]; rfl)]
    exact List.take_of_length_le (by omega)

end

/-- Behind the 20 bytes that `bpf_xdp_adjust_head` uncovers the frame is as it was. -/
theorem slice_grown {headroom frame : List UInt8} (h : 20 ≤ headroom.length) (j n : Nat) :
    slice (headroom.drop (headroom.length - 20) ++ frame) (20 + j) n = slice frame j n := by
  have hlen : (headroom.drop (headroom.length - 20)).length = 20 := by
    rw [List.length_drop]
    omega
  rw [slice, ← List.drop_drop, List.drop_left' hlen, slice]

section
variable {cfg : Nat46Config} {headroom frame : List UInt8} {maps : Maps} {server : In6Addr}

/-- The segment as the program sees it: 20 bytes into the packet, whatever the header length. -/
def takenSegment (frame : List UInt8) : List UInt8 :=
  slice frame 34 (ipTotLen frame 14 - ipHeaderLen frame 14)

theorem Request.length (h : Request cfg maps frame server) : 34 ≤ frame.length := by
  have := h.ip.headerLen
  have := h.ip.totLen
  have := h.ip.inFrame
  omega

theorem toNat_ihlBytes : ((byteAt frame 14 &&& 0x0F).toUInt16 * 4).toNat = ipHeaderLen frame 14 := by
  have hle : ipHeaderLen frame 14 ≤ 60 := Xdp.ipHeaderLen_le
  unfold ipHeaderLen at hle ⊢
  rw [UInt16.toNat_mul, UInt8.toNat_toUInt16]
  exact Nat.mod_eq_of_lt (by rw [show (4 : UInt16).toNat = 4 from rfl]; omega)

/-- The payload length as the program computes it. -/
def requestLen (frame : List UInt8) : UInt16 := be16 frame 16 - (byteAt frame 14 &&& 0x0F).toUInt16 * 4

/-- What becomes of a request in the frame with 20 more bytes in front. -/
def sentOn (cfg : Nat46Config) (frame : List UInt8) (maps : Maps) (server : In6Addr) (grown : List UInt8) : NatResult where
  action := .redirect cfg.starlinkIfindex
  frame := toIpv6 cfg grown (requestLen frame) (byteAt frame 23) server
  maps :=
    { maps with
      reverse := maps.reverse.update mapEntries server
        { syntheticV4 := le32 frame 30, clientV4 := le32 frame 26 } }
  sent := some { client := le32 frame 26, synthetic := le32 frame 30, target := server }

theorem Request.toNat_payloadLen (h : Request cfg maps frame server) :
    (requestLen frame).toNat = ipTotLen frame 14 - ipHeaderLen frame 14 := by
  rw [requestLen, UInt16.toNat_sub_of_le, toNat_ihlBytes]
  · rfl
  · rw [UInt16.le_iff_toNat_le, toNat_ihlBytes]
    exact h.ip.totLen

/-- A request comes as far as the head adjustment. -/
theorem Request.handler_eq (h : Request cfg maps frame server) (headroom : List UInt8) :
    xdpNat46Handler cfg headroom frame maps =
      match growHead headroom frame 20 with
      | none => { action := .drop, frame, maps }
      | some grown =>
        if 14 + 40 > grown.length then { action := .drop, frame := grown, maps }
        else sentOn cfg frame maps server grown := by
  have hlen := h.length
  have htot : ¬ be16 frame 16 < (byteAt frame 14 &&& 0x0F).toUInt16 * 4 := by
    rw [UInt16.lt_iff_toNat_lt, toNat_ihlBytes]
    exact Nat.not_lt.mpr h.ip.totLen
  rw [xdpNat46Handler, if_neg (by omega), if_neg h.enabled, if_pos h.type, egress, if_neg (by omega),
    if_pos h.synthetic, h.mapped]
  exact if_neg htot

/-- … else it is sent on. -/
theorem Request.egress_eq (h : Request cfg maps frame server) (hroom : 20 ≤ headroom.length) :
    xdpNat46Handler cfg headroom frame maps =
      sentOn cfg frame maps server (headroom.drop (headroom.length - 20) ++ frame) := by
  have hlen := h.length
  rw [h.handler_eq, growHead, if_pos hroom]
  exact if_neg (by rw [List.length_append, List.length_drop]; omega)

/-- What leaves is right if the segment was where the program takes it to be, and its checksum is right for the
    IPv6 addresses. -/
theorem Request.sent_iff (h : Request cfg maps frame server) (hroom : 20 ≤ headroom.length) :
    Sent cfg frame server (xdpNat46Handler cfg headroom frame maps) ↔
      byteAt frame 23 ≠ ipprotoIcmp ∧
        SameSegment (byteAt frame 23) (ipPayload frame 14) (takenSegment frame) ∧
        Verifies (pseudoHeader6 cfg.routerV6Src server (ipTotLen frame 14 - ipHeaderLen frame 14)
          (byteAt frame 23) ++ takenSegment frame) ∧
        (byteAt frame 23 = ipprotoUdp → le16 (takenSegment frame) 6 ≠ 0) := by
  have hlen := h.length
  have hpayload := h.toNat_payloadLen
  have hgrown : (headroom.drop (headroom.length - 20) ++ frame).length = 20 + frame.length := by
    rw [List.length_append, List.length_drop]
    omega
  have hfits : 54 ≤ (headroom.drop (headroom.length - 20) ++ frame).length := by omega
  obtain ⟨hversion, hpl, hnext, hsource, htarget⟩ := toIpv6_fields cfg (requestLen frame) (byteAt frame 23) h.address hfits
  have htype := le16_toIpv6_type cfg (requestLen frame) (byteAt frame 23) h.address hfits
  have hlength := length_toIpv6 cfg (requestLen frame) (byteAt frame 23) h.address hfits
  have hbehind := slice_toIpv6_behind cfg (requestLen frame) (byteAt frame 23) h.address hfits (n := ip6PayloadLen
    (toIpv6 cfg (headroom.drop (headroom.length - 20) ++ frame) (requestLen frame) (byteAt frame 23) server))
    (Nat.le_refl 54)
  rw [h.egress_eq hroom, sentOn]
  generalize toIpv6 cfg (headroom.drop (headroom.length - 20) ++ frame) (requestLen frame) (byteAt frame 23) server =
    out at *
  have hsegment : ip6Payload out = takenSegment frame := by
    rw [ip6Payload, hbehind, hpl, hpayload, show 54 = 20 + 34 from rfl, slice_grown hroom, takenSegment]
  by_cases hicmp : byteAt frame 23 = ipprotoIcmp
  · -- the protocol number is copied, so it must not need a translation
    refine iff_of_false (fun hs => ?_) (fun hs => hs.1 hicmp)
    have hbad := hs.packet.next
    rw [hnext, hicmp] at hbad
    exact absurd hbad (by decide)
  · have hsame : nextHeader (byteAt frame 23) = byteAt frame 23 := if_neg hicmp
    constructor
    · intro hs
      have hsum := hs.packet.checksum
      rw [hsegment, hpl, hpayload, hsame] at hsum
      exact ⟨hicmp, hsegment ▸ hs.segment, hsum, hsegment ▸ hs.packet.present⟩
    · rintro ⟨-, hseg, hsum, hpresent⟩
      refine ⟨rfl, ⟨htype, by rw [hversion]; rfl, hnext.trans hsame.symm, hsource, htarget, ?_, ?_,
        hsegment ▸ hpresent⟩, hsegment ▸ hseg, fun hbad => absurd hbad hicmp⟩
      · have hhead := h.ip.headerLen
        have hinFrame := h.ip.inFrame
        rw [hpl, hlength, hgrown, hpayload]
        omega
      · rw [hsegment, hsame, hpl, hpayload]
        exact hsum

end

/-! ## Ingress -/

section
variable (cfg : Nat46Config) {frame : List UInt8} (payloadLen : UInt16) (proto : UInt8) (rev : ReverseVal)

/-- Two folds are enough for ten words. -/
theorem calcIpCsum_eq {hdr : List UInt8} (h : hdr.length = 20) :
    calcIpCsum hdr = Xdp.csumFoldHelper (Xdp.wordSum hdr 0 10) := by
  have hfixed : ∀ c : UInt64, c.toNat < 65536 → Xdp.csumFold c = c := by
    intro c hc
    rw [← UInt64.toNat_inj, Xdp.toNat_csumFold c (by omega), Nat.mod_eq_of_lt hc, Nat.div_eq_of_lt hc, Nat.add_zero]
  have hle : (Xdp.wordSum hdr 0 10).toNat ≤ 10 * 65535 := (Xdp.toNat_wordSum (by omega) (by decide)).2
  have hfirst := Xdp.toNat_csumFold (Xdp.wordSum hdr 0 10) (by omega)
  have hsecond := Xdp.toNat_csumFold (Xdp.csumFold (Xdp.wordSum hdr 0 10)) (by omega)
  have hsmall : (Xdp.csumFold (Xdp.csumFold (Xdp.wordSum hdr 0 10))).toNat < 65536 := by omega
  have hthird := hfixed _ hsmall
  rw [calcIpCsum, Xdp.csumFoldHelper, hthird, hthird]

/-- `calc_ip_csum` is right for the header it is put into. -/
theorem verifies_ipv4Header : Verifies (ipv4Header payloadLen proto rev) := by
  have hhdr := length_ipv4Header payloadLen proto rev
  have hfirst : byteAt (ipv4Header payloadLen proto rev) 0 = 0x45 :=
    byteAt_store_of_outside (check_fits payloadLen proto rev) (.inl (by decide))
  have hwhole : slice (ipv4Header payloadLen proto rev) 0 20 = ipv4Header payloadLen proto rev :=
    List.take_of_length_le (Nat.le_of_eq hhdr)
  have hmod : hostSum (slice (ipv4Header payloadLen proto rev) 0 (2 * 10)) % 65535 = 0 := by
    rw [ipv4Header, calcIpCsum_eq rfl]
    exact Xdp.hostSum_store_checksum (k := 5) (Nat.le_refl _) (by decide) (by decide) rfl
  have hpos := Xdp.hostSum_header_pos (n := 20) (Nat.le_of_eq hhdr.symm) (by decide) (by rw [hfirst]; decide)
  rw [verifies_iff, ← hwhole]
  exact ⟨hpos, hmod⟩

variable (hlen : 34 ≤ frame.length)
include hlen

theorem slice_toIpv4_header :
    slice (toIpv4 cfg frame payloadLen proto rev) 14 20 = ipv4Header payloadLen proto rev := by
  have hhdr := length_ipv4Header payloadLen proto rev
  have hwhole := slice_rewrapped_header (k := 0) (n := 20) (htons Xdp.ethPIp)
    (ipv4Header_fits payloadLen proto rev hlen) cfg.length_lanGwMac (by omega)
  exact hwhole.trans (List.take_of_length_le (Nat.le_of_eq hhdr))

theorem slice_toIpv4_behind (hj : 34 ≤ j) : slice (toIpv4 cfg frame payloadLen proto rev) j n = slice frame j n := by
  have hhdr := length_ipv4Header payloadLen proto rev
  exact slice_rewrapped_behind _ (ipv4Header_fits payloadLen proto rev hlen) cfg.length_lanGwMac (by omega)

theorem length_toIpv4 : (toIpv4 cfg frame payloadLen proto rev).length = frame.length :=
  length_rewrapped _ (ipv4Header_fits payloadLen proto rev hlen) cfg.length_lanGwMac

/-- The IPv4 header of the packet that comes out, field by field. -/
theorem toIpv4_fields :
    byteAt (toIpv4 cfg frame payloadLen proto rev) 14 = 0x45 ∧
      ipHeaderLen (toIpv4 cfg frame payloadLen proto rev) 14 = 20 ∧
      ipTotLen (toIpv4 cfg frame payloadLen proto rev) 14 = (payloadLen + 20).toNat ∧
      byteAt (toIpv4 cfg frame payloadLen proto rev) 23 = proto ∧
      slice (toIpv4 cfg frame payloadLen proto rev) 26 8 = bytes32 rev.syntheticV4 ++ bytes32 rev.clientV4 := by
  have hkept {k n : Nat} (hk : k + n ≤ 10 ∨ 12 ≤ k ∧ k + n ≤ 20) :
      slice (toIpv4 cfg frame payloadLen proto rev) (14 + k) n = slice (blankIpv4Header payloadLen proto rev) k n :=
    slice_toIpv4 cfg payloadLen proto rev hlen hk
  have hfirst : byteAt (toIpv4 cfg frame payloadLen proto rev) 14 = 0x45 :=
    byteAt_of_slice (hkept (k := 0) (n := 1) (.inl (by decide)))
  refine ⟨hfirst, ?_, ?_, byteAt_of_slice (hkept (k := 9) (n := 1) (.inl (by decide))),
    hkept (k := 12) (.inr (by decide))⟩
  · rw [ipHeaderLen, hfirst]
    rfl
  · exact congrArg UInt16.toNat (be16_of_htons (hkept (k := 2) (.inl (by decide))))

end

section
variable {cfg : Nat46Config} {headroom reply : List UInt8} {maps : Maps} {server : In6Addr} {proto : UInt8}
  (henabled : cfg.enabled ≠ 0) (h : Reply cfg proto server reply)
include henabled h

/-- A reply from a server without an entry is not translated, … -/
theorem Reply.passed (hnone : maps.reverse.lookup server = none) :
    (xdpNat46Handler cfg headroom reply maps).action = .pass := by
  have hinFrame := h.packet.inFrame
  have hsource : sourceV6 reply = server := h.packet.source
  rw [xdpNat46Handler, if_neg (by omega), if_neg henabled, h.packet.type, if_neg (by decide), if_pos rfl, ingress,
    if_neg (by omega), hsource, hnone]

/-- … any other is. -/
theorem Reply.ingress_eq (hrev : maps.reverse.lookup server = some rev) :
    xdpNat46Handler cfg headroom reply maps =
      { action := .redirect cfg.lanIfindex
        frame := toIpv4 cfg (reply.drop 20) (be16 reply 18) (nextHeader proto) rev
        maps } := by
  have hinFrame := h.packet.inFrame
  have hsource : sourceV6 reply = server := h.packet.source
  rw [xdpNat46Handler, if_neg (by omega), if_neg henabled, h.packet.type, if_neg (by decide), if_pos rfl, ingress,
    if_neg (by omega), hsource, hrev, ← h.packet.next]
  dsimp only
  rw [shrinkHead, if_pos (by omega)]
  exact if_neg (by rw [List.length_drop]; omega)

/-- What returns is right if it fits into an IPv4 packet and the addresses of the entry weigh what the IPv6
    addresses do. -/
theorem Reply.returned_iff (hserver : server.length = 16) {rev : ReverseVal}
    (hrev : maps.reverse.lookup server = some rev) :
    Returned cfg proto reply (xdpNat46Handler cfg headroom reply maps) ↔
      proto ≠ ipprotoIcmp ∧ ip6PayloadLen reply + 20 < 65536 ∧
        (hostSum cfg.routerV6Src + hostSum server) % 65535 =
          (halves rev.syntheticV4 + halves rev.clientV4) % 65535 := by
  have hinFrame := h.packet.inFrame
  have hresult : xdpNat46Handler cfg headroom reply maps = _ := Reply.ingress_eq henabled h hrev
  have hdrop : (reply.drop 20).length = reply.length - 20 := List.length_drop
  have hlen : 34 ≤ (reply.drop 20).length := by omega
  obtain ⟨hfirst, hhead, htot, hproto, haddr⟩ := toIpv4_fields cfg (be16 reply 18) (nextHeader proto) rev hlen
  have htype := le16_ethertype cfg (be16 reply 18) (nextHeader proto) rev hlen
  have hlength := length_toIpv4 cfg (be16 reply 18) (nextHeader proto) rev hlen
  by_cases hicmp : proto = ipprotoIcmp
  · refine iff_of_false (fun hr => ?_) (fun hr => hr.1 hicmp)
    have hbad := hr.protocol
    rw [hresult, hproto, hicmp] at hbad
    exact absurd hbad (by decide)
  · have hnext : nextHeader proto = proto := if_neg hicmp
    generalize hout : toIpv4 cfg (reply.drop 20) (be16 reply 18) (nextHeader proto) rev = out at *
    rw [hnext] at hproto
    have htotNat : ipTotLen out 14 = (ip6PayloadLen reply + 20) % 65536 := by
      rw [htot, UInt16.toNat_add]
      rfl
    have hn : ip6PayloadLen reply < 65536 := (be16 reply 18).toNat_lt
    by_cases hfit : ip6PayloadLen reply + 20 < 65536
    · have hpayload : ipPayload out 14 = ip6Payload reply := by
        rw [ipPayload, hhead, htotNat, Nat.mod_eq_of_lt hfit, Nat.add_sub_cancel, ← hout,
          slice_toIpv4_behind cfg _ _ _ hlen (by decide), slice, List.drop_drop, ip6Payload, slice]
      have hverifies : TransportVerifies out 14 ↔ (hostSum cfg.routerV6Src + hostSum server) % 65535 =
          (halves rev.syntheticV4 + halves rev.clientV4) % 65535 := by
        have hsum := h.packet.checksum
        rw [hnext, verifies_iff, hostSum_pseudoHeader6 hserver cfg.length_routerV6Src] at hsum
        have hpos := protocolSum_pos (whole_ne_zero h.segment) (ip6PayloadLen reply)
        have heven : (bytes32 rev.syntheticV4).length % 2 = 0 := (rfl : 4 % 2 = 0)
        rw [TransportVerifies, verifies_iff, hostSum_pseudoHeader (by omega), hpayload, haddr, hproto, hhead, htotNat,
          Nat.mod_eq_of_lt hfit, Nat.add_sub_cancel, hostSum_append heven, hostSum_bytes32, hostSum_bytes32]
        omega
      have hsound : SoundChecksum out ↔ TransportVerifies out 14 := by
        rw [SoundChecksum, hproto, if_neg hicmp, hpayload]
        exact or_iff_right fun hnone => h.packet.present hnone.1 hnone.2
      rw [hresult, ← hverifies, ← hsound]
      constructor
      · exact fun hr => ⟨hicmp, hfit, hr.checksum⟩
      · rintro ⟨-, -, hchecksum⟩
        refine ⟨rfl, htype, ⟨?_, ?_, ?_, ?_, ?_⟩, hproto, ?_, hchecksum, fun hbad => absurd hbad hicmp⟩
        · rw [hfirst]
          rfl
        · exact Nat.le_of_eq hhead.symm
        · rw [hhead, htotNat, Nat.mod_eq_of_lt hfit]
          omega
        · rw [htotNat, Nat.mod_eq_of_lt hfit, hlength]
          omega
        · rw [hhead, ← hout, slice_toIpv4_header cfg _ _ _ hlen]
          exact verifies_ipv4Header _ _ _
        · rw [hpayload]
          exact ⟨rfl, fun _ _ _ => rfl⟩
    · -- the length field has wrapped
      refine iff_of_false (fun hr => ?_) (fun hr => hfit hr.2.1)
      have hbad := hr.ip.totLen
      rw [hresult, hhead, htotNat] at hbad
      omega

end

/-! ## There and back -/

/-- What a request and its reply must be like for both to come out right.

    * The segment stands right behind the first 20 bytes of the packet, as it does without options; with options
      the bytes there would have to be the same, but for a checksum that is right as well.
    * The checksum is not left out.
    * The addresses of both families weigh the same, so that a checksum for one pair is right for the other. -/
structure Translatable (cfg : Nat46Config) (headroom frame : List UInt8) (maps : Maps) (server : In6Addr)
    (reply : List UInt8) : Prop where
  notIcmp : byteAt frame 23 ≠ ipprotoIcmp
  headroom : 20 ≤ headroom.length
  segment : SameSegment (byteAt frame 23) (ipPayload frame 14) (takenSegment frame)
  checksum : Verifies (pseudoHeader frame 14 ++ takenSegment frame)
  present : byteAt frame 23 = ipprotoUdp → le16 (takenSegment frame) 6 ≠ 0
  addresses : (hostSum cfg.routerV6Src + hostSum server) % 65535 =
    (halves (le32 frame 30) + halves (le32 frame 26)) % 65535
  room : server ∈ maps.reverse.map Prod.fst ∨ maps.reverse.length < mapEntries
  replyLen : ip6PayloadLen reply + 20 < 65536

/-- A checksum that is right for IPv4 is right for IPv6 exactly if the addresses weigh the same. -/
theorem verifies_pseudoHeader6_iff {cfg : Nat46Config} {segment : List UInt8}
    (h : Request cfg maps frame server) (haddr : (hostSum cfg.routerV6Src + hostSum server) % 65535 =
      (halves (le32 frame 30) + halves (le32 frame 26)) % 65535) :
    Verifies (pseudoHeader6 cfg.routerV6Src server (ipTotLen frame 14 - ipHeaderLen frame 14)
        (byteAt frame 23) ++ segment) ↔ Verifies (pseudoHeader frame 14 ++ segment) := by
  have hlen := h.length
  have hpos := protocolSum_pos (whole_ne_zero h.segment) (ipTotLen frame 14 - ipHeaderLen frame 14)
  have hfour : hostSum (slice frame 26 8) = halves (le32 frame 26) + halves (le32 frame 30) := by
    rw [show 8 = 4 + 4 from rfl, hostSum_slice_add _ (by omega) (by decide), Xdp.hostSum_slice_four (by omega),
      Xdp.hostSum_slice_four (by omega)]
  rw [verifies_iff, verifies_iff, hostSum_pseudoHeader6 cfg.length_routerV6Src h.address, hostSum_pseudoHeader hlen,
    hfour]
  omega

/-- **When NAT46 works.**  For every correct request to a mapped address and every correct reply to it. -/
theorem translated_iff (cfg : Nat46Config) (headroom headroom' frame reply : List UInt8) (maps : Maps)
    (server : In6Addr) (h : Request cfg maps frame server) (h' : Reply cfg (byteAt frame 23) server reply) :
    Sent cfg frame server (xdpNat46Handler cfg headroom frame maps) ∧
        Returned cfg (byteAt frame 23) reply
          (xdpNat46Handler cfg headroom' reply (xdpNat46Handler cfg headroom frame maps).maps) ↔
      Translatable cfg headroom frame maps server reply := by
  by_cases hroom : 20 ≤ headroom.length
  · have hmaps : (xdpNat46Handler cfg headroom frame maps).maps.reverse =
        maps.reverse.update mapEntries server { syntheticV4 := le32 frame 30, clientV4 := le32 frame 26 } := by
      rw [h.egress_eq hroom]
      rfl
    rw [h.sent_iff hroom]
    by_cases hspace : server ∈ maps.reverse.map Prod.fst ∨ maps.reverse.length < mapEntries
    · have hrev : (xdpNat46Handler cfg headroom frame maps).maps.reverse.lookup server =
          some { syntheticV4 := le32 frame 30, clientV4 := le32 frame 26 } := by
        rw [hmaps, Hash.lookup_update hspace, Function.update_self]
      rw [Reply.returned_iff h.enabled h' h.address hrev]
      constructor
      · rintro ⟨⟨hicmp, hseg, hsum, hpresent⟩, -, hfit, haddr⟩
        exact ⟨hicmp, hroom, hseg, (verifies_pseudoHeader6_iff h haddr).mp hsum, hpresent, haddr, hspace, hfit⟩
      · intro ht
        exact ⟨⟨ht.notIcmp, ht.segment, (verifies_pseudoHeader6_iff h ht.addresses).mpr ht.checksum, ht.present⟩,
          ht.notIcmp, ht.replyLen, ht.addresses⟩
    · -- the map is full, and the reply finds no entry
      obtain ⟨hmem, hfull⟩ := not_or.mp hspace
      have hnone : (xdpNat46Handler cfg headroom frame maps).maps.reverse.lookup server = none := by
        rw [hmaps, Hash.update_of_full hmem (Nat.le_of_not_lt hfull), Hash.lookup_eq_none_iff]
        exact hmem
      refine iff_of_false (fun hs => ?_) (fun ht => hspace ht.room)
      have hpass : (xdpNat46Handler cfg headroom' reply (xdpNat46Handler cfg headroom frame maps).maps).action =
          .pass := Reply.passed h.enabled h' hnone
      exact absurd (hs.2.action.symm.trans hpass) (by simp)
  · refine iff_of_false (fun hs => ?_) (fun ht => hroom ht.headroom)
    have haction := hs.1.action
    rw [h.handler_eq, growHead, if_neg (by omega)] at haction
    cases haction

/-- A router at `2a02:cb40:1000:88::`, with these two bytes at the end. -/
def routerAt (hi lo : UInt8) : Nat46Config where
  routerV6Src := [0x2A, 0x02, 0xCB, 0x40, 0x10, 0, 0, 0x88, 0, 0, 0, 0, 0, 0, hi, lo]
  starlinkIfindex := 2
  lanIfindex := 3
  starlinkGwMac := List.replicate 6 0xCC
  lanGwMac := List.replicate 6 0xAA
  enabled := 1
  length_routerV6Src := rfl
  length_starlinkGwMac := List.length_replicate
  length_lanGwMac := List.length_replicate

/-- One synthetic address, 198.18.0.1. -/
def oneMapping : Maps := { forward := [(0x010012C6, dnsTarget)] }

/-- A SYN from 10.10.10.150:54321 to 198.18.0.1:443. -/
def synToSynthetic : List UInt8 :=
  List.replicate 12 0xBB ++ [0x08, 0x00] ++
    [0x45, 0, 0, 40, 0, 0, 0x40, 0, 64, 6, 0x60, 0x1D, 10, 10, 10, 150, 198, 18, 0, 1] ++
    [0xD4, 0x31, 0x01, 0xBB, 0, 0, 0, 1, 0, 0, 0, 0, 0x50, 0x02, 0x20, 0, 0xDF, 0x41, 0, 0]

/-- The answer of the server to the router at `::9b9e`. -/
def synAck : List UInt8 :=
  List.replicate 12 0xBB ++ [0x86, 0xDD] ++ [0x60, 0, 0, 0, 0, 20, 6, 64] ++ dnsTarget ++
    (routerAt 0x9B 0x9E).routerV6Src ++
    [0x01, 0xBB, 0xD4, 0x31, 0, 0, 0, 1, 0, 0, 0, 0, 0x50, 0x12, 0x20, 0, 0xDF, 0x31, 0, 0]

theorem synToSynthetic_validTransport : Xdp.ValidTransport synToSynthetic 14 := by
  refine ⟨.inl ⟨by decide, by decide⟩, ?_⟩
  unfold TransportVerifies
  decide

theorem synToSynthetic_request : Request (routerAt hi lo) oneMapping synToSynthetic dnsTarget where
  enabled := (by decide : (1 : UInt32) ≠ 0)
  type := by decide
  ip := by constructor <;> decide
  segment := .inl ⟨by decide, by decide⟩
  checksum := by
    rw [SoundChecksum, if_neg (by decide)]
    exact .inr synToSynthetic_validTransport.checksum
  synthetic := by decide
  mapped := by decide
  address := rfl

theorem synAck_reply : Reply (routerAt 0x9B 0x9E) (byteAt synToSynthetic 23) dnsTarget synAck where
  packet := by
    constructor
    case present => exact fun hudp => absurd hudp (by decide)
    all_goals decide
  segment := .inl ⟨by decide, by decide⟩

/-- At `::9b9e` the addresses happen to weigh the same. -/
theorem translated_iff_neutral :
    Sent (routerAt 0x9B 0x9E) synToSynthetic dnsTarget
        (xdpNat46Handler (routerAt 0x9B 0x9E) (List.replicate 20 0) synToSynthetic oneMapping) ∧
      Returned (routerAt 0x9B 0x9E) (byteAt synToSynthetic 23) synAck
        (xdpNat46Handler (routerAt 0x9B 0x9E) [] synAck
          (xdpNat46Handler (routerAt 0x9B 0x9E) (List.replicate 20 0) synToSynthetic oneMapping).maps) :=
  (translated_iff (routerAt 0x9B 0x9E) (List.replicate 20 0) [] synToSynthetic synAck oneMapping dnsTarget
    synToSynthetic_request synAck_reply).mpr
    { notIcmp := by decide
      headroom := by decide
      segment := ⟨by decide, fun _ _ _ => rfl⟩
      checksum := synToSynthetic_validTransport.checksum
      present := fun hudp => absurd hudp (by decide)
      addresses := by decide
      room := .inr (by decide)
      replyLen := by decide }

/-- At `::50` they do not: the server gets a segment with a checksum it refuses. -/
theorem synToSynthetic_refused :
    Request (routerAt 0 0x50) oneMapping synToSynthetic dnsTarget ∧
      (xdpNat46Handler (routerAt 0 0x50) (List.replicate 20 0) synToSynthetic oneMapping).action = .redirect 2 ∧
      ip6Payload (xdpNat46Handler (routerAt 0 0x50) (List.replicate 20 0) synToSynthetic oneMapping).frame =
        ipPayload synToSynthetic 14 ∧
      ¬ Sent (routerAt 0 0x50) synToSynthetic dnsTarget
        (xdpNat46Handler (routerAt 0 0x50) (List.replicate 20 0) synToSynthetic oneMapping) := by
  refine ⟨synToSynthetic_request, by decide, by decide, ?_⟩
  intro hs
  have hchecksum := hs.packet.checksum
  revert hchecksum
  decide

end FluxWAN.Nat46
