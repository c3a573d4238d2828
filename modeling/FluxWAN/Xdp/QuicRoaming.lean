/-
  QUIC clients that change their address.

  A QUIC packet names its connection by an id, and the id stands in two places: behind version and length in a
  long header, right behind the first byte in a short one.  `parse_udp` finds it in both, makes a token of
  its first three bytes, and leaves the client's address and port out of the key.  So packets of one
  connection to one server have ONE key, wherever they come from (`quic_same_session`).
-/
import FluxWAN.Xdp.Payload

namespace FluxWAN.Xdp

open Bytes BpfMap

/-- A QUIC packet on port 443 with this destination connection id; its UDP header starts at `udp`. -/
structure QuicPacket (frame : List UInt8) (udp : Nat) (flow : FlowKey) (cid : List UInt8) : Prop where
  datagram : UdpFrame frame udp flow
  port : le16 frame udp = htons 443 ∨ le16 frame (udp + 2) = htons 443
  fixedBit : byteAt frame (udp + 8) &&& 0x40 ≠ 0
  fits : udp + 9 + cid.length ≤ frame.length
  connectionId :
    -- long header: first byte, version, length of the id, id
    byteAt frame (udp + 8) &&& 0x80 ≠ 0 ∧ (byteAt frame (udp + 13)).toNat = cid.length ∧
        udp + 14 + cid.length ≤ frame.length ∧ slice frame (udp + 14) cid.length = cid ∨
      -- short header: first byte, id
      byteAt frame (udp + 8) &&& 0x80 = 0 ∧ slice frame (udp + 9) cid.length = cid

/-- The token of a connection id. -/
def cidToken (cid : List UInt8) : UInt16 := quicToken (byteAt cid 0) (byteAt cid 1) (byteAt cid 2)

section
variable {frame cid : List UInt8} {udp : Nat} {flow : FlowKey}

/-- Both headers lead to the id. -/
theorem QuicPacket.quicDcid_eq (h : QuicPacket frame udp flow cid) (hcid : 4 ≤ cid.length) :
    ∃ d, quicDcid frame (udp + 8) = some d ∧ slice frame d cid.length = cid := by
  have hfits := h.fits
  rcases h.connectionId with ⟨hlong, hlength, hroom, hid⟩ | ⟨hshort, hid⟩
  · refine ⟨udp + 14, ?_, hid⟩
    have hfour : byteAt frame (udp + 8 + 5) ≥ 4 := by
      show 4 ≤ byteAt frame (udp + 13)
      rw [UInt8.le_iff_toNat_le, hlength]
      exact hcid
    simp only [quicDcid]
    rw [if_pos hlong, if_pos (by omega), if_pos ⟨hfour, by omega⟩]
  · refine ⟨udp + 9, ?_, hid⟩
    simp only [quicDcid]
    rw [if_neg (not_not.mpr hshort), if_pos (by omega)]

theorem QuicPacket.udpReading_eq (h : QuicPacket frame udp flow cid) (hcid : 4 ≤ cid.length) :
    udpReading frame udp = some (cidToken cid) := by
  obtain ⟨d, hd, hid⟩ := h.quicDcid_eq hcid
  have hfits := h.fits
  have hbyte : ∀ k < 3, byteAt frame (d + k) = byteAt cid k := by
    intro k hk
    rw [← byteAt_slice (show k < cid.length by omega), hid]
  rw [udpReading, if_pos ⟨h.port.symm, by omega, h.fixedBit⟩, hd, Option.elim_some, cidToken,
    hbyte 1 (by decide), hbyte 2 (by decide), ← hbyte 0 (by decide), Nat.add_zero]

/-- The key has the server, the token and nothing of the client. -/
theorem QuicPacket.parseFrame_eq (h : QuicPacket frame udp flow cid) (hcid : 4 ≤ cid.length)
    (htoken : cidToken cid ≠ 0) :
    parseFrame frame = some
      { dstIp := flow.dstIp
        dstPort := le16 frame (udp + 2)
        proto := ipprotoUdp
        pktFlags := pktFlagQuic
        quicToken := cidToken cid } := by
  have hproto : flow.proto = ipprotoUdp := by
    obtain ⟨-, -, -, hproto, -⟩ := h.datagram
    exact hproto
  rw [h.datagram.parseFrame_eq, h.udpReading_eq hcid]
  simp only [FlowKey.readAs, if_pos htoken, udpHeaderKey, hproto]

end

/-- **Roaming.**  Two QUIC packets to one port of one server, with one connection id of at least 4 bytes whose
    token is not 0, in long or short headers and from any sources: they have the same key and the same ring
    slot, no state tells them apart, and the second follows the session of the first as long as its
    WAN is live. -/
theorem quic_same_session (frame frame' cid : List UInt8) (udp udp' : Nat) (flow flow' : FlowKey)
    (h : QuicPacket frame udp flow cid) (h' : QuicPacket frame' udp' flow' cid) (hcid : 4 ≤ cid.length)
    (htoken : cidToken cid ≠ 0) (hdst : flow'.dstIp = flow.dstIp)
    (hport : le16 frame' (udp' + 2) = le16 frame (udp + 2)) :
    ∃ key key', parseFrame frame = some key ∧ parseFrame frame' = some key' ∧ key' = key ∧
      slotOf key' = slotOf key ∧
      (∀ (p : Packet) (s : RouterState), Packet.wan { p with frame := frame' } s = Packet.wan { p with frame } s) ∧
      ∀ (p q : Packet) (s : RouterState) (w : UInt32), p.frame = frame → q.frame = frame' →
        q.cpu = p.cpu → isDnsOrNtp key = false → p.wan s = some w → isLive q.tables w.toNat = true →
        q.wan (p.next s) = some w := by
  have hparse := h.parseFrame_eq hcid htoken
  have hparse' := h'.parseFrame_eq hcid htoken
  rw [hdst, hport] at hparse'
  have hping : ∀ t, pingsRouter t
      { dstIp := flow.dstIp, dstPort := le16 frame (udp + 2), proto := ipprotoUdp,
        pktFlags := pktFlagQuic, quicToken := cidToken cid } = false := by
    intro t
    simp [pingsRouter, show ipprotoUdp ≠ ipprotoIcmp by decide]
  refine ⟨_, _, hparse, hparse', rfl, rfl, ?_, ?_⟩
  · intro p s
    rw [Packet.wan_eq ⟨hparse', hping _⟩, Packet.wan_eq ⟨hparse, hping _⟩]
  · intro p q s w hp hq hcpu hdns hw hlive
    have hkey : Storable _ :=
      ⟨by simp [isClosing, show pktFlagQuic &&& (pktFlagRst ||| pktFlagFin) = 0 by decide], hdns⟩
    -- the session is on the CPU that made it
    rw [Packet.wan_eq ⟨hq ▸ hparse', hping _⟩, hcpu,
      (Packet.shows_next ⟨hp ▸ hparse, hping _⟩ hkey hw).select_eq hkey hlive]

/-- A UDP packet from 10.0.0.`host` to 93.184.216.34:443. -/
def quicFrame (host port : UInt8) (payload : List UInt8) : List UInt8 :=
  List.replicate 12 0 ++ [0x08, 0x00] ++ [0x45, 0, 0, 0, 0, 0, 0, 0, 64, 17, 0, 0, 10, 0, 0, host, 93, 184, 216, 34] ++
    [0xC3, port, 0x01, 0xBB, 0, 0, 0, 0] ++ payload

/-- An Initial with a connection id of four bytes. -/
def longPayload : List UInt8 := [0xC0, 0, 0, 0, 1, 4, 0xC1, 2, 3, 4]

/-- The same connection later. -/
def shortPayload : List UInt8 := [0x40, 0xC1, 2, 3, 4, 0xAA]

def quicFlow (srcIp : UInt32) : FlowKey := { srcIp, dstIp := 0x22D8B85D, proto := ipprotoUdp }

theorem quicPacket_long : QuicPacket (quicFrame 5 0x50 longPayload) 34 (quicFlow 0x0500000A) [0xC1, 2, 3, 4] where
  datagram := ⟨14, by decide⟩
  port := by decide
  fixedBit := by decide
  fits := by decide
  connectionId := .inl (by decide)

theorem quicPacket_short :
    QuicPacket (quicFrame 9 0x51 shortPayload) 34 (quicFlow 0x0900000A) [0xC1, 2, 3, 4] where
  datagram := ⟨14, by decide⟩
  port := by decide
  fixedBit := by decide
  fits := by decide
  connectionId := .inr (by decide)

theorem quic_same_session_moved :
    ∃ key key', parseFrame (quicFrame 5 0x50 longPayload) = some key ∧
      parseFrame (quicFrame 9 0x51 shortPayload) = some key' ∧ key' = key ∧ slotOf key' = slotOf key ∧
      (∀ (p : Packet) (s : RouterState), Packet.wan { p with frame := quicFrame 9 0x51 shortPayload } s =
          Packet.wan { p with frame := quicFrame 5 0x50 longPayload } s) ∧
      ∀ (p q : Packet) (s : RouterState) (w : UInt32), p.frame = quicFrame 5 0x50 longPayload →
        q.frame = quicFrame 9 0x51 shortPayload → q.cpu = p.cpu → isDnsOrNtp key = false →
        p.wan s = some w → isLive q.tables w.toNat = true → q.wan (p.next s) = some w :=
  quic_same_session _ _ [0xC1, 2, 3, 4] 34 34 _ _ quicPacket_long quicPacket_short (by decide) (by decide) rfl
    (by decide)

end FluxWAN.Xdp
