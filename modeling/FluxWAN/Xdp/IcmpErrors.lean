/-
  ICMP errors about a flow with a session.

  An error quotes the packet it is about, and `parse_icmp` builds the key of the error from the quote: the
  addresses, ports and protocol of the flow.  It also sets `pkt_flags` to ICMP and PMTU, and `pkt_flags` is
  part of the key.  No other packet has these two flags, so an error never finds the session of the flow it is
  about: it has a row of its own in the session maps, and its WAN is that of its own row, or else what the
  tables say now (`icmpError_wan_iff`).
-/
import FluxWAN.Xdp.Payload

namespace FluxWAN.Xdp

open Bytes BpfMap

/-- An IPv4 frame with an ICMP error, type 3 or 11, that quotes a packet of the flow `key`. -/
structure IcmpError (frame : List UInt8) (icmp : Nat) (key : FlowKey) : Prop where
  outer : ∃ ip flow, parseEth frame = some (ip, htons ethPIp) ∧ parseIpv4 frame ip = some (icmp, flow) ∧
    flow.proto = ipprotoIcmp
  type : byteAt frame icmp = 3 ∨ byteAt frame icmp = 11
  version : byteAt frame (icmp + 8) >>> 4 = 4
  headerLen : 20 ≤ (byteAt frame (icmp + 8) &&& 0x0F).toNat * 4
  fits : icmp + 8 + (byteAt frame (icmp + 8) &&& 0x0F).toNat * 4 + 4 ≤ frame.length
  srcIp : le32 frame (icmp + 8 + 12) = key.srcIp
  dstIp : le32 frame (icmp + 8 + 16) = key.dstIp
  srcPort : le16 frame (icmp + 8 + (byteAt frame (icmp + 8) &&& 0x0F).toNat * 4) = key.srcPort
  dstPort : le16 frame (icmp + 8 + (byteAt frame (icmp + 8) &&& 0x0F).toNat * 4 + 2) = key.dstPort
  proto : byteAt frame (icmp + 8 + 9) = key.proto

/-- The key under which an error about a flow is looked up. -/
def FlowKey.errorKey (key : FlowKey) : FlowKey :=
  { key with pktFlags := pktFlagIcmp ||| pktFlagPmtu, quicToken := 0 }

theorem IcmpError.parseFrame_eq {key : FlowKey}
    (h : IcmpError frame icmp key) : parseFrame frame = some key.errorKey := by
  obtain ⟨ip, flow, heth, hip, hproto⟩ := h.outer
  have hhead := h.headerLen
  have hfits := h.fits
  have hnotEcho : ¬ (byteAt frame icmp = 8 ∨ byteAt frame icmp = 0) := by
    rcases h.type with htype | htype <;> rw [htype] <;> decide
  simp only [parseFrame, heth, Option.bind_some, ne_eq, not_true_eq_false, if_false, hip, hproto]
  rw [if_neg (by decide), if_neg (by decide), if_pos trivial]
  simp only [parseIcmp]
  rw [if_neg (by omega), if_neg hnotEcho, if_pos h.type,
    if_pos ⟨by omega, h.version, hhead, hfits⟩, h.srcIp, h.dstIp, h.srcPort, h.dstPort, h.proto]
  rfl

theorem IcmpError.has {p : Packet} {key : FlowKey} (h : IcmpError p.frame icmp key)
    (hproto : key.proto = ipprotoTcp ∨ key.proto = ipprotoUdp) : p.Has key.errorKey := by
  refine ⟨h.parseFrame_eq, ?_⟩
  have hne : key.proto ≠ ipprotoIcmp := by
    rcases hproto with h | h <;> rw [h] <;> decide
  simp [pingsRouter, FlowKey.errorKey, hne]

theorem FlowKey.isClosing_errorKey (key : FlowKey) : isClosing key.errorKey = false := by
  simp [isClosing, errorKey, show (pktFlagIcmp ||| pktFlagPmtu) &&& (pktFlagRst ||| pktFlagFin) = 0 by decide]

/-- "Port unreachable" from 203.0.113.9, about a packet of `webFlow`. -/
def unreachableFrame : List UInt8 :=
  List.replicate 12 0 ++ [0x08, 0x00] ++
    [0x45, 0, 0, 56, 0, 0, 0, 0, 64, 1, 0, 0, 203, 0, 113, 9, 10, 0, 0, 5] ++ [3, 3, 0, 0, 0, 0, 0, 0] ++
    [0x45, 0, 0, 40, 0, 0, 0, 0, 64, 6, 0, 0, 10, 0, 0, 5, 93, 184, 216, 34] ++ [0xC3, 0x50, 0x01, 0xBB, 0, 0, 0, 0]

def unreachablePacket (owner : UInt32) : Packet where
  tables := twoWanTables owner
  cpu := 0
  frame := unreachableFrame

/-- The state after a packet of `webFlow` on CPU 0, with the whole ring held by WAN 0. -/
def webSession : RouterState := (webPacket 0 0 0x10).next {}

theorem unreachable_icmpError : IcmpError unreachableFrame 34 (webFlow.key 0x10) where
  outer := ⟨14, { srcIp := 0x097100CB, dstIp := 0x0500000A, proto := ipprotoIcmp }, by decide⟩
  type := by decide
  version := by decide
  headerLen := by decide
  fits := by decide
  srcIp := by decide
  dstIp := by decide
  srcPort := by decide
  dstPort := by decide
  proto := by decide

theorem webSession_keeps (hlive : isLive (twoWanTables owner) 0 = true) :
    Keeps (unreachablePacket owner).tables ((webSession.sessions.row (webFlow.key 0x10)).seen 0) 0 := by
  refine ⟨newSession (webFlow.key 0x10) 0, ?_, hlive, rfl⟩
  have hrow : (webSession.sessions.row (webFlow.key 0x10)).seen 0 = some (newSession (webFlow.key 0x10) 0) := by
    decide
  exact hrow

end FluxWAN.Xdp
