/-
  Packet parsing in the XDP program (`bpf/xdp_router.bpf.c`: `parse_eth` … `parse_icmp`,
  `hash_5tuple`).

  A frame is the list of its bytes between `data` and `data_end`; a cursor is an offset.  The parsers
  fill one `flow_5tuple`, and this record is both what is hashed and the key of the session maps.  Note
  what goes into it besides the 5-tuple: the SYN, RST and FIN bits of THIS packet (`pkt_flags`), and for
  QUIC a token in place of the client's address and port.
-/
import FluxWAN.Config
import FluxWAN.Lib.Bytes

namespace FluxWAN.Xdp

open Bytes

/-! ## Flow keys -/

/-- `struct flow_5tuple`; addresses and ports in network byte order. -/
structure FlowKey where
  srcIp : UInt32 := 0
  dstIp : UInt32 := 0
  srcPort : UInt16 := 0
  dstPort : UInt16 := 0
  proto : UInt8 := 0
  pktFlags : UInt8 := 0
  quicToken : UInt16 := 0
  deriving DecidableEq, Repr

def pktFlagSyn : UInt8 := 1
def pktFlagRst : UInt8 := 2
def pktFlagFin : UInt8 := 4
def pktFlagIcmp : UInt8 := 8
def pktFlagQuic : UInt8 := 16
def pktFlagPmtu : UInt8 := 32

def ipprotoIcmp : UInt8 := 1
def ipprotoTcp : UInt8 := 6
def ipprotoUdp : UInt8 := 17

def ethPIp : UInt16 := 0x0800
def ethP8021Q : UInt16 := 0x8100
def ethP8021AD : UInt16 := 0x88A8

/-! ## Parsers

  Each takes the offset of its header and fails when the header does not fit. -/

/-- One turn of the VLAN loop: `none` is a truncated tag. -/
def skipVlan (frame : List UInt8) (cur : Nat) (proto : UInt16) : Option (Nat × UInt16) :=
  if proto = htons ethP8021Q ∨ proto = htons ethP8021AD then
    if cur + 4 > frame.length then none else some (cur + 4, le16 frame (cur + 2))
  else some (cur, proto)

/-- `parse_eth`: the offset behind Ethernet and up to two VLAN tags, and the protocol there. -/
def parseEth (frame : List UInt8) : Option (Nat × UInt16) :=
  if 14 > frame.length then none
  else
    (skipVlan frame 14 (le16 frame 12)).bind fun (cur, proto) => skipVlan frame cur proto

/-- `parse_ipv4`. -/
def parseIpv4 (frame : List UInt8) (cur : Nat) : Option (Nat × FlowKey) :=
  let vihl := byteAt frame cur
  let iphLen := (vihl &&& 0x0F).toNat * 4
  if cur + 20 > frame.length then none
  else if vihl >>> 4 ≠ 4 ∨ vihl &&& 0x0F < 5 then none
  else if cur + iphLen > frame.length then none
  else
    some (cur + iphLen,
      { srcIp := le32 frame (cur + 12), dstIp := le32 frame (cur + 16),
        proto := byteAt frame (cur + 9) })

/-- The session-lifecycle flags of a TCP header's flag byte. -/
def tcpFlags (b : UInt8) : UInt8 :=
  (if b &&& 0x02 ≠ 0 then pktFlagSyn else 0) ||| (if b &&& 0x04 ≠ 0 then pktFlagRst else 0) |||
    (if b &&& 0x01 ≠ 0 then pktFlagFin else 0)

/-- `parse_tcp`. -/
def parseTcp (frame : List UInt8) (cur : Nat) (flow : FlowKey) : Option FlowKey :=
  if cur + 20 > frame.length then none
  else
    some { flow with
      srcPort := le16 frame cur
      dstPort := le16 frame (cur + 2)
      pktFlags := tcpFlags (byteAt frame (cur + 13)) }

/-- Where the connection id of a QUIC packet starts, if enough of it is there. -/
def quicDcid (frame : List UInt8) (quic : Nat) : Option Nat :=
  if byteAt frame quic &&& 0x80 ≠ 0 then
    -- long header: flags, version (4), length, id
    if quic + 6 ≤ frame.length then
      if byteAt frame (quic + 5) ≥ 4 ∧ quic + 6 + 4 ≤ frame.length then some (quic + 6) else none
    else none
  else if quic + 5 ≤ frame.length then some (quic + 1)
  else none

/-- The 16-bit token of a connection id, by the version in its first two bits. -/
def quicToken (d0 d1 d2 : UInt8) : UInt16 :=
  if d0 >>> 6 = 0 then
    (d0 &&& 0x3F).toUInt16 <<< 10 ||| d1.toUInt16 <<< 2 ||| (d2 >>> 6).toUInt16
  else if d0 >>> 6 = 1 then d1.toUInt16 <<< 8 ||| d2.toUInt16
  else d0.toUInt16 <<< 8 ||| (d1 ^^^ d2).toUInt16

/-- `parse_udp`: on port 443 a packet with the fixed bit is QUIC, and a non-zero token replaces the
    client's address and port. -/
def parseUdp (frame : List UInt8) (cur : Nat) (flow : FlowKey) : Option FlowKey :=
  if cur + 8 > frame.length then none
  else
    let source := le16 frame cur
    let dest := le16 frame (cur + 2)
    let quic := cur + 8
    let flow := { flow with srcPort := source, dstPort := dest, pktFlags := 0, quicToken := 0 }
    if (dest = 0xBB01 ∨ source = 0xBB01) ∧ quic + 1 ≤ frame.length ∧
        byteAt frame quic &&& 0x40 ≠ 0 then
      let token := (quicDcid frame quic).elim 0 fun d =>
        quicToken (byteAt frame d) (byteAt frame (d + 1)) (byteAt frame (d + 2))
      if token ≠ 0 then
        some { flow with pktFlags := pktFlagQuic, quicToken := token, srcIp := 0, srcPort := 0 }
      else some { flow with pktFlags := pktFlagQuic }
    else some flow

/-- `parse_icmp`: an echo is keyed by id and sequence number, an error by the flow it quotes. -/
def parseIcmp (frame : List UInt8) (cur : Nat) (flow : FlowKey) : Option FlowKey :=
  if cur + 8 > frame.length then none
  else
    let type := byteAt frame cur
    let flow := { flow with quicToken := 0 }
    if type = 8 ∨ type = 0 then
      some { flow with
        srcPort := le16 frame (cur + 4)
        dstPort := le16 frame (cur + 6)
        pktFlags := pktFlagIcmp }
    else if type = 3 ∨ type = 11 then
      let inner := cur + 8
      let innerIhl := (byteAt frame inner &&& 0x0F).toNat * 4
      let flow := { flow with pktFlags := pktFlagIcmp ||| pktFlagPmtu }
      if inner + 20 ≤ frame.length ∧ byteAt frame inner >>> 4 = 4 ∧ innerIhl ≥ 20 ∧
          inner + innerIhl + 4 ≤ frame.length then
        some { flow with
          srcIp := le32 frame (inner + 12)
          dstIp := le32 frame (inner + 16)
          srcPort := le16 frame (inner + innerIhl)
          dstPort := le16 frame (inner + innerIhl + 2)
          proto := byteAt frame (inner + 9) }
      else some { flow with srcPort := 0, dstPort := 0 }
    else some { flow with srcPort := 0, dstPort := 0, pktFlags := pktFlagIcmp }

/-- Steps 1 to 3 of `xdp_router_func`; `none` is every early `XDP_PASS`. -/
def parseFrame (frame : List UInt8) : Option FlowKey :=
  (parseEth frame).bind fun (cur, ethProto) =>
    if ethProto ≠ htons ethPIp then none
    else
      (parseIpv4 frame cur).bind fun (cur, key) =>
        if key.proto = ipprotoTcp then parseTcp frame cur key
        else if key.proto = ipprotoUdp then parseUdp frame cur key
        else if key.proto = ipprotoIcmp then parseIcmp frame cur key
        else none

/-! ## Hash -/

/-- The ports whose flows are hashed without the source port. -/
def controlPorts : List UInt16 := [5060, 554, 21, 500, 4500, 51820]

def isControlPort (p : UInt16) : Bool := controlPorts.any fun c => p = htons c

/-- `hash_5tuple`. -/
def hash5tuple (key : FlowKey) : UInt32 :=
  let h : UInt32 :=
    if key.pktFlags &&& pktFlagQuic ≠ 0 then
      key.dstIp ^^^ (key.quicToken.toUInt32 <<< 16) ^^^ key.dstPort.toUInt32
    else
      let srcP := if isControlPort key.dstPort || isControlPort key.srcPort then 0 else key.srcPort
      key.srcIp ^^^ key.dstIp ^^^ (srcP.toUInt32 <<< 16 ||| key.dstPort.toUInt32) ^^^
        key.proto.toUInt32
  let h := (h ^^^ (h >>> 16)) * 0x45d9f3b
  let h := (h ^^^ (h >>> 16)) * 0x45d9f3b
  h ^^^ (h >>> 16)

end FluxWAN.Xdp
