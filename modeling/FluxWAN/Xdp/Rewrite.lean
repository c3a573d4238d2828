/-
  Frame rewriting in the XDP program (`bpf/xdp_router.bpf.c`: checksum helpers, `apply_snat`,
  `send_icmp_echo_reply`, `send_icmp_too_big`).

  Every rewriter takes the frame and returns the action with the frame as it then is; the fields are
  stored in the order of the source, so a checksum is taken over what has been written so far.
-/
import FluxWAN.Xdp.Packet

namespace FluxWAN.Xdp

open Bytes

/-- The XDP verdicts the program returns. -/
inductive XdpAction where
  | pass
  | tx
  deriving DecidableEq, Repr

/-! ## Checksums -/

/-- `x & 0xffff`. -/
def low16 (x : UInt32) : UInt32 := x &&& (0xffff : UInt32)

/-- The two folding steps at the end of both replacement helpers. -/
def csumFinish (c : UInt32) : UInt16 :=
  let c := low16 c + (c >>> 16)
  let c := low16 c + (c >>> 16)
  (~~~c).toUInt16

/-- `csum_replace2`. -/
def csumReplace2 (csum old new : UInt16) : UInt16 :=
  csumFinish (low16 (~~~csum.toUInt32) + low16 (~~~old.toUInt32) + new.toUInt32)

/-- `csum_replace4`. -/
def csumReplace4 (csum : UInt16) (old new : UInt32) : UInt16 :=
  csumFinish (low16 (~~~csum.toUInt32) + low16 (~~~(old >>> 16)) + low16 (~~~(low16 old)) + (new >>> 16) + low16 new)

/-- One conditional fold of `csum_fold_helper`. -/
def csumFold (c : UInt64) : UInt64 :=
  if c >>> 16 ≠ 0 then (c &&& (0xffff : UInt64)) + (c >>> 16) else c

/-- `csum_fold_helper`: four folds, then the complement. -/
def csumFoldHelper (csum : UInt64) : UInt16 :=
  (~~~(csumFold (csumFold (csumFold (csumFold csum))))).toUInt16

/-- The sum of `n` 16-bit words from offset `i` on. -/
def wordSum (frame : List UInt8) (i n : Nat) : UInt64 :=
  (List.range n).foldl (fun acc k => acc + (le16 frame (i + 2 * k)).toUInt64) 0

/-- `update_ip_checksum`: over the 20 bytes of a header without options. -/
def updateIpChecksum (frame : List UInt8) (ip : Nat) : List UInt8 :=
  let frame := store frame (ip + 10) (bytes16 0)
  store frame (ip + 10) (bytes16 (csumFoldHelper (wordSum frame ip 10)))

/-! ## Rewriters -/

/-- `apply_snat`: the header is taken right behind Ethernet, VLAN tags or not. -/
def applySnat (frame : List UInt8) (newSrcIp : UInt32) : List UInt8 :=
  let vihl := byteAt frame 14
  if 14 + 20 > frame.length then frame
  else if vihl >>> 4 ≠ 4 ∨ vihl &&& 0x0F < 5 then frame
  else
    let oldSrcIp := le32 frame (14 + 12)
    let check := le16 frame (14 + 10)
    let frame := store frame (14 + 12) (bytes32 newSrcIp)
    store frame (14 + 10) (bytes16 (csumReplace4 check oldSrcIp newSrcIp))

/-- `send_icmp_echo_reply`: the headers are found again as the parsers found them. -/
def sendIcmpEchoReply (frame : List UInt8) : XdpAction × List UInt8 :=
  match parseEth frame with
  | none => (.pass, frame)
  | some (ip, ethProto) =>
    let vihl := byteAt frame ip
    let icmp := ip + (vihl &&& 0x0F).toNat * 4
    if ethProto ≠ htons ethPIp then (.pass, frame)
    else if ip + 20 > frame.length then (.pass, frame)
    else if vihl >>> 4 ≠ 4 ∨ vihl &&& 0x0F < 5 then (.pass, frame)
    else if icmp > frame.length then (.pass, frame)
    else if icmp + 8 > frame.length then (.pass, frame)
    else if byteAt frame icmp ≠ 8 then (.pass, frame)
    else
      let hDest := frame.take 6
      let hSource := (frame.drop 6).take 6
      let frame := store (store frame 6 hDest) 0 hSource
      let saddr := (frame.drop (ip + 12)).take 4
      let daddr := (frame.drop (ip + 16)).take 4
      let frame := store (store frame (ip + 12) daddr) (ip + 16) saddr
      let frame := updateIpChecksum (store frame (ip + 8) [64]) ip
      let frame := store frame icmp [0]
      let check := le16 frame (icmp + 2)
      (.tx, store frame (icmp + 2) (bytes16 (csumReplace2 check (htons 0x0800) 0)))

/-- `bpf_xdp_adjust_tail`: shrinking keeps at least an Ethernet header, growing is limited by the room
    behind the frame and appends zeros. -/
def adjustTail (tailroom : Nat) (frame : List UInt8) (delta : Int) : Option (List UInt8) :=
  if delta ≤ 0 then
    if (frame.length : Int) + delta < 14 then none
    else some (frame.take ((frame.length : Int) + delta).toNat)
  else if delta.toNat ≤ tailroom then some (frame ++ List.replicate delta.toNat 0)
  else none

/-- `send_icmp_too_big`. -/
def sendIcmpTooBig (tailroom : Nat) (frame : List UInt8) (targetMtu : UInt32) :
    XdpAction × List UInt8 :=
  if 14 + 20 > frame.length then (.pass, frame)
  else if 14 + 28 > frame.length then (.pass, frame)
  else
    let origPayload := (frame.drop 14).take 28
    let clientMac := (frame.drop 6).take 6
    let routerMac := frame.take 6
    let clientIp := (frame.drop (14 + 12)).take 4
    let routerIp := (frame.drop (14 + 16)).take 4
    match adjustTail tailroom frame (70 - (frame.length : Int)) with
    | none => (.pass, frame)
    | some frame =>
      if 14 + 20 + 8 + 28 > frame.length then (.pass, frame)
      else
        let frame := store frame 0 (clientMac ++ routerMac ++ bytes16 (htons ethPIp))
        -- version 4, header length 5; type of service; total length; id; fragment; TTL; protocol
        let frame := store frame 14
          ([0x45, 0] ++ bytes16 (htons 56) ++ bytes16 0 ++ bytes16 0 ++ [64, ipprotoIcmp])
        let frame := store (store frame (14 + 12) routerIp) (14 + 16) clientIp
        let frame := updateIpChecksum frame 14
        let frame := store frame 34
          ([3, 4] ++ bytes16 0 ++ bytes16 0 ++ bytes16 (htons targetMtu.toUInt16))
        let frame := store frame 42 origPayload
        (.tx, store frame 36 (bytes16 (csumFoldHelper (wordSum frame 34 18))))

end FluxWAN.Xdp
