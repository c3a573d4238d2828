/-
  DHCP messages (`src/dhcp_server.c`: `struct dhcp_packet`, `get_dhcp_option`, `append_option`).

  A message is the packed C record; `sname` and `file` are neither read nor written and left out.  The
  request is received into an uninitialised record, so its 308 option bytes are what the client sent followed
  by whatever the stack held: for the model they are simply 308 bytes.
-/
import FluxWAN.Config
import FluxWAN.Lib.Bytes

namespace FluxWAN.Dhcp

open CString Bytes

/-! ## Message types, option codes -/

abbrev bootRequest : UInt8 := 1
abbrev bootReply : UInt8 := 2

abbrev discover : UInt8 := 1
abbrev offer : UInt8 := 2
abbrev request : UInt8 := 3
abbrev ack : UInt8 := 5
abbrev release : UInt8 := 7

abbrev optPad : UInt8 := 0
abbrev optSubnetMask : UInt8 := 1
abbrev optRouter : UInt8 := 3
abbrev optDns : UInt8 := 6
abbrev optHostname : UInt8 := 12
abbrev optReqIp : UInt8 := 50
abbrev optLeaseTime : UInt8 := 51
abbrev optMsgType : UInt8 := 53
abbrev optServerId : UInt8 := 54
abbrev optEnd : UInt8 := 255

/-- `sizeof (options)`. -/
abbrev optionsSize : Nat := 308

/-- `DHCP_MAGIC_COOKIE`, in host order. -/
abbrev magicCookie : UInt32 := 0x63825363

/-- `struct dhcp_packet`; words as the host loads them. -/
structure Packet where
  op : UInt8 := 0
  htype : UInt8 := 0
  hlen : UInt8 := 0
  hops : UInt8 := 0
  xid : UInt32 := 0
  secs : UInt16 := 0
  flags : UInt16 := 0
  ciaddr : UInt32 := 0
  yiaddr : UInt32 := 0
  siaddr : UInt32 := 0
  giaddr : UInt32 := 0
  chaddr : Vector UInt8 16 := Vector.replicate 16 0
  magic : UInt32 := 0
  options : Vector UInt8 optionsSize := Vector.replicate optionsSize 0
  deriving DecidableEq, Repr

/-- The first six bytes of `chaddr`, which the server takes for the client's MAC. -/
def Packet.mac (p : Packet) : Mac := p.chaddr.take 6

/-! ## Options -/

/-- The scan of `get_dhcp_option`, with a bound on the steps: the data of the first option with this code,
    as the text from the data on and the length byte. -/
def scanOptions (optType : UInt8) : Nat → List UInt8 → Option (List UInt8 × UInt8)
  | 0, _ => none
  | _ + 1, [] => none
  | fuel + 1, type :: rest =>
    if type = optPad then scanOptions optType fuel rest
    else if type = optEnd then none
    else
      match rest with
      | [] => none
      | len :: data =>
        if data.length < len.toNat then none
        else if type = optType then some (data, len)
        else scanOptions optType fuel (data.drop len.toNat)

/-- `get_dhcp_option`; every step consumes a byte. -/
def getDhcpOption (opts : List UInt8) (optType : UInt8) : Option (List UInt8 × UInt8) :=
  scanOptions optType opts.length opts

/-- `append_option`: no change if the buffer is too small. -/
def appendOption (maxLen : Nat) (opts : List UInt8) (type : UInt8) (data : List UInt8) : List UInt8 :=
  if opts.length + 2 + data.length ≥ maxLen then opts
  else opts ++ type :: UInt8.ofNat data.length :: data

/-- The option area of a reply: the options written, the end mark, zeros. -/
def optionArea (written : List UInt8) : Vector UInt8 optionsSize :=
  ⟨((written ++ optEnd :: List.replicate optionsSize 0).take optionsSize).toArray, by
    rw [List.size_toArray, List.length_take, List.length_append, List.length_cons, List.length_replicate]
    omega⟩

/-- `msg_type`: the byte at the data of option 53, whatever its length says; `beyond` stands behind the
    record. -/
def Packet.msgType (p : Packet) (beyond : UInt8) : Option UInt8 :=
  (getDhcpOption p.options.toList optMsgType).map fun o => o.1.headD beyond

/-- `hostname`: option 12, cut to 63 bytes and at the first NUL. -/
def Packet.hostname (p : Packet) : CStr :=
  match getDhcpOption p.options.toList optHostname with
  | some (data, len) => cstr ((data.take (min len.toNat 63)).map fun b => Char.ofNat b.toNat)
  | none => []

/-- The address a request names: option 50 if it has four bytes, else a non-zero `ciaddr`. -/
def Packet.requestedIp (p : Packet) : Option UInt32 :=
  match getDhcpOption p.options.toList optReqIp with
  | some (data, 4) => some (le32 data 0)
  | _ => if p.ciaddr ≠ 0 then some p.ciaddr else none

end FluxWAN.Dhcp
