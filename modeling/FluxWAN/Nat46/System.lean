/-
  NAT46 (`bpf/xdp_nat46.bpf.c`, and the part of `src/dns64_daemon.c` that feeds it).

  An A query is answered with the next address of a synthetic pool, and the address is registered in two BPF
  maps: synthetic address ↦ IPv6 server, and IPv6 server ↦ synthetic address and client.  A packet to a
  synthetic address is turned into an IPv6 packet to the server; it overwrites the server's reverse entry with
  its own two addresses.  A packet FROM a server is turned back with what that entry holds.

  1. **Maps** — `Maps`, `dns64RegisterMapping`.
  2. **Packets** — `xdpNat46Handler` on the bytes of a frame.
  3. **System** — `World`: the resolver, the maps, and the log of what was issued, translated and written.
-/
import FluxWAN.ByteOrder
import FluxWAN.Dns.Worker
import FluxWAN.Lib.BpfHash
import FluxWAN.Xdp.Rewrite

namespace FluxWAN.Nat46

open Bytes BpfMap

/-! ## Maps -/

/-- `struct in6_addr`, as it lies in memory. -/
abbrev In6Addr := List UInt8

/-- `struct nat46_reverse_val`; `last_seen_sec` is always 0. -/
structure ReverseVal where
  syntheticV4 : UInt32
  clientV4 : UInt32
  deriving DecidableEq, Repr

/-- `max_entries` of both maps. -/
def mapEntries : Nat := 65536

/-- The two maps.  Of a `nat46_forward_val` only `target_v6` is ever set or read. -/
structure Maps where
  /-- `v4_to_v6_map`, by the address in network byte order. -/
  forward : Hash UInt32 In6Addr := []
  /-- `v6_to_v4_map`. -/
  reverse : Hash In6Addr ReverseVal := []

/-- `dns64_register_mapping`; a map whose descriptor is negative is left alone. -/
def dns64RegisterMapping (v4MapOpen v6MapOpen : Bool) (maps : Maps) (fakeV4 : UInt32) (realV6 : In6Addr) : Maps :=
  { forward := if v4MapOpen = true then maps.forward.update mapEntries fakeV4 realV6 else maps.forward
    reverse :=
      if v6MapOpen = true then
        maps.reverse.update mapEntries realV6 { syntheticV4 := fakeV4, clientV4 := 0 }
      else maps.reverse }

/-- `2001:4860:4860::8888`, the target of every registration. -/
def dnsTarget : In6Addr := [0x20, 0x01, 0x48, 0x60, 0x48, 0x60, 0, 0, 0, 0, 0, 0, 0, 0, 0x88, 0x88]

/-! ## Packets -/

def ethPIpv6 : UInt16 := 0x86DD

/-- `SYNTH_IPV4_NET`, 198.18.0.0. -/
def synthIpv4Net : UInt32 := 0xC6120000

/-- `SYNTH_IPV4_MASK`. -/
def synthIpv4Mask : UInt32 := 0xFFFE0000

/-- `struct nat46_config`, without its counters. -/
structure Nat46Config where
  routerV6Src : In6Addr
  starlinkIfindex : UInt32
  lanIfindex : UInt32
  starlinkGwMac : List UInt8
  lanGwMac : List UInt8
  enabled : UInt32
  length_routerV6Src : routerV6Src.length = 16
  length_starlinkGwMac : starlinkGwMac.length = 6
  length_lanGwMac : lanGwMac.length = 6

inductive NatAction where
  | pass
  | drop
  | redirect (ifindex : UInt32)
  deriving DecidableEq, Repr

/-- A packet that was sent on to a server: whose it was, and what it was addressed to. -/
structure Translated where
  client : UInt32
  synthetic : UInt32
  target : In6Addr
  deriving DecidableEq, Repr

/-- The verdict, the frame as it then is, the maps, and the packet that was translated for a client. -/
structure NatResult where
  action : NatAction
  frame : List UInt8
  maps : Maps
  sent : Option Translated := none

/-- `bpf_xdp_adjust_head`: a negative delta uncovers what lies before the frame, a positive one must leave an
    Ethernet header. -/
def growHead (headroom frame : List UInt8) (n : Nat) : Option (List UInt8) :=
  if n ≤ headroom.length then some (headroom.drop (headroom.length - n) ++ frame) else none

def shrinkHead (frame : List UInt8) (n : Nat) : Option (List UInt8) :=
  if n + 14 ≤ frame.length then some (frame.drop n) else none

/-- `calc_ip_csum`: ten words sum to less than 2²⁰, so the loop ends after two rounds. -/
def calcIpCsum (hdr : List UInt8) : UInt16 := (~~~(Xdp.csumFold (Xdp.csumFold (Xdp.wordSum hdr 0 10)))).toUInt16

/-- "Populate IPv6 Header", "Rewrite Ethernet Header".  The source address of the Ethernet header is left as
    the headroom had it. -/
def toIpv6 (cfg : Nat46Config) (frame : List UInt8) (payloadLen : UInt16) (proto : UInt8) (target : In6Addr) :
    List UInt8 :=
  let frame := store frame 14
    ([0x60, 0, 0, 0] ++ bytes16 (htons payloadLen) ++ [proto, 64] ++ cfg.routerV6Src ++ target)
  store (store frame 12 (bytes16 (htons ethPIpv6))) 0 cfg.starlinkGwMac

/-- "Populate IPv4 Header", up to `iph->check = 0`: DF set, TTL 64. -/
def blankIpv4Header (payloadLen : UInt16) (proto : UInt8) (rev : ReverseVal) : List UInt8 :=
  [0x45, 0] ++ bytes16 (htons (payloadLen + 20)) ++ [0, 0] ++ bytes16 (htons 0x4000) ++ [64, proto, 0, 0] ++
    bytes32 rev.syntheticV4 ++ bytes32 rev.clientV4

/-- The header with its checksum. -/
def ipv4Header (payloadLen : UInt16) (proto : UInt8) (rev : ReverseVal) : List UInt8 :=
  let hdr := blankIpv4Header payloadLen proto rev
  store hdr 10 (bytes16 (calcIpCsum hdr))

/-- "Populate IPv4 Header", "Rewrite Ethernet Header to LAN client". -/
def toIpv4 (cfg : Nat46Config) (frame : List UInt8) (payloadLen : UInt16) (proto : UInt8) (rev : ReverseVal) :
    List UInt8 :=
  let frame := store frame 14 (ipv4Header payloadLen proto rev)
  store (store frame 12 (bytes16 (htons Xdp.ethPIp))) 0 cfg.lanGwMac

/-- "PATH 1: EGRESS". -/
def egress (cfg : Nat46Config) (headroom frame : List UInt8) (maps : Maps) : NatResult :=
  if 14 + 20 > frame.length then { action := .pass, frame, maps }
  else if htonl (le32 frame 30) &&& synthIpv4Mask = synthIpv4Net then
    match maps.forward.lookup (le32 frame 30) with
    | none => { action := .pass, frame, maps }
    | some target =>
      let clientIp := le32 frame 26
      let synthIp := le32 frame 30
      let totLen := be16 frame 16
      let ihlBytes := (byteAt frame 14 &&& 0x0F).toUInt16 * 4
      if totLen < ihlBytes then { action := .pass, frame, maps }
      else
        match growHead headroom frame 20 with
        | none => { action := .drop, frame, maps }
        | some grown =>
          if 14 + 40 > grown.length then { action := .drop, frame := grown, maps }
          else
            { action := .redirect cfg.starlinkIfindex
              frame := toIpv6 cfg grown (totLen - ihlBytes) (byteAt frame 23) target
              maps := { maps with
                reverse := maps.reverse.update mapEntries target { syntheticV4 := synthIp, clientV4 := clientIp } }
              sent := some { client := clientIp, synthetic := synthIp, target } }
  else { action := .pass, frame, maps }

/-- `ip6h->saddr`. -/
def sourceV6 (frame : List UInt8) : In6Addr := (frame.drop 22).take 16

/-- "PATH 2: INGRESS". -/
def ingress (cfg : Nat46Config) (frame : List UInt8) (maps : Maps) : NatResult :=
  if 14 + 40 > frame.length then { action := .pass, frame, maps }
  else
    match maps.reverse.lookup (sourceV6 frame) with
    | none => { action := .pass, frame, maps }
    | some rev =>
      match shrinkHead frame 20 with
      | none => { action := .drop, frame, maps }
      | some shrunk =>
        if 14 + 20 > shrunk.length then { action := .drop, frame := shrunk, maps }
        else
          { action := .redirect cfg.lanIfindex
            frame := toIpv4 cfg shrunk (be16 frame 18) (byteAt frame 20) rev
            maps }

/-- `xdp_nat46_handler`. -/
def xdpNat46Handler (cfg : Nat46Config) (headroom frame : List UInt8) (maps : Maps) : NatResult :=
  if 14 > frame.length then { action := .pass, frame, maps }
  else if cfg.enabled = 0 then { action := .pass, frame, maps }
  else if le16 frame 12 = htons Xdp.ethPIp then egress cfg headroom frame maps
  else if le16 frame 12 = htons ethPIpv6 then ingress cfg frame maps
  else { action := .pass, frame, maps }

/-- What a frame does to the maps: nothing, or it is a packet for a registered address and writes the entry of
    its server. -/
theorem handler_cases (cfg : Nat46Config) (maps : Maps) :
    ((xdpNat46Handler cfg headroom frame maps).sent = none ∧ (xdpNat46Handler cfg headroom frame maps).maps = maps) ∨
      ∃ p, (xdpNat46Handler cfg headroom frame maps).sent = some p ∧
        maps.forward.lookup p.synthetic = some p.target ∧
        (xdpNat46Handler cfg headroom frame maps).maps = { maps with
          reverse := maps.reverse.update mapEntries p.target { syntheticV4 := p.synthetic, clientV4 := p.client } } := by
  unfold xdpNat46Handler
  split_ifs
  · exact .inl ⟨rfl, rfl⟩
  · exact .inl ⟨rfl, rfl⟩
  · unfold egress
    split_ifs
    · exact .inl ⟨rfl, rfl⟩
    · split
      · exact .inl ⟨rfl, rfl⟩
      case h_2 target htarget =>
        dsimp only
        split_ifs
        · exact .inl ⟨rfl, rfl⟩
        · split
          · exact .inl ⟨rfl, rfl⟩
          · split_ifs
            · exact .inl ⟨rfl, rfl⟩
            · exact .inr ⟨_, rfl, htarget, rfl⟩
    · exact .inl ⟨rfl, rfl⟩
  · unfold ingress
    split_ifs
    · exact .inl ⟨rfl, rfl⟩
    · split
      · exact .inl ⟨rfl, rfl⟩
      · split
        · exact .inl ⟨rfl, rfl⟩
        · split_ifs <;> exact .inl ⟨rfl, rfl⟩
  · exact .inl ⟨rfl, rfl⟩

/-! ## The system -/

/-- The resolver and the maps, and what has happened. -/
structure World where
  worker : Dns.Worker := {}
  /-- `ctx->v4_map_fd >= 0`. -/
  v4MapOpen : Bool := true
  v6MapOpen : Bool := true
  maps : Maps := {}
  /-- Synthetic addresses returned to clients, with the time. -/
  issued : List (UInt32 × Nat) := []
  translated : List Translated := []
  /-- Writes to the reverse map. -/
  writes : List (In6Addr × ReverseVal) := []

/-- A datagram for the resolver, or a frame for the program. -/
inductive Event where
  | ask (cfg : Dns.Settings) (client : Dns.Client) (query : Dns.Message) (now : Nat)
  | response (response : Dns.Message) (now : Nat)
  /-- If the frame is a reply, then to which of the translated packets. -/
  | packet (cfg : Nat46Config) (headroom frame : List UInt8) (answers : Option Nat)

/-- "If NAT46 is explicitly enabled and Type A Query". -/
def Synthesizes (cfg : Dns.Settings) (query : Dns.Message) : Prop :=
  cfg.nat46Enabled = true ∧ query.qtype = 0x0001

instance (cfg : Dns.Settings) (query : Dns.Message) : Decidable (Synthesizes cfg query) :=
  inferInstanceAs (Decidable (_ ∧ _))

/-- A registration for the resolver's next address. -/
def World.register (w : World) (now : Nat) : World :=
  let fakeV4 := htonl w.worker.currentSynthIpHost
  { w with
    maps := dns64RegisterMapping w.v4MapOpen w.v6MapOpen w.maps fakeV4 dnsTarget
    issued := w.issued ++ [(fakeV4, now)]
    writes :=
      if w.v6MapOpen = true then w.writes ++ [(dnsTarget, { syntheticV4 := fakeV4, clientV4 := 0 })] else w.writes }

def World.step (w : World) : Event → World
  | .ask cfg client query now =>
    let w' := if Synthesizes cfg query then w.register now else w
    { w' with worker := (w.worker.query cfg client query now).1 }
  | .response response now => { w with worker := (w.worker.response response now).1 }
  | .packet cfg headroom frame _ =>
    let r := xdpNat46Handler cfg headroom frame w.maps
    { w with
      maps := r.maps
      translated := w.translated ++ r.sent.toList
      writes := w.writes ++ (r.sent.map fun p =>
        (p.target, { syntheticV4 := p.synthetic, clientV4 := p.client })).toList }

def World.run (w : World) (events : List Event) : World := events.foldl World.step w

/-- Empty maps, and the first address of the pool. -/
def World.boot (v4MapOpen v6MapOpen : Bool) : World := { v4MapOpen, v6MapOpen }

theorem World.run_append_singleton (w : World) (events : List Event) (e : Event) :
    w.run (events ++ [e]) = (w.run events).step e :=
  List.foldl_concat ..

/-- The descriptors stay as they were. -/
theorem World.run_open (w : World) (events : List Event) :
    (w.run events).v4MapOpen = w.v4MapOpen ∧ (w.run events).v6MapOpen = w.v6MapOpen := by
  have hstep : ∀ (w : World) (e : Event), (w.step e).v4MapOpen = w.v4MapOpen ∧ (w.step e).v6MapOpen = w.v6MapOpen := by
    intro w e
    cases e with
    | ask cfg client query now =>
      dsimp only [World.step]
      split_ifs <;> exact ⟨rfl, rfl⟩
    | response response now => exact ⟨rfl, rfl⟩
    | packet cfg headroom frame answers => exact ⟨rfl, rfl⟩
  induction events using List.reverseRecOn with
  | nil => exact ⟨rfl, rfl⟩
  | append_singleton events e ih =>
    obtain ⟨h4, h6⟩ := hstep (w.run events) e
    rw [World.run_append_singleton]
    exact ⟨h4.trans ih.1, h6.trans ih.2⟩

end FluxWAN.Nat46
