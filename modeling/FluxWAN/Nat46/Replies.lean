/-
  Replies from servers.

  The reverse map has one entry per SERVER, and it is overwritten by every packet to the server, whoever sent
  it, and by every registration, with client 0.  All registrations are for the same server.  So a reply is
  turned back for whoever wrote last.

  1. **A reply** — `delivered_iff`: it goes to the client of a packet exactly if the entry of the server is that
     packet's.
  2. **The map** — `reverse_run`: the entry of a server is the last write for it; there is one server, so the map
     never fills up.
  3. **Result** — `replies_delivered_iff`.
-/
import FluxWAN.Lib.Slices
import FluxWAN.Nat46.Pool

namespace FluxWAN.Nat46

open Bytes BpfMap Trace

/-! ## Frames with other headers -/

/-- The frame with this IP header, Ethernet type and receiver: what both directions store. -/
def rewrapped (frame header : List UInt8) (type : UInt16) (mac : List UInt8) : List UInt8 :=
  store (store (store frame 14 header) 12 (bytes16 type)) 0 mac

section
variable {frame header mac : List UInt8} (type : UInt16) (hlen : 14 + header.length ≤ frame.length)
  (hmac : mac.length = 6)
include hlen hmac

/-- The three stores fit. -/
theorem rewrapped_fits : 12 + 2 ≤ (store frame 14 header).length ∧
    0 + mac.length ≤ (store (store frame 14 header) 12 (bytes16 type)).length := by
  have hip : (store frame 14 header).length = frame.length := length_store hlen
  rw [length_store_bytes16 _ (by omega), hip]
  omega

theorem length_rewrapped : (rewrapped frame header type mac).length = frame.length := by
  obtain ⟨heth, hfit⟩ := rewrapped_fits type hlen hmac
  exact (length_store hfit).trans ((length_store_bytes16 _ heth).trans (length_store hlen))

theorem le16_rewrapped : le16 (rewrapped frame header type mac) 12 = type := by
  obtain ⟨heth, hfit⟩ := rewrapped_fits type hlen hmac
  exact le16_of_slice ((slice_store_of_outside hfit (.inr (by omega))).trans (slice_store_bytes16 _ heth))

/-- Behind the Ethernet header only the IP header is new. -/
theorem slice_rewrapped (hj : 14 ≤ j) :
    slice (rewrapped frame header type mac) j n = slice (store frame 14 header) j n := by
  obtain ⟨heth, hfit⟩ := rewrapped_fits type hlen hmac
  exact (slice_store_of_outside hfit (.inr (by omega))).trans
    (slice_store_bytes16_of_outside _ heth (.inr (by omega)))

theorem slice_rewrapped_behind (hj : 14 + header.length ≤ j) :
    slice (rewrapped frame header type mac) j n = slice frame j n := by
  rw [slice_rewrapped type hlen hmac (by omega), slice_store_of_outside hlen (.inr hj)]

theorem slice_rewrapped_header (hk : k + n ≤ header.length) :
    slice (rewrapped frame header type mac) (14 + k) n = slice header k n := by
  rw [slice_rewrapped type hlen hmac (by omega), slice_store_of_inside (by omega) hk]

end

/-! ## The fields of a translated reply -/

section
variable (cfg : Nat46Config) {frame : List UInt8} (payloadLen : UInt16) (proto : UInt8) (rev : ReverseVal)

theorem check_fits : 10 + (bytes16 (calcIpCsum (blankIpv4Header payloadLen proto rev))).length ≤
    (blankIpv4Header payloadLen proto rev).length :=
  (by decide : 10 + 2 ≤ 20)

theorem length_ipv4Header : (ipv4Header payloadLen proto rev).length = 20 :=
  length_store (check_fits payloadLen proto rev)

theorem toIpv4_eq : toIpv4 cfg frame payloadLen proto rev =
    rewrapped frame (ipv4Header payloadLen proto rev) (htons Xdp.ethPIp) cfg.lanGwMac := rfl

variable (hlen : 34 ≤ frame.length)
include hlen

theorem ipv4Header_fits : 14 + (ipv4Header payloadLen proto rev).length ≤ frame.length := by
  rw [length_ipv4Header]
  exact hlen

theorem le16_ethertype : le16 (toIpv4 cfg frame payloadLen proto rev) 12 = htons Xdp.ethPIp :=
  le16_rewrapped _ (ipv4Header_fits payloadLen proto rev hlen) cfg.length_lanGwMac

/-- Every field but the checksum is as in the blank header. -/
theorem slice_toIpv4 (hk : k + n ≤ 10 ∨ 12 ≤ k ∧ k + n ≤ 20) :
    slice (toIpv4 cfg frame payloadLen proto rev) (14 + k) n = slice (blankIpv4Header payloadLen proto rev) k n := by
  have hhdr := length_ipv4Header payloadLen proto rev
  rw [toIpv4_eq, slice_rewrapped_header _ (ipv4Header_fits payloadLen proto rev hlen) cfg.length_lanGwMac (by omega)]
  exact slice_store_of_outside (check_fits payloadLen proto rev) (hk.imp id fun h => h.1)

theorem le32_synthetic : le32 (toIpv4 cfg frame payloadLen proto rev) 26 = rev.syntheticV4 :=
  le32_of_slice (slice_toIpv4 cfg payloadLen proto rev hlen (k := 12) (.inr (by decide)))

theorem le32_client : le32 (toIpv4 cfg frame payloadLen proto rev) 30 = rev.clientV4 :=
  le32_of_slice (slice_toIpv4 cfg payloadLen proto rev hlen (k := 16) (.inr (by decide)))

end

/-! ## One reply -/

/-- The frame is an IPv6 packet from the server that a packet was sent to. -/
structure RepliesTo (w : World) (frame : List UInt8) (answers : Nat) (p : Translated) : Prop where
  logged : w.translated[answers]? = some p
  length : 54 ≤ frame.length
  ethertype : le16 frame 12 = htons ethPIpv6
  source : sourceV6 frame = p.target

/-- The result is an IPv4 packet on the LAN, to the client and from the address the client had sent to. -/
def Delivered (cfg : Nat46Config) (p : Translated) (r : NatResult) : Prop :=
  r.action = .redirect cfg.lanIfindex ∧ le16 r.frame 12 = htons Xdp.ethPIp ∧ le32 r.frame 26 = p.synthetic ∧ le32 r.frame 30 = p.client

theorem delivered_iff {p : Translated} (h : RepliesTo w frame answers p) (cfg : Nat46Config) (maps : Maps) :
    Delivered cfg p (xdpNat46Handler cfg headroom frame maps) ↔
      cfg.enabled ≠ 0 ∧ maps.reverse.lookup p.target = some { syntheticV4 := p.synthetic, clientV4 := p.client } := by
  have hlen := h.length
  have hnotIp : le16 frame 12 ≠ htons Xdp.ethPIp := by
    rw [h.ethertype]
    decide
  unfold xdpNat46Handler
  rw [if_neg (by omega)]
  by_cases hen : cfg.enabled = 0
  · rw [if_pos hen]
    exact ⟨fun hd => (nomatch hd.1), fun hc => absurd hen hc.1⟩
  rw [if_neg hen, if_neg hnotIp, if_pos h.ethertype, ingress, if_neg (by omega), h.source]
  cases hrev : maps.reverse.lookup p.target with
  | none => exact ⟨fun hd => (nomatch hd.1), fun hc => (nomatch hc.2)⟩
  | some rev =>
    have hshrink : shrinkHead frame 20 = some (frame.drop 20) := if_pos (by omega)
    have hshort : 34 ≤ (frame.drop 20).length := by
      rw [List.length_drop]
      omega
    dsimp only
    rw [hshrink]
    dsimp only
    rw [if_neg (by omega)]
    unfold Delivered
    rw [le16_ethertype cfg _ _ rev hshort, le32_synthetic cfg _ _ rev hshort, le32_client cfg _ _ rev hshort]
    obtain ⟨synthetic, client⟩ := rev
    simp [hen]

/-! ## The reverse map -/

/-- The last write for a server. -/
def LastWrite (writes : List (In6Addr × ReverseVal)) (server : In6Addr) (rev : ReverseVal) : Prop :=
  Since (fun x => x = (server, rev)) (fun x => x.1 = server) writes

theorem lastWrite_append_singleton_iff :
    LastWrite (writes ++ [(s, v)]) server rev ↔ Function.update (fun s' => LastWrite writes s' rev) s (v = rev) server := by
  unfold LastWrite
  rw [since_append_singleton_iff, Prod.mk.injEq]
  by_cases hs : server = s
  · subst hs
    simp
  · simp [hs, Ne.symm hs]

/-- One server only: every target is the resolver's, and so is every key of the reverse map, whose entries are
    the last writes. -/
structure OneServer (maps : Maps) (writes : List (In6Addr × ReverseVal)) : Prop where
  targets : ∀ ip target, maps.forward.lookup ip = some target → target = dnsTarget
  keys : maps.reverse.map Prod.fst = [] ∨ maps.reverse.map Prod.fst = [dnsTarget]
  last : ∀ server rev, maps.reverse.lookup server = some rev ↔ LastWrite writes server rev

namespace OneServer

variable {maps : Maps} {writes : List (In6Addr × ReverseVal)}

theorem room (h : OneServer maps writes) : maps.reverse.length < mapEntries := by
  have hlen : (maps.reverse.map Prod.fst).length = maps.reverse.length := List.length_map _
  rcases h.keys with hk | hk <;> rw [hk] at hlen <;> rw [← hlen] <;> decide

/-- A write to the reverse map. -/
theorem writeReverse (h : OneServer maps writes) (rev : ReverseVal) :
    OneServer { maps with reverse := maps.reverse.update mapEntries dnsTarget rev } (writes ++ [(dnsTarget, rev)]) := by
  refine ⟨h.targets, ?_, fun server rev' => ?_⟩
  · rw [Hash.keys_update]
    rcases h.keys with hk | hk
    · rw [if_pos ⟨by rw [hk]; exact List.not_mem_nil, h.room⟩, hk]
      exact .inr rfl
    · rw [if_neg fun hn => hn.1 (by rw [hk]; exact List.mem_singleton_self _), hk]
      exact .inr rfl
  · rw [Hash.lookup_update (.inr h.room), lastWrite_append_singleton_iff]
    by_cases hs : server = dnsTarget
    · subst hs
      simp
    · rw [Function.update_of_ne hs, Function.update_of_ne hs]
      exact h.last server rev'

/-- A write to the forward map. -/
theorem writeForward (h : OneServer maps writes) (ip : UInt32) :
    OneServer { maps with forward := maps.forward.update mapEntries ip dnsTarget } writes := by
  refine ⟨fun ip' target hip => ?_, h.keys, h.last⟩
  rcases Hash.lookup_update_cases hip with ⟨-, rfl⟩ | hip
  · rfl
  · exact h.targets ip' target hip

theorem register (h : OneServer maps writes) (v4MapOpen v6MapOpen : Bool) (fakeV4 : UInt32) :
    OneServer (dns64RegisterMapping v4MapOpen v6MapOpen maps fakeV4 dnsTarget)
      (if v6MapOpen = true then writes ++ [(dnsTarget, { syntheticV4 := fakeV4, clientV4 := 0 })] else writes) := by
  cases v4MapOpen <;> cases v6MapOpen
  · exact h
  · exact h.writeReverse _
  · exact h.writeForward fakeV4
  · exact (h.writeForward fakeV4).writeReverse _

/-- **One event.** -/
theorem step {w : World} (h : OneServer w.maps w.writes) (e : Event) : OneServer (w.step e).maps (w.step e).writes := by
  cases e with
  | ask cfg client query now =>
    dsimp only [World.step]
    split_ifs
    · exact h.register w.v4MapOpen w.v6MapOpen _
    · exact h
  | response response now => exact h
  | packet cfg headroom frame answers =>
    dsimp only [World.step]
    rcases handler_cases cfg w.maps with ⟨hsent, hmaps⟩ | ⟨p, hsent, htarget, hmaps⟩
    · rw [hsent, hmaps, Option.map_none, Option.toList_none, List.append_nil]
      exact h
    · rw [hsent, hmaps, Option.map_some, Option.toList_some, h.targets p.synthetic p.target htarget]
      exact h.writeReverse _

end OneServer

theorem oneServer_run : OneServer ((World.boot v4MapOpen v6MapOpen).run events).maps
      ((World.boot v4MapOpen v6MapOpen).run events).writes := by
  induction events using List.reverseRecOn with
  | nil => exact ⟨nofun, .inl rfl, fun _ _ => ⟨nofun, fun h => absurd h not_since_nil⟩⟩
  | append_singleton events e ih =>
    rw [World.run_append_singleton]
    exact ih.step e

/-! ## The result -/

/-- Every reply of the run is turned back for the client whose packet it answers. -/
def AllDelivered (v4MapOpen v6MapOpen : Bool) (events : List Event) : Prop :=
  ∀ before cfg headroom frame answers p, before ++ [Event.packet cfg headroom frame (some answers)] <+: events →
    RepliesTo ((World.boot v4MapOpen v6MapOpen).run before) frame answers p →
      Delivered cfg p (xdpNat46Handler cfg headroom frame ((World.boot v4MapOpen v6MapOpen).run before).maps)

/-- **Replies.**  In every run: all replies reach their clients, if and only if at each of them NAT46 is on and
    the last packet or registration for the server was a packet of the same client to the same address. -/
theorem replies_delivered_iff (v4MapOpen v6MapOpen : Bool) (events : List Event) :
    AllDelivered v4MapOpen v6MapOpen events ↔
      ∀ before cfg headroom frame answers p, before ++ [Event.packet cfg headroom frame (some answers)] <+: events →
        RepliesTo ((World.boot v4MapOpen v6MapOpen).run before) frame answers p →
          cfg.enabled ≠ 0 ∧ LastWrite ((World.boot v4MapOpen v6MapOpen).run before).writes p.target
            { syntheticV4 := p.synthetic, clientV4 := p.client } := by
  have hreply : ∀ before cfg headroom frame answers p,
      RepliesTo ((World.boot v4MapOpen v6MapOpen).run before) frame answers p →
        (Delivered cfg p (xdpNat46Handler cfg headroom frame ((World.boot v4MapOpen v6MapOpen).run before).maps) ↔
          cfg.enabled ≠ 0 ∧ LastWrite ((World.boot v4MapOpen v6MapOpen).run before).writes p.target
            { syntheticV4 := p.synthetic, clientV4 := p.client }) := by
    intro before cfg headroom frame answers p h
    rw [delivered_iff h, oneServer_run.last]
  constructor
  · intro h before cfg headroom frame answers p hpre hrep
    exact (hreply before cfg headroom frame answers p hrep).mp (h before cfg headroom frame answers p hpre hrep)
  · intro h before cfg headroom frame answers p hpre hrep
    exact (hreply before cfg headroom frame answers p hrep).mpr (h before cfg headroom frame answers p hpre hrep)

/-- NAT46 switched on. -/
def sampleConfig : Nat46Config where
  routerV6Src := List.replicate 16 0
  starlinkIfindex := 2
  lanIfindex := 3
  starlinkGwMac := List.replicate 6 0
  lanGwMac := List.replicate 6 0
  enabled := 1
  length_routerV6Src := List.length_replicate
  length_starlinkGwMac := List.length_replicate
  length_lanGwMac := List.length_replicate

/-- An empty UDP packet from one address to another. -/
def clientPacket (client synthetic : UInt32) : Event :=
  .packet sampleConfig (List.replicate 20 0)
    (List.replicate 12 0 ++ [0x08, 0x00] ++ [0x45, 0, 0, 20, 0, 0, 0, 0, 64, 17, 0, 0] ++ bytes32 client ++
      bytes32 synthetic) none

/-- An empty UDP packet from the server. -/
def serverPacket : List UInt8 :=
  List.replicate 12 0 ++ [0x86, 0xDD] ++ [0x60, 0, 0, 0, 0, 0, 17, 64] ++ dnsTarget ++ List.replicate 16 0

/-- 10.0.0.5 and 10.0.0.6 ask, get 198.18.0.1 and 198.18.0.2, and send a packet each. -/
def twoClients : List Event :=
  [askA 0x0500000A, askA 0x0600000A, clientPacket 0x0500000A 0x010012C6, clientPacket 0x0600000A 0x020012C6]

/-- The reply to the first packet goes to the second client. -/
theorem reply_crosses_clients :
    ((World.boot true true).run twoClients).translated[0]? =
        some { client := 0x0500000A, synthetic := 0x010012C6, target := dnsTarget } ∧
      le32 (xdpNat46Handler sampleConfig [] serverPacket ((World.boot true true).run twoClients).maps).frame 30 =
        0x0600000A ∧
      ¬ AllDelivered true true (twoClients ++ [Event.packet sampleConfig [] serverPacket (some 0)]) := by
  have hlogged : ((World.boot true true).run twoClients).translated[0]? =
      some { client := 0x0500000A, synthetic := 0x010012C6, target := dnsTarget } := by
    decide
  have hother : le32 (xdpNat46Handler sampleConfig [] serverPacket
      ((World.boot true true).run twoClients).maps).frame 30 = 0x0600000A := by
    decide
  refine ⟨hlogged, hother, fun h => ?_⟩
  have hclient := (h twoClients sampleConfig [] serverPacket 0 _ List.prefix_rfl
    ⟨hlogged, by decide, by decide, by decide⟩).2.2.2
  exact absurd (hother.symm.trans hclient) (by decide)

end FluxWAN.Nat46
