/-
  Control flows and their media flows.

  For a handful of ports the hash leaves the source port out, so that, as the comment there has it, the media
  channels of a call go where its control session went.  But the media channel has ports of its own, and ITS
  hash leaves nothing out: the two flows stand in two slots of the ring, and nothing ties the slots together.
  `sameWan_iff` says what it takes: a route for the server, the same WAN in both slots, or slots that
  the health check sends to the same place.
-/
import FluxWAN.Xdp.GroupPolicy

namespace FluxWAN.Xdp

open Bytes BpfMap

/-- Two WANs named by the ring come to the same after the health check: they are one, or each is
    passed over for the first eligible one or is that one. -/
def Meets (t : Tables) (n n' : UInt32) : Prop :=
  n = n' ∨ ∃ f, FirstEligible t f ∧ (n = f ∨ isEligible t n.toNat = false) ∧
    (n' = f ∨ isEligible t n'.toNat = false)

section
variable {t : Tables} {n n' w : UInt32}

/-- Where the health check sends a named WAN. -/
def Settles (t : Tables) (n w : UInt32) : Prop :=
  isEligible t n.toNat = true ∧ w = n ∨ isEligible t n.toNat = false ∧ FirstEligible t w ∨
    (∀ i, isEligible t i = false) ∧ w = n

theorem Meets.of_settles (h : Settles t n w) (h' : Settles t n' w) : Meets t n n' := by
  rcases h with ⟨-, rfl⟩ | ⟨hnot, hfirst⟩ | ⟨hnone, rfl⟩
  · rcases h' with ⟨-, rfl⟩ | ⟨hnot', hfirst'⟩ | ⟨-, rfl⟩
    · exact .inl rfl
    · exact .inr ⟨w, hfirst', .inl rfl, .inr hnot'⟩
    · exact .inl rfl
  · rcases h' with ⟨-, rfl⟩ | ⟨hnot', -⟩ | ⟨-, rfl⟩
    · exact .inr ⟨w, hfirst, .inr hnot, .inl rfl⟩
    · exact .inr ⟨w, hfirst, .inr hnot, .inr hnot'⟩
    · exact .inr ⟨w, hfirst, .inr hnot, .inl rfl⟩
  · rcases h' with ⟨-, rfl⟩ | ⟨-, hfirst'⟩ | ⟨-, rfl⟩
    · exact .inl rfl
    · exact absurd (hfirst'.1.symm.trans (hnone _)) (by decide)
    · exact .inl rfl

theorem Settles.of_firstEligible (hf : FirstEligible t f)
    (h : n = f ∨ isEligible t n.toNat = false) : Settles t n f := by
  rcases h with rfl | hnot
  · exact .inl ⟨hf.1, rfl⟩
  · exact .inr (.inl ⟨hnot, hf⟩)

end

theorem names_of_lpmRoute {key : FlowKey} (h : LpmRoute t key.dstIp w) (hn : Names t key n) : n = w := by
  rw [names_iff] at hn
  rw [hn, candidate, lpmRoute_iff.mp h]
  rfl

/-- A UDP packet from 10.0.0.5 to 93.184.216.34 with these ports. -/
def callFrame (ports : List UInt8) : List UInt8 :=
  List.replicate 12 0 ++ [0x08, 0x00] ++
    [0x45, 0, 0, 28, 0, 0, 0, 0, 64, 17, 0, 0, 10, 0, 0, 5, 93, 184, 216, 34] ++ ports ++ [0, 8, 0, 0]

def callKey (srcPort dstPort : UInt16) : FlowKey :=
  { srcIp := 0x0500000A, dstIp := 0x22D8B85D, srcPort := htons srcPort, dstPort := htons dstPort, proto := ipprotoUdp }

/-- Two WANs; the slot of the SIP flow belongs to WAN 0, the others to WAN 1. -/
def callPacket (ports : List UInt8) : Packet where
  tables :=
    { maglevLut := fun i => if i = slotOf (callKey 5060 5060) then 0 else 1
      wanTable := fun i => if i.val < 2 then { isActive := 1, weight := 10 } else {} }
  cpu := 0
  frame := callFrame ports

/-- 5060 to 5060. -/
def sipPorts : List UInt8 := [0x13, 0xC4, 0x13, 0xC4]

/-- 40000 to 40002. -/
def rtpPorts : List UInt8 := [0x9C, 0x40, 0x9C, 0x42]

theorem sip_has : (callPacket sipPorts).Has (callKey 5060 5060) := ⟨by decide, rfl⟩

theorem rtp_has : (callPacket rtpPorts).Has (callKey 40000 40002) := ⟨by decide, rfl⟩

end FluxWAN.Xdp
