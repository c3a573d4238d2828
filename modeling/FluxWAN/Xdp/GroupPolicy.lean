/-
  Policy groups in the packet path.

  A policy entry assigns the sources of a subnet to a WAN group, and the group's ring is filled with its
  members only (`Maglev`, `WanManager`).  Three things stand between such an assignment and a packet:

  * the ring of a group lives in `maglev_group_map` for ids 1 to 7 only — the loader refuses to store
    a ring for id 8 and the program does not look for one, though the configuration hands out ids up to 8;
  * the scan is made with the address in the session KEY, and QUIC packets and ICMP errors are keyed with
    another one;
  * when the named WAN may not receive new flows, the fallback scans ALL rows, not the group's.

  `group_dispatch_iff` says exactly when a first packet still leaves through a member.
-/
import FluxWAN.Xdp.Stickiness

namespace FluxWAN.Xdp

open Bytes BpfMap

variable {t : Tables} {key : FlowKey} {w : UInt32}

/-- The IPv4 source address of a frame. -/
def ipSource (frame : List UInt8) : Option UInt32 :=
  ((parseEth frame).bind fun (cur, _) => parseIpv4 frame cur).map fun (_, key) => key.srcIp

/-- The packet's IPv4 source first matches an active policy entry that targets group `g`. -/
def Assigned (t : Tables) (frame : List UInt8) (g : UInt32) : Prop :=
  ∃ src, ipSource frame = some src ∧ FirstMatch t src g

/-- The ring the loader stores is the ring the program reads, for the ids that have one. -/
theorem maglevGroup_update (t : Tables) (h : HasRing g) (ring : MaglevRing) (i : Fin maglevRingSize) :
    (t.updateGroupMaglevLut g ring).maglevGroup (h.index i) = ring.get i := by
  have hg : ¬ g.toNat ≥ 8 := Nat.not_le.mpr h.2
  have hsub : (h.index i).val - g.toNat * maglevRingSize = i.val := by
    rw [h.index_val]
    omega
  have hin : g.toNat * maglevRingSize ≤ (h.index i).val ∧
      (h.index i).val - g.toNat * maglevRingSize < maglevRingSize := by
    rw [hsub, h.index_val]
    exact ⟨Nat.le_add_right _ _, i.isLt⟩
  rw [Tables.updateGroupMaglevLut, if_neg hg]
  show (if h' : _ then _ else _) = _
  rw [dif_pos hin]
  simp only [hsub]
  rfl

/-- A packet that finds no session is dispatched. -/
theorem TierRow.select_wan_of_none {r : TierRow} (h : r.seen cpu = none) : (r.select t cpu key).1 = dispatch t key := by
  unfold select
  split
  · rfl
  · rw [h]
    rfl

theorem Packet.wan_eq_some_iff_steers {p : Packet} {s : RouterState} (hp : p.Has key)
    (hnone : (s.sessions.row key).seen p.cpu = none) :
    p.wan s = some w ↔ Steers p.tables key w := by
  rw [Packet.wan_eq hp, TierRow.select_wan_of_none hnone, steers_iff, Option.some_inj, eq_comm]

theorem names_iff_ringNames
    (hlpm : t.lpmSubnet.lookup (htonl key.dstIp) = none) : Names t key w ↔ RingNames t key w := by
  simp [Names, LpmRoute, hlpm]

/-- The group's own ring, asked with the packet's own source, names a member. -/
theorem RingNames.mem_of_ownRing {g : UInt32} {ring : MaglevRing} {members : List UInt32}
    (hmembers : ∀ m ∈ members, m.toNat < maxWans) (hring : ∀ i : Fin maglevRingSize, ring.get i ∈ members)
    (hg : HasRing g)
    (hgroup : GroupOf (t.updateGroupMaglevLut g ring) key.srcIp g)
    (h : RingNames (t.updateGroupMaglevLut g ring) key w) : w ∈ members := by
  obtain ⟨g', e, hg', he, rfl⟩ := h
  obtain rfl : g' = g := (groupOf_iff.mp hg').trans (groupOf_iff.mp hgroup).symm
  rw [Slot, dif_pos hg, maglevGroup_update] at he
  have hmem : e ∈ members := he ▸ hring (slotOf key)
  rw [rowOr, if_pos (hmembers e hmem)]
  exact hmem

/-- **When a policy group holds.**  For any tables into which the loader has put the group's ring, any
    policy table and any WAN table with an eligible member: a packet assigned to the group, without a
    session and without an LPM route, is dispatched to a member if and only if

    * the ring entry of its key may receive new flows, and was read from the group's own ring under the
      packet's own source, or happens to be a member; or
    * the ring entry may not, and the LOWEST eligible row of the whole table is a member. -/
theorem group_dispatch_iff (t : Tables) (g : UInt32) (ring : MaglevRing) (members : List UInt32)
    (hmembers : ∀ m ∈ members, m.toNat < maxWans) (hring : ∀ i : Fin maglevRingSize, ring.get i ∈ members)
    (s : RouterState) (p : Packet) (key : FlowKey) (ht : p.tables = t.updateGroupMaglevLut g ring)
    (heligible : ∃ m ∈ members, isEligible p.tables m.toNat = true) (hp : p.Has key)
    (hassigned : Assigned p.tables p.frame g) (hnone : (s.sessions.row key).seen p.cpu = none)
    (hlpm : p.tables.lpmSubnet.lookup (htonl key.dstIp) = none) :
    (∃ w ∈ members, p.wan s = some w) ↔
      (∃ w, RingNames p.tables key w ∧ isEligible p.tables w.toNat = true ∧
        (HasRing g ∧ ipSource p.frame = some key.srcIp ∨ w ∈ members)) ∨
      (∃ w, RingNames p.tables key w ∧ isEligible p.tables w.toNat = false) ∧
        ∃ w ∈ members, FirstEligible p.tables w := by
  simp only [Packet.wan_eq_some_iff_steers hp hnone, Steers, names_iff_ringNames hlpm]
  constructor
  · rintro ⟨w, hw, n, hn, ⟨helig, rfl⟩ | ⟨hnot, hfirst⟩ | ⟨hnobody, -⟩⟩
    · exact .inl ⟨w, hn, helig, .inr hw⟩
    · exact .inr ⟨⟨n, hn, hnot⟩, w, hw, hfirst⟩
    · obtain ⟨m, -, hm⟩ := heligible
      rw [hnobody] at hm
      exact absurd hm (by decide)
  · rintro (⟨w, hw, helig, hown | hmem⟩ | ⟨⟨n, hn, hnot⟩, w, hmem, hfirst⟩)
    · -- the group's own ring: its slots hold members only
      obtain ⟨src, hsrc, hmatch⟩ := hassigned
      obtain rfl := Option.some.inj (hsrc.symm.trans hown.2)
      refine ⟨w, ?_, w, hw, .inl ⟨helig, rfl⟩⟩
      rw [ht] at hw hmatch
      exact hw.mem_of_ownRing hmembers hring hown.1 (.inl hmatch)
    · exact ⟨w, hmem, w, hw, .inl ⟨helig, rfl⟩⟩
    · exact ⟨w, hmem, n, hn, .inr (.inl ⟨hnot, hfirst⟩)⟩

/-! ### The eighth group -/

/-- A ring all of whose slots are WAN 1. -/
def ringOfOne : MaglevRing := Vector.replicate maglevRingSize 1

/-- WANs 0 and 1 up, the default ring on WAN 0, and 10.0.0.0/8 assigned to group 8. -/
def eighthTables : Tables :=
  { twoWanTables 0 with
    policyRoute := fun i =>
      if i.val = 0 then { subnetIp := 0x0000000A, netmask := 0x000000FF, targetGroup := 8, isActive := 1 }
      else {} }

/-- The first packet of `webFlow`, after the loader was given the ring of group 8. -/
def eighthPacket : Packet where
  tables := eighthTables.updateGroupMaglevLut 8 ringOfOne
  cpu := 0
  frame := webFrame 0x02

/-- The loader refuses the ring of group 8. -/
theorem eighthPacket_tables : eighthPacket.tables = eighthTables := by
  rw [eighthPacket, Tables.updateGroupMaglevLut, if_pos (by decide)]

theorem ringOfOne_mem (i : Fin maglevRingSize) : ringOfOne.get i ∈ ([1] : List UInt32) :=
  List.mem_singleton.mpr (Vector.getElem_replicate i.isLt)

theorem eighthPacket_eligible :
    ∃ m ∈ ([1] : List UInt32), isEligible eighthPacket.tables m.toNat = true :=
  ⟨1, List.mem_singleton.mpr rfl, by rw [eighthPacket_tables]; decide⟩

theorem eighthPacket_has : eighthPacket.Has (webFlow.openKey true) := ⟨webFlow_sends_syn, rfl⟩

theorem eighthPacket_assigned : Assigned eighthPacket.tables eighthPacket.frame 8 := by
  refine ⟨0x0500000A, by decide, 0, ?_⟩
  rw [eighthPacket_tables]
  exact ⟨by decide, rfl, fun q hq => absurd hq (Nat.not_lt_zero _)⟩

theorem group_dispatch_iff_eighth :
    (∃ w ∈ [1], eighthPacket.wan {} = some w) ↔
      (∃ w, RingNames eighthPacket.tables (webFlow.openKey true) w ∧
        isEligible eighthPacket.tables w.toNat = true ∧
        (HasRing 8 ∧ ipSource eighthPacket.frame = some (webFlow.openKey true).srcIp ∨ w ∈ [1])) ∨
      (∃ w, RingNames eighthPacket.tables (webFlow.openKey true) w ∧
        isEligible eighthPacket.tables w.toNat = false) ∧
        ∃ w ∈ [1], FirstEligible eighthPacket.tables w :=
  group_dispatch_iff eighthTables 8 ringOfOne [1] (List.forall_mem_singleton.mpr (by decide))
    ringOfOne_mem {} eighthPacket (webFlow.openKey true) rfl eighthPacket_eligible eighthPacket_has
    eighthPacket_assigned rfl (by rw [eighthPacket_tables]; rfl)

/-- Group 8 is WAN 1 alone, WAN 1 is up, and the packet assigned to it leaves through WAN 0. -/
theorem eighthPacket_outside :
    (∀ i : Fin maglevRingSize, ringOfOne.get i ∈ ([1] : List UInt32)) ∧
      (∃ m ∈ ([1] : List UInt32), isEligible eighthPacket.tables m.toNat = true) ∧
      eighthPacket.Has (webFlow.openKey true) ∧
      Assigned eighthPacket.tables eighthPacket.frame 8 ∧
      ((({} : RouterState).sessions.row (webFlow.openKey true)).seen 0 = none ∧
        eighthPacket.tables.lpmSubnet.lookup (htonl webFlow.dstIp) = none) ∧
      ¬ ∃ w ∈ ([1] : List UInt32), eighthPacket.wan {} = some w := by
  have hwan : eighthPacket.wan {} = some 0 := by
    show (xdpRouterFunc eighthPacket.tables _ _ _ _).wan = _
    rw [eighthPacket_tables]
    decide
  refine ⟨ringOfOne_mem, eighthPacket_eligible, eighthPacket_has, eighthPacket_assigned,
    ⟨rfl, by rw [eighthPacket_tables]; rfl⟩, ?_⟩
  rw [hwan]
  decide

end FluxWAN.Xdp
