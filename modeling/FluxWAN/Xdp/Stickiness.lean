/-
  How far sessions stick.

  A connection is sticky if all its packets leave through one WAN.  In the router a session is found again
  only under the SAME `flow_5tuple` — which contains the SYN, RST and FIN bits of the packet that wrote it
  — and, in the local tier, with the value of the SAME CPU, since the kernel zero-fills the others.  Three
  consequences, each stated as an equivalence:

  * `tcpRun_sticky_iff`  — the packets of a connection follow the first one iff the first packet with the
    OTHER SYN bit is owned by the same WAN on its own account;
  * `close_clears_iff`   — a FIN or RST leaves nothing behind iff there was nothing to leave;
  * `crossCpu_same_iff`  — a session made on one CPU is followed on another iff it is for WAN 0 and WAN 0
    is live, or WAN 0 is not live and the tables steer the flow the same way once more.
-/
import FluxWAN.Xdp.Session

namespace FluxWAN.Xdp

variable {p : Packet} {ps : List Packet}

/-! ## TCP connections -/

/-- The fixed part of a TCP connection. -/
structure TcpFlow where
  srcIp : UInt32
  dstIp : UInt32
  srcPort : UInt16
  dstPort : UInt16

/-- FIN or RST in the flag byte of a TCP header. -/
def closes (flags : UInt8) : Bool := flags &&& 0x05 ≠ 0

/-- SYN in the flag byte of a TCP header. -/
def hasSyn (flags : UInt8) : Bool := flags &&& 0x02 ≠ 0

namespace TcpFlow

variable (c : TcpFlow)

/-- The session key of a packet with this flag byte. -/
def key (flags : UInt8) : FlowKey :=
  { srcIp := c.srcIp, dstIp := c.dstIp, srcPort := c.srcPort, dstPort := c.dstPort,
    proto := ipprotoTcp, pktFlags := tcpFlags flags }

/-- The frame is a packet of the connection with this flag byte. -/
def Sends (frame : List UInt8) (flags : UInt8) : Prop := parseFrame frame = some (c.key flags)

/-- A packet with neither FIN nor RST has one of two keys. -/
def openKey (syn : Bool) : FlowKey := c.key (if syn then 0x02 else 0x00)

/-- What a session key keeps of the flag byte. -/
theorem tcpFlags_spec : ∀ flags, decide (tcpFlags flags &&& (pktFlagRst ||| pktFlagFin) ≠ 0) = closes flags ∧
    decide (tcpFlags flags &&& pktFlagSyn ≠ 0) = hasSyn flags ∧
    (closes flags = false → tcpFlags flags = tcpFlags (if hasSyn flags then 0x02 else 0x00)) :=
  Bytes.forall_byte (by decide +kernel)

theorem isClosing_key (flags : UInt8) : isClosing (c.key flags) = closes flags := (tcpFlags_spec flags).1

theorem key_of_open (h : closes flags = false) : c.key flags = c.openKey (hasSyn flags) := by
  rw [openKey, key, (tcpFlags_spec flags).2.2 h]
  rfl

theorem storable_openKey (syn : Bool) : Storable (c.openKey syn) where
  notClosing := by
    rw [openKey, isClosing_key]
    cases syn <;> decide
  notDns := rfl

theorem openKey_injective : Function.Injective c.openKey := by
  intro a b h
  have hflags : tcpFlags (if a then 0x02 else 0x00) = tcpFlags (if b then 0x02 else 0x00) :=
    congrArg FlowKey.pktFlags h
  cases a <;> cases b <;> first | rfl | exact absurd hflags (by decide)

variable {c}

/-- A TCP packet is never the ping responder's. -/
theorem Sends.has (h : c.Sends p.frame flags) : p.Has (c.key flags) :=
  ⟨h, rfl⟩

end TcpFlow

/-! ## One connection on one CPU

  The two keys of an open connection are two rows that the run moves independently.  While `w` is live, a
  row that shows `w` goes on showing it; so the run is decided when the second row is first used. -/

section TwoKeys
variable {key : Bool → FlowKey} {bit : Packet → Bool} {cpu : Cpu} {w : UInt32}

/-- The packets of a run on one CPU under two storable keys, with the WAN `w` live throughout. -/
structure TwoKeyRun (key : Bool → FlowKey) (bit : Packet → Bool) (cpu : Cpu) (w : UInt32)
    (ps : List Packet) : Prop where
  storable : ∀ b, Storable (key b)
  injective : Function.Injective key
  packets : ∀ p ∈ ps, p.cpu = cpu ∧ p.Has (key (bit p)) ∧ isLive p.tables w.toNat = true

theorem TwoKeyRun.tail (h : TwoKeyRun key bit cpu w (p :: ps)) :
    TwoKeyRun key bit cpu w ps :=
  { h with packets := (List.forall_mem_cons.mp h.packets).2 }

/-- One packet on a row that shows `w`. -/
theorem TwoKeyRun.head_shows {s : RouterState}
    (h : TwoKeyRun key bit cpu w (p :: ps)) (hshow : (s.sessions.row (key (bit p))).Shows cpu w) :
    p.wan s = some w ∧ ((p.next s).sessions.row (key (bit p))).Shows cpu w := by
  obtain ⟨rfl, hhas, hlive⟩ := (List.forall_mem_cons.mp h.packets).1
  have hwan : p.wan s = some w := by
    rw [Packet.wan_eq hhas, hshow.select_eq (h.storable (bit p)) hlive]
  exact ⟨hwan, Packet.shows_next hhas (h.storable _) hwan⟩

theorem TwoKeyRun.head_frame (s : RouterState) (h : TwoKeyRun key bit cpu w (p :: ps)) (hb : b ≠ bit p) :
    (p.next s).sessions.row (key b) = s.sessions.row (key b) :=
  Packet.row_next_of_ne (List.forall_mem_cons.mp h.packets).1.2.1 (h.injective.ne hb)

/-- Once both rows show `w`, every packet gets `w`. -/
theorem TwoKeyRun.wans_eq :
    ∀ {s : RouterState}, TwoKeyRun key bit cpu w ps →
      (∀ b, (s.sessions.row (key b)).Shows cpu w) → ∀ o ∈ runWans s ps, o = some w := by
  induction ps with
  | nil => exact fun _ _ o ho => nomatch ho
  | cons p ps ih =>
    intro s h hshow
    obtain ⟨hwan, hnext⟩ := h.head_shows (hshow _)
    have hshow' : ∀ b, ((p.next s).sessions.row (key b)).Shows cpu w := by
      intro b
      by_cases hb : b = bit p
      · rwa [hb]
      · rw [h.head_frame s hb]
        exact hshow b
    exact List.forall_mem_cons.mpr ⟨hwan, ih h.tail hshow'⟩

/-- While only the first row is known to show `w`, the first packet of the OTHER key decides. -/
theorem TwoKeyRun.wans_eq_iff (b₀ : Bool) :
    ∀ {s : RouterState}, TwoKeyRun key bit cpu w ps → (s.sessions.row (key b₀)).Shows cpu w →
      ((∀ o ∈ runWans s ps, o = some w) ↔
        ∀ q, ps.find? (fun p => bit p != b₀) = some q →
          Owner q.tables (key !b₀) ((s.sessions.row (key !b₀)).seen cpu) w) := by
  induction ps with
  | nil =>
    intro s _ _
    simp [runWans]
  | cons p ps ih =>
    intro s h hshow
    rw [runWans, List.forall_mem_cons, List.find?_cons]
    by_cases hbit : bit p = b₀
    · -- the first key again: `w`, and the other row is where it was
      subst hbit
      obtain ⟨hwan, hnext⟩ := h.head_shows hshow
      have hother : (!bit p) ≠ bit p := by simp
      rw [bne_self_eq_false, ih h.tail hnext, h.head_frame s hother]
      simp [hwan]
    · -- the other key for the first time
      have hflip : bit p = !b₀ := by
        cases hb : bit p <;> cases b₀ <;> simp_all
      obtain ⟨hcpu, hhas, -⟩ := (List.forall_mem_cons.mp h.packets).1
      rw [hflip] at hhas
      have hwan := Packet.wan_eq_some_iff (s := s) hhas (h.storable (!b₀)) (w := w)
      rw [hcpu] at hwan
      have hne : (bit p != b₀) = true := by simpa using hbit
      rw [hne]
      constructor
      · rintro ⟨hp, -⟩ q hq
        obtain rfl := Option.some.inj hq
        exact hwan.mp hp
      · intro hown
        have hp := hwan.mpr (hown p rfl)
        refine ⟨hp, h.tail.wans_eq ?_⟩
        intro b
        by_cases hb : b = b₀
        · rw [hb, h.head_frame s (by rw [hflip]; simp)]
          exact hshow
        · have hb' : b = !b₀ := by cases b <;> cases b₀ <;> simp_all
          rw [hb', ← hcpu]
          exact Packet.shows_next hhas (h.storable _) hp

end TwoKeys

/-- The SYN bit of a frame, as the router keys it. -/
def synBit (frame : List UInt8) : Bool :=
  (parseFrame frame).any fun key => key.pktFlags &&& pktFlagSyn ≠ 0

/-- A packet of the connection with neither FIN nor RST. -/
def TcpFlow.Open (c : TcpFlow) (p : Packet) : Prop :=
  ∃ flags, c.Sends p.frame flags ∧ closes flags = false

theorem TcpFlow.Open.has {c : TcpFlow} (h : c.Open p) :
    p.Has (c.openKey (synBit p.frame)) := by
  obtain ⟨flags, hsends, hopen⟩ := h
  have hsyn : synBit p.frame = hasSyn flags := by
    rw [synBit, hsends]
    exact (TcpFlow.tcpFlags_spec flags).2.1
  rw [hsyn, ← c.key_of_open hopen]
  exact hsends.has

/-- **Stickiness of a TCP connection.**  On one CPU, without FIN and RST, without reclaimed entries, and
    while the first packet's WAN stays live, all later packets get the first one's WAN if and only if the
    first later packet whose SYN bit DIFFERS is owned by that WAN too: by a session from before the run
    under its own key, or by the tables of its own time. -/
theorem tcpRun_sticky_iff (c : TcpFlow) (s : RouterState) (p : Packet) (later : List Packet)
    (hopen : ∀ q ∈ p :: later, q.cpu = p.cpu ∧ c.Open q)
    (hlive : ∀ q ∈ later, ∀ w, p.wan s = some w → isLive q.tables w.toNat = true) :
    (∀ o ∈ runWans (p.next s) later, o = p.wan s) ↔
      ∀ q, later.find? (fun q => synBit q.frame != synBit p.frame) = some q →
        ∃ w, Owner p.tables (c.openKey (synBit p.frame))
            ((s.sessions.row (c.openKey (synBit p.frame))).seen p.cpu) w ∧
          Owner q.tables (c.openKey (synBit q.frame))
            ((s.sessions.row (c.openKey (synBit q.frame))).seen p.cpu) w := by
  obtain ⟨⟨-, hp⟩, hlater⟩ := List.forall_mem_cons.mp hopen
  have hkey := c.storable_openKey (synBit p.frame)
  obtain ⟨w, hw⟩ : ∃ w, p.wan s = some w := ⟨_, Packet.wan_eq hp.has⟩
  have hfirst : ∀ w', Owner p.tables (c.openKey (synBit p.frame))
      ((s.sessions.row (c.openKey (synBit p.frame))).seen p.cpu) w' ↔ w' = w := by
    intro w'
    rw [← Packet.wan_eq_some_iff hp.has hkey, hw, Option.some_inj, eq_comm]
  have hrun : TwoKeyRun c.openKey (fun q => synBit q.frame) p.cpu w later :=
    { storable := c.storable_openKey
      injective := c.openKey_injective
      packets := fun q hq => ⟨(hlater q hq).1, (hlater q hq).2.has, hlive q hq w hw⟩ }
  have hother : (!synBit p.frame) ≠ synBit p.frame := by simp
  -- the first packet leaves `w` in its own row and does not touch the other one
  rw [hw, hrun.wans_eq_iff (synBit p.frame) (Packet.shows_next hp.has hkey hw),
    Packet.row_next_of_ne hp.has (c.openKey_injective.ne hother)]
  simp only [hfirst, exists_eq_left]
  apply forall_congr'
  intro q
  apply imp_congr_right
  intro hq
  have hflip : synBit q.frame = !synBit p.frame := by
    have := List.find?_some hq
    cases hb : synBit q.frame <;> cases hb' : synBit p.frame <;> simp_all
  rw [hflip]

/-! ### Two WANs and a ring that moves -/

/-- 10.0.0.5:50000 to 93.184.216.34:443. -/
def webFlow : TcpFlow where
  srcIp := 0x0500000A
  dstIp := 0x22D8B85D
  srcPort := 0x50C3
  dstPort := 0xBB01

/-- An Ethernet frame of `webFlow` with this TCP flag byte. -/
def webFrame (flags : UInt8) : List UInt8 :=
  List.replicate 12 0 ++ [0x08, 0x00] ++ [0x45, 0, 0, 40, 0, 0, 0, 0, 64, 6, 0, 0, 10, 0, 0, 5, 93, 184, 216, 34] ++
    [0xC3, 0x50, 0x01, 0xBB, 0, 0, 0, 0, 0, 0, 0, 0, 0x50, flags, 0, 0, 0, 0, 0, 0]

/-- WANs 0 and 1 active with weight 10, and every ring slot held by `owner`. -/
def twoWanTables (owner : UInt32) : Tables where
  maglevLut := fun _ => owner
  wanTable := fun i => if i.val < 2 then { isActive := 1, weight := 10 } else {}

def webPacket (owner : UInt32) (cpu : Cpu) (flags : UInt8) : Packet where
  tables := twoWanTables owner
  cpu := cpu
  frame := webFrame flags

theorem webFlow_sends_syn : webFlow.Sends (webFrame 0x02) 0x02 := by
  show parseFrame _ = some _
  decide

theorem webFlow_sends_ack : webFlow.Sends (webFrame 0x10) 0x10 := by
  show parseFrame _ = some _
  decide

theorem webPackets_open (q : Packet)
    (hq : q ∈ [webPacket owner 0 0x02, webPacket owner' 0 0x10]) : q.cpu = 0 ∧ webFlow.Open q := by
  rcases List.mem_pair.mp hq with rfl | rfl
  · exact ⟨rfl, 0x02, webFlow_sends_syn, by decide⟩
  · exact ⟨rfl, 0x10, webFlow_sends_ack, by decide⟩

theorem webPacket_syn_wan : (webPacket 0 0 0x02).wan {} = some 0 := by decide

theorem twoWanTables_isLive_zero : isLive (twoWanTables 1) 0 = true := by decide

theorem tcpRun_sticky_iff_webFlow :
    (∀ o ∈ runWans ((webPacket 0 0 0x02).next {}) [webPacket 1 0 0x10], o = (webPacket 0 0 0x02).wan {}) ↔
      ∀ q, [webPacket 1 0 0x10].find? (fun q => synBit q.frame != synBit (webFrame 0x02)) = some q →
        ∃ w, Owner (twoWanTables 0) (webFlow.openKey (synBit (webFrame 0x02)))
            ((({} : RouterState).sessions.row (webFlow.openKey (synBit (webFrame 0x02)))).seen 0) w ∧
          Owner q.tables (webFlow.openKey (synBit q.frame))
            ((({} : RouterState).sessions.row (webFlow.openKey (synBit q.frame))).seen 0) w := by
  refine tcpRun_sticky_iff webFlow {} (webPacket 0 0 0x02) [webPacket 1 0 0x10] ?_ ?_
  · exact webPackets_open
  · intro q hq w hw
    obtain rfl := List.mem_singleton.mp hq
    obtain rfl := Option.some.inj (webPacket_syn_wan.symm.trans hw)
    exact twoWanTables_isLive_zero

/-- The ring moves to WAN 1 while WAN 0 stays up: the SYN went to WAN 0, the next packet of the same
    connection on the same CPU goes to WAN 1. -/
theorem webFlow_not_sticky :
    (∀ q ∈ [webPacket 0 0 0x02, webPacket 1 0 0x10], q.cpu = 0 ∧ webFlow.Open q) ∧
      (webPacket 0 0 0x02).wan {} = some 0 ∧ isLive (twoWanTables 1) 0 = true ∧
      ¬ ∀ o ∈ runWans ((webPacket 0 0 0x02).next {}) [webPacket 1 0 0x10], o = (webPacket 0 0 0x02).wan {} := by
  refine ⟨webPackets_open, webPacket_syn_wan, twoWanTables_isLive_zero, ?_⟩
  intro h
  have hack : (webPacket 1 0 0x10).wan ((webPacket 0 0 0x02).next {}) = some 1 := by decide
  have := h _ (List.mem_singleton.mpr rfl)
  rw [hack, webPacket_syn_wan] at this
  exact absurd this (by decide)

/-! ## Closing -/

/-- **What a FIN or RST clears.**  It is looked up under a key of its own, under which nothing is ever
    stored; so after it the tiers hold no entry of the connection, under any flags and on any CPU, if and
    only if before it they held none under the two keys of open packets. -/
theorem close_clears_iff (c : TcpFlow) {s : RouterState} (hs : Reachable s) (p : Packet) {flags : UInt8}
    (hp : c.Sends p.frame flags) (hclose : closes flags = true) :
    (∀ cpu flags', ((p.next s).sessions.row (c.key flags')).seen cpu = none) ↔
      ∀ cpu flags', closes flags' = false → (s.sessions.row (c.key flags')).seen cpu = none := by
  have hclosed : ∀ flags', closes flags' = true → s.sessions.row (c.key flags') = TierRow.empty := by
    intro flags' h
    refine (hs.row_ok _).storable.resolve_right fun hkey => ?_
    have := hkey.notClosing
    rw [c.isClosing_key, h] at this
    exact absurd this (by decide)
  -- no row of the connection moves
  have hrow : ∀ flags', (p.next s).sessions.row (c.key flags') = s.sessions.row (c.key flags') := by
    intro flags'
    by_cases hk : c.key flags' = c.key flags
    · rw [hk, Packet.row_next hp.has, hclosed flags hclose]
      exact TierRow.select_empty_of_closing (by rw [c.isClosing_key, hclose])
    · exact Packet.row_next_of_ne hp.has hk
  simp only [hrow]
  constructor
  · intro h cpu flags' _
    exact h cpu flags'
  · intro h cpu flags'
    by_cases hc : closes flags' = true
    · rw [hclosed flags' hc, TierRow.seen_empty]
    · exact h cpu flags' (by simpa using hc)

theorem webFlow_sends_fin : webFlow.Sends (webFrame 0x11) 0x11 := by
  show parseFrame _ = some _
  decide

theorem close_clears_iff_webFlow :
    (∀ cpu flags', (((webPacket 0 0 0x11).next {}).sessions.row (webFlow.key flags')).seen cpu = none) ↔
      ∀ cpu flags', closes flags' = false →
        (({} : RouterState).sessions.row (webFlow.key flags')).seen cpu = none :=
  close_clears_iff webFlow .init (webPacket 0 0 0x11) webFlow_sends_fin (by decide)

/-- A SYN, then a FIN: the session of the SYN is still there. -/
theorem webFlow_not_cleared :
    Reachable ((webPacket 0 0 0x02).next {}) ∧ webFlow.Sends (webFrame 0x11) 0x11 ∧
      closes 0x11 = true ∧
      ¬ ∀ cpu flags, (((webPacket 0 0 0x11).next ((webPacket 0 0 0x02).next {})).sessions.row
        (webFlow.key flags)).seen cpu = none := by
  refine ⟨Reachable.init.packet _, webFlow_sends_fin, by decide, ?_⟩
  intro h
  exact absurd (h 0 0x02) (by decide)

/-! ## Two CPUs -/

/-- The packet makes a session: it may be stored, and no live session is found for it. -/
structure Packet.Creates (p : Packet) (s : RouterState) (key : FlowKey) : Prop where
  has : p.Has key
  storable : Storable key
  noSession : ∀ w, ¬ Keeps p.tables ((s.sessions.row key).seen p.cpu) w

/-- What a CPU makes of the zero-filled value: WAN 0 while that is live. -/
theorem owner_zero_iff :
    Owner t key (some {}) w ↔
      isLive t 0 = true ∧ w = 0 ∨ isLive t 0 = false ∧ Steers t key w := by
  have hkeeps : ∀ w', Keeps t (some {}) w' ↔ isLive t 0 = true ∧ w' = 0 := by
    intro w'
    constructor
    · rintro ⟨v, hv, hlive, rfl⟩
      obtain rfl := Option.some.inj hv
      exact ⟨hlive, rfl⟩
    · rintro ⟨hlive, rfl⟩
      exact ⟨{}, rfl, hlive, rfl⟩
  unfold Owner
  simp only [hkeeps]
  by_cases hlive : isLive t 0 = true <;> simp [hlive]

/-- **A session seen from another CPU.**  A packet makes a session on one CPU; the next packet of the same
    key, on another CPU and with any other traffic in between, gets the same WAN if and only if WAN 0 is
    live and the tables steered the flow to WAN 0, or WAN 0 is not live and the tables steer it the same
    way again. -/
theorem crossCpu_same_iff {s : RouterState} (hs : Reachable s) (p q : Packet) (between : List Packet)
    (key : FlowKey) (hp : p.Creates s key) (hbetween : ∀ r ∈ between, ¬ r.Has key) (hq : q.Has key)
    (hcpu : q.cpu ≠ p.cpu) :
    q.wan (runState (p.next s) between) = p.wan s ↔
      isLive q.tables 0 = true ∧ Steers p.tables key 0 ∨
        isLive q.tables 0 = false ∧ ∃ w, Steers p.tables key w ∧ Steers q.tables key w := by
  have hnew := (hs.row_ok key).select_new hp.storable hp.noSession
  have hseen : ((runState (p.next s) between).sessions.row key).seen q.cpu = some {} := by
    rw [runState_row_of_not_has hbetween, Packet.row_next hp.has, hnew]
    exact TierRow.seen_write_empty hcpu
  rw [Packet.wan_eq hp.has, hnew, Packet.wan_eq_some_iff hq hp.storable, hseen, owner_zero_iff]
  simp only [steers_iff (t := p.tables), exists_eq_left]
  rw [eq_comm (a := dispatch p.tables key)]

theorem webPacket_creates : (webPacket 1 0 0x02).Creates {} (webFlow.openKey true) where
  has := webFlow_sends_syn.has
  storable := webFlow.storable_openKey true
  noSession := by
    rintro w ⟨v, hv, -⟩
    cases hv

theorem crossCpu_same_iff_webFlow :
    (webPacket 1 1 0x02).wan (runState ((webPacket 1 0 0x02).next {}) []) = (webPacket 1 0 0x02).wan {} ↔
      isLive (twoWanTables 1) 0 = true ∧ Steers (twoWanTables 1) (webFlow.openKey true) 0 ∨
        isLive (twoWanTables 1) 0 = false ∧ ∃ w, Steers (twoWanTables 1) (webFlow.openKey true) w ∧
          Steers (twoWanTables 1) (webFlow.openKey true) w :=
  crossCpu_same_iff .init (webPacket 1 0 0x02) (webPacket 1 1 0x02) [] (webFlow.openKey true)
    webPacket_creates (by simp) webFlow_sends_syn.has (by decide)

/-- The ring names WAN 1 throughout; the second packet of the same key, on CPU 1, reads the zero fill and
    goes to WAN 0. -/
theorem webFlow_crossCpu_differs :
    (webPacket 1 0 0x02).Creates {} (webFlow.openKey true) ∧
      (webPacket 1 1 0x02).Has (webFlow.openKey true) ∧
      (webPacket 1 1 0x02).tables = (webPacket 1 0 0x02).tables ∧
      (webPacket 1 1 0x02).wan ((webPacket 1 0 0x02).next {}) ≠ (webPacket 1 0 0x02).wan {} := by
  have hp : (webPacket 1 0 0x02).wan {} = some 1 := by decide
  have hq : (webPacket 1 1 0x02).wan ((webPacket 1 0 0x02).next {}) = some 0 := by decide
  refine ⟨webPacket_creates, webFlow_sends_syn.has, rfl, ?_⟩
  rw [hp, hq]
  decide

end FluxWAN.Xdp
