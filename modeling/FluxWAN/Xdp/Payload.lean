/-
  Two UDP packets that differ in their payload only.

  Which policy entry covers a packet, and whether its source is translated, should be a matter of its
  headers.  The program asks the flow KEY for the source, and on port 443 the key depends on the payload:
  with the QUIC bit the packet is hashed by its connection id, and with a non-zero token of that id the
  key has lost the source altogether.  So a payload is READ in one of three ways (`udpReading`):

  * not as QUIC — the key is that of the headers;
  * as QUIC without a token — the key keeps the source, but the flow hashes to another slot;
  * as QUIC with a token — the key's source is 0.0.0.0: policies for the sender do not apply, and 0.0.0.0
    is no LAN address, so nothing is translated.

  `sameTreatment_iff` compares two readings of one header, case by case.
-/
import FluxWAN.Xdp.GroupPolicy
import FluxWAN.Xdp.PathMtu

namespace FluxWAN.Xdp

open Bytes BpfMap

variable {cur udp j : Nat} {flow : FlowKey}

/-! ## Readings -/

/-- The key of the headers alone. -/
def udpHeaderKey (frame : List UInt8) (cur : Nat) (flow : FlowKey) : FlowKey :=
  { flow with srcPort := le16 frame cur, dstPort := le16 frame (cur + 2), pktFlags := 0, quicToken := 0 }

/-- How `parse_udp` reads the payload: the token of a QUIC packet. -/
def udpReading (frame : List UInt8) (cur : Nat) : Option UInt16 :=
  if (le16 frame (cur + 2) = 0xBB01 ∨ le16 frame cur = 0xBB01) ∧ cur + 8 + 1 ≤ frame.length ∧
      byteAt frame (cur + 8) &&& 0x40 ≠ 0 then
    some ((quicDcid frame (cur + 8)).elim 0 fun d =>
      quicToken (byteAt frame d) (byteAt frame (d + 1)) (byteAt frame (d + 2)))
  else none

/-- What a reading makes of the key. -/
def FlowKey.readAs (key : FlowKey) : Option UInt16 → FlowKey
  | none => key
  | some token =>
    if token ≠ 0 then
      { key with pktFlags := pktFlagQuic, quicToken := token, srcIp := 0, srcPort := 0 }
    else { key with pktFlags := pktFlagQuic }

/-- The reading hides the source. -/
def Hides (r : Option UInt16) : Prop := ∃ token, r = some token ∧ token ≠ 0

theorem parseUdp_eq {frame : List UInt8} (h : cur + 8 ≤ frame.length) :
    parseUdp frame cur flow = some ((udpHeaderKey frame cur flow).readAs (udpReading frame cur)) := by
  simp only [parseUdp, udpReading]
  rw [if_neg (by omega)]
  split
  · simp only [FlowKey.readAs]
    split <;> rfl
  · rfl

section
variable {key : FlowKey} {r : Option UInt16}

theorem FlowKey.srcIp_readAs_of_hides (h : Hides r) : (key.readAs r).srcIp = 0 := by
  obtain ⟨token, rfl, htoken⟩ := h
  simp only [readAs, if_pos htoken]

theorem FlowKey.srcIp_readAs_of_not_hides (h : ¬ Hides r) : (key.readAs r).srcIp = key.srcIp := by
  cases r with
  | none => rfl
  | some token =>
    have htoken : ¬ token ≠ 0 := fun hne => h ⟨token, rfl, hne⟩
    simp only [readAs, if_neg htoken]

@[simp] theorem FlowKey.proto_readAs : (key.readAs r).proto = key.proto := by
  cases r with
  | none => rfl
  | some token => simp only [readAs]; split <;> rfl

end

/-! ## Frames with the same headers -/

/-- An IPv4 frame whose UDP header, behind Ethernet, VLAN tags and IP options, starts at `udp`. -/
def UdpFrame (frame : List UInt8) (udp : Nat) (flow : FlowKey) : Prop :=
  ∃ ip, parseEth frame = some (ip, htons ethPIp) ∧ parseIpv4 frame ip = some (udp, flow) ∧
    flow.proto = ipprotoUdp ∧ udp + 8 ≤ frame.length

theorem UdpFrame.parseFrame_eq (h : UdpFrame frame udp flow) :
    parseFrame frame = some ((udpHeaderKey frame udp flow).readAs (udpReading frame udp)) := by
  obtain ⟨ip, heth, hip, hproto, hlen⟩ := h
  simp only [parseFrame, heth, Option.bind_some, ne_eq, not_true_eq_false, if_false, hip, hproto, if_true]
  exact parseUdp_eq hlen

section
variable {frame frame' : List UInt8} {n : Nat}

theorem byteAt_of_take_eq (h : frame'.take n = frame.take n) (hj : j < n) :
    byteAt frame' j = byteAt frame j := by
  have hget : (frame'.take n)[j]? = (frame.take n)[j]? := by rw [h]
  rw [List.getElem?_take_of_lt hj, List.getElem?_take_of_lt hj] at hget
  simp only [byteAt, List.getD_eq_getElem?_getD, hget]

theorem le16_of_take_eq (h : frame'.take n = frame.take n) (hj : j + 1 < n) :
    le16 frame' j = le16 frame j := by
  unfold le16
  rw [byteAt_of_take_eq h (show j < n by omega), byteAt_of_take_eq h hj]

theorem le32_of_take_eq (h : frame'.take n = frame.take n) (hj : j + 3 < n) :
    le32 frame' j = le32 frame j := by
  have hrange : List.range 4 = [0, 1, 2, 3] := rfl
  simp only [le32, hrange, List.foldr_cons, List.foldr_nil]
  rw [byteAt_of_take_eq h (show j + 0 < n by omega), byteAt_of_take_eq h (show j + 1 < n by omega),
    byteAt_of_take_eq h (show j + 2 < n by omega), byteAt_of_take_eq h hj]

theorem skipVlan_of_take_eq (hlen : frame'.length = frame.length) (h : frame'.take n = frame.take n)
    (hskip : skipVlan frame cur proto = some (cur', proto'))
    (hn : cur' ≤ n) : skipVlan frame' cur proto = some (cur', proto') := by
  unfold skipVlan at hskip ⊢
  split at hskip
  · rename_i htag
    rw [if_pos htag, hlen]
    split at hskip
    · cases hskip
    · rename_i hfit
      obtain ⟨rfl, rfl⟩ := Prod.mk.inj (Option.some.inj hskip)
      rw [if_neg hfit, le16_of_take_eq h (by omega)]
  · rename_i htag
    rw [if_neg htag]
    exact hskip

theorem parseEth_of_take_eq (hlen : frame'.length = frame.length) (h : frame'.take n = frame.take n)
    (heth : parseEth frame = some (cur, proto)) (hn : cur ≤ n) :
    parseEth frame' = some (cur, proto) := by
  have hcur := parseEth_le heth
  unfold parseEth at heth ⊢
  rw [hlen]
  split at heth
  · cases heth
  · rename_i hfit
    obtain ⟨⟨cur₁, proto₁⟩, h₁, h₂⟩ := Option.bind_eq_some_iff.mp heth
    have hle := skipVlan_le h₂
    rw [if_neg hfit, le16_of_take_eq h (by omega),
      skipVlan_of_take_eq hlen h h₁ (Nat.le_trans hle hn), Option.bind_some]
    exact skipVlan_of_take_eq hlen h h₂ hn

theorem parseIpv4_of_take_eq (hlen : frame'.length = frame.length) (h : frame'.take n = frame.take n)
    (hn : cur + 20 ≤ n) : parseIpv4 frame' cur = parseIpv4 frame cur := by
  simp only [parseIpv4]
  rw [hlen, byteAt_of_take_eq h (show cur < n by omega), byteAt_of_take_eq h (show cur + 9 < n by omega),
    le32_of_take_eq h (show cur + 12 + 3 < n by omega), le32_of_take_eq h (show cur + 16 + 3 < n by omega)]

theorem parseIpv4_le (h : parseIpv4 frame cur = some (udp, flow)) :
    cur + 20 ≤ udp := by
  simp only [parseIpv4] at h
  split at h
  · cases h
  · split at h
    · cases h
    · rename_i hver
      split at h
      · cases h
      · obtain ⟨hudp, -⟩ := Prod.mk.inj (Option.some.inj h)
        have hihl : 5 ≤ (byteAt frame cur &&& 0x0F).toNat := by
          have := (not_or.mp hver).2
          exact Nat.not_lt.mp fun hlt => this (UInt8.lt_iff_toNat_lt.mpr hlt)
        omega

/-- Equal up to the payload: the same UDP header. -/
theorem UdpFrame.of_take_eq (hu : UdpFrame frame udp flow)
    (hlen : frame'.length = frame.length) (h : frame'.take (udp + 8) = frame.take (udp + 8)) :
    UdpFrame frame' udp flow ∧ udpHeaderKey frame' udp flow = udpHeaderKey frame udp flow := by
  obtain ⟨ip, heth, hip, hproto, hfit⟩ := hu
  have hudp := parseIpv4_le hip
  refine ⟨⟨ip, parseEth_of_take_eq hlen h heth (by omega), ?_, hproto, by omega⟩, ?_⟩
  · rw [parseIpv4_of_take_eq hlen h (by omega)]
    exact hip
  · unfold udpHeaderKey
    rw [le16_of_take_eq h (show udp + 1 < udp + 8 by omega), le16_of_take_eq h (show udp + 2 + 1 < udp + 8 by omega)]

end

/-! ## Policy and translation -/

/-- `apply_snat` does not turn the frame away. -/
def snatFits (frame : List UInt8) : Bool :=
  14 + 20 ≤ frame.length && byteAt frame 14 >>> 4 = 4 && !(byteAt frame 14 &&& 0x0F < 5)

/-- The policy entry that covers a packet. -/
def Packet.policy (p : Packet) : Option Nat :=
  (parseFrame p.frame).bind fun key => firstPolicy p.tables key.srcIp

/-- The packet's source is rewritten: `apply_snat` is called, which is counted, and stores an address. -/
def Packet.Rewritten (p : Packet) (s : RouterState) : Prop :=
  ((p.result s).state.globalStats p.cpu).totalSnatRewrites ≠
    (s.globalStats p.cpu).totalSnatRewrites ∧ snatFits p.frame = true

/-- Packets of this frame's size leave through WAN `w` with its address. -/
def translates (t : Tables) (frame : List UInt8) (w : UInt32) : Bool :=
  t.ctrl.snatEnabled ≠ 0 && rowSatisfies t (fun e => !exceedsMtu frame e && e.isActive ≠ 0 && e.ipAddr ≠ 0) w.toNat

/-- Step 6 counts a translation exactly where it makes one. -/
theorem finish_totalSnatRewrites (t : Tables) (s : RouterState) (key : FlowKey) (w : UInt32) :
    ((finish t tailroom cpu s key frame w).state.globalStats cpu).totalSnatRewrites =
      if translates t frame w = true ∧ isLan key.srcIp = true then
        (s.globalStats cpu).totalSnatRewrites + 1
      else (s.globalStats cpu).totalSnatRewrites := by
  unfold finish translates rowSatisfies
  rcases t.wanTable.lookup w.toNat with _ | e
  · simp
  · by_cases hbig : exceedsMtu frame e = true
    · simp [hbig]
    · by_cases hsnat : t.ctrl.snatEnabled ≠ 0 ∧ e.isActive ≠ 0 ∧ e.ipAddr ≠ 0 ∧ isLan key.srcIp = true
      · obtain ⟨h₁, h₂, h₃, h₄⟩ := hsnat
        simp [hbig, setCpu, h₁, h₂, h₃, h₄]
      · have hnot : ¬ (((t.ctrl.snatEnabled ≠ 0 &&
            (some e).any fun e => !exceedsMtu frame e && e.isActive ≠ 0 && e.ipAddr ≠ 0) = true) ∧
            isLan key.srcIp = true) := by
          rintro ⟨h, hlan⟩
          simp [hbig] at h
          exact hsnat ⟨h.1, h.2.1, h.2.2, hlan⟩
        simp only [if_neg hnot, hbig, Bool.false_eq_true, if_false, setCpu, if_true, if_neg hsnat]

/-- A packet that is routed: the global count moves by the call. -/
theorem Packet.totalSnatRewrites_next {p : Packet} {s : RouterState} {key : FlowKey} (hp : p.Has key)
    (hw : p.wan s = some w) (c : Cpu) :
    ((p.next s).globalStats c).totalSnatRewrites =
      if c = p.cpu ∧ translates p.tables p.frame w = true ∧ isLan key.srcIp = true then
        (s.globalStats c).totalSnatRewrites + 1
      else (s.globalStats c).totalSnatRewrites := by
  obtain ⟨s', hresult, -, hcount⟩ := result_eq_finish hp hw
  show ((p.result s).state.globalStats c).totalSnatRewrites = _
  rw [hresult, ← hcount]
  by_cases hc : c = p.cpu
  · rw [hc, finish_totalSnatRewrites]
    simp only [true_and]
  · rw [if_neg fun h => hc h.1]
    unfold finish
    split
    · rfl
    · split
      · rfl
      · simp only [setCpu, if_neg hc]

theorem Packet.rewritten_iff {p : Packet} {key : FlowKey} (hp : p.Has key) (hw : p.wan s = some w) :
    p.Rewritten s ↔
      snatFits p.frame = true ∧ translates p.tables p.frame w = true ∧ isLan key.srcIp = true := by
  have hcount : ((p.result s).state.globalStats p.cpu).totalSnatRewrites = _ := totalSnatRewrites_next hp hw p.cpu
  unfold Rewritten
  rw [hcount]
  simp only [true_and]
  by_cases h : translates p.tables p.frame w = true ∧ isLan key.srcIp = true
  · simp [h]
  · simp only [if_neg h, ne_eq, not_true_eq_false, false_and, false_iff]
    exact fun h' => h h'.2

/-- Packets with this header, dispatched under this key, leave with the address of their WAN. -/
def Leaves (t : Tables) (frame : List UInt8) (key : FlowKey) : Prop :=
  snatFits frame = true ∧ isLan key.srcIp = true ∧ ∃ w, Steers t key w ∧ translates t frame w = true

/-- Without sessions the tables decide. -/
theorem Packet.rewritten_iff_leaves {p : Packet} {s : RouterState} (hp : p.Has key)
    (hs : s.sessions = {}) : p.Rewritten s ↔ Leaves p.tables p.frame key := by
  have hnone : (s.sessions.row key).seen p.cpu = none := by rw [hs]; rfl
  have hsteers := steers_iff.mpr (rfl : dispatch p.tables key = _)
  rw [Packet.rewritten_iff hp ((Packet.wan_eq_some_iff_steers hp hnone).mpr hsteers), Leaves]
  simp only [steers_iff, exists_eq_left]
  rw [and_comm (a := translates _ _ _ = true)]

/-- A hidden source is no LAN address. -/
theorem not_leaves_of_hides {key : FlowKey} (h : Hides r) : ¬ Leaves t frame (key.readAs r) := by
  rintro ⟨-, hlan, -⟩
  rw [FlowKey.srcIp_readAs_of_hides h] at hlan
  exact absurd hlan (by decide)

/-- The translation looks at nothing behind the headers. -/
theorem leaves_of_take_eq {frame frame' : List UInt8} (hlen : frame'.length = frame.length)
    (h : frame'.take n = frame.take n) (hn : 22 ≤ n) (t : Tables) (key : FlowKey) :
    Leaves t frame' key ↔ Leaves t frame key := by
  have hfits : snatFits frame' = snatFits frame := by
    unfold snatFits
    rw [hlen, byteAt_of_take_eq h (show 14 < n by omega)]
  have hmtu : exceedsMtu frame' = exceedsMtu frame := by
    funext e
    unfold exceedsMtu
    rw [hlen, le16_of_take_eq h (show 12 + 1 < n by omega), le16_of_take_eq h (show 14 + 6 + 1 < n by omega)]
  unfold Leaves translates
  rw [hfits, hmtu]

/-- A UDP packet in terms of its header and the reading of its payload. -/
theorem UdpFrame.treated {p : Packet} {s : RouterState} (hu : UdpFrame p.frame udp flow) (hs : s.sessions = {}) :
    let key := (udpHeaderKey p.frame udp flow).readAs (udpReading p.frame udp)
    p.policy = firstPolicy p.tables key.srcIp ∧ (p.Rewritten s ↔ Leaves p.tables p.frame key) := by
  intro key
  have hping : pingsRouter p.tables key = false := by
    obtain ⟨-, -, -, hproto, -⟩ := hu
    simp only [key, pingsRouter, FlowKey.proto_readAs, udpHeaderKey, hproto]
    rfl
  refine ⟨?_, Packet.rewritten_iff_leaves ⟨hu.parseFrame_eq, hping⟩ hs⟩
  rw [Packet.policy, hu.parseFrame_eq, Option.bind_some]

/-- Both packets match the same policy entry, and both or neither have their source rewritten. -/
structure SameTreatment (p p' : Packet) (s : RouterState) : Prop where
  policy : p.policy = p'.policy
  snat : p.Rewritten s ↔ p'.Rewritten s

/-- **When the payload makes no difference.**  Two UDP packets with the same headers, without sessions and
    under the same maps, are treated alike exactly when

    * both payloads hide the source;
    * or neither does, and both or neither leave with the address of the WAN their own key is sent to;
    * or one does, the policies have the same answer for the sender and for 0.0.0.0, and the other one
      does not leave with the address of its WAN. -/
theorem sameTreatment_iff (p : Packet) (frame' : List UInt8) (udp : Nat) (flow : FlowKey)
    (s : RouterState) (hu : UdpFrame p.frame udp flow) (hlen : frame'.length = p.frame.length)
    (hhead : frame'.take (udp + 8) = p.frame.take (udp + 8)) (hs : s.sessions = {}) :
    let key := udpHeaderKey p.frame udp flow
    let r := udpReading p.frame udp
    let r' := udpReading frame' udp
    SameTreatment p { p with frame := frame' } s ↔
      Hides r ∧ Hides r' ∨
      ¬ Hides r ∧ ¬ Hides r' ∧
        (Leaves p.tables p.frame (key.readAs r) ↔ Leaves p.tables p.frame (key.readAs r')) ∨
      (Hides r ∧ ¬ Hides r' ∧ ¬ Leaves p.tables p.frame (key.readAs r') ∨
          Hides r' ∧ ¬ Hides r ∧ ¬ Leaves p.tables p.frame (key.readAs r)) ∧
        firstPolicy p.tables key.srcIp = firstPolicy p.tables 0 := by
  intro key r r'
  obtain ⟨hu', hkey⟩ := hu.of_take_eq hlen hhead
  have hlong : 22 ≤ udp + 8 := by
    obtain ⟨ip, heth, hip, -⟩ := hu
    have := parseEth_le heth
    have := parseIpv4_le hip
    omega
  obtain ⟨hpolicy, hsnat⟩ := hu.treated hs
  obtain ⟨hpolicy', hsnat'⟩ := UdpFrame.treated (p := { p with frame := frame' }) hu' hs
  rw [hkey] at hpolicy' hsnat'
  rw [leaves_of_take_eq hlen hhead hlong] at hsnat'
  have hsplit : SameTreatment p { p with frame := frame' } s ↔
      firstPolicy p.tables (key.readAs r).srcIp = firstPolicy p.tables (key.readAs r').srcIp ∧
        (Leaves p.tables p.frame (key.readAs r) ↔ Leaves p.tables p.frame (key.readAs r')) := by
    rw [← hpolicy, ← hpolicy', ← hsnat, ← hsnat']
    exact ⟨fun h => ⟨h.policy, h.snat⟩, fun h => ⟨h.1, h.2⟩⟩
  rw [hsplit]
  by_cases h : Hides r
  · have hleaves : ¬ Leaves p.tables p.frame (key.readAs r) := not_leaves_of_hides h
    by_cases h' : Hides r'
    · have hleaves' : ¬ Leaves p.tables p.frame (key.readAs r') := not_leaves_of_hides h'
      simp [FlowKey.srcIp_readAs_of_hides h, FlowKey.srcIp_readAs_of_hides h', h, h', hleaves, hleaves']
    · simp only [FlowKey.srcIp_readAs_of_hides h, FlowKey.srcIp_readAs_of_not_hides h']
      simp [h, h', hleaves, and_comm, eq_comm]
  · by_cases h' : Hides r'
    · have hleaves' : ¬ Leaves p.tables p.frame (key.readAs r') := not_leaves_of_hides h'
      simp only [FlowKey.srcIp_readAs_of_not_hides h, FlowKey.srcIp_readAs_of_hides h']
      simp [h, h', hleaves', and_comm]
    · simp [FlowKey.srcIp_readAs_of_not_hides h, FlowKey.srcIp_readAs_of_not_hides h', h, h']

/-- A UDP packet from 10.0.0.5:50000 to port 443 of 93.184.216.34 with five bytes of payload. -/
def port443Frame (payload : UInt8) : List UInt8 :=
  List.replicate 12 0 ++ [0x08, 0x00] ++ [0x45, 0, 0, 33, 0, 0, 0, 0, 64, 17, 0, 0, 10, 0, 0, 5, 93, 184, 216, 34] ++
    [0xC3, 0x50, 0x01, 0xBB, 0, 13, 0, 0] ++ List.replicate 5 payload

/-- 10.0.0.0/8 is assigned to group 1, and both WANs translate. -/
def port443Packet (payload : UInt8) : Packet where
  tables :=
    { maglevLut := fun _ => 1
      wanTable := fun i => if i.val < 2 then { isActive := 1, weight := 10, ipAddr := 0x08080808 } else {}
      policyRoute := fun i =>
        if i.val = 0 then { subnetIp := 0x0000000A, netmask := 0x000000FF, targetGroup := 1, isActive := 1 }
        else {}
      ctrl := { snatEnabled := 1 } }
  cpu := 0
  frame := port443Frame payload

theorem sameTreatment_iff_port443 :
    let key := udpHeaderKey (port443Frame 0) 34
      { srcIp := 0x0500000A, dstIp := 0x22D8B85D, proto := ipprotoUdp }
    let r := udpReading (port443Frame 0) 34
    let r' := udpReading (port443Frame 0x40) 34
    let t := (port443Packet 0).tables
    SameTreatment (port443Packet 0) (port443Packet 0x40) {} ↔
      Hides r ∧ Hides r' ∨
      ¬ Hides r ∧ ¬ Hides r' ∧
        (Leaves t (port443Frame 0) (key.readAs r) ↔ Leaves t (port443Frame 0) (key.readAs r')) ∨
      (Hides r ∧ ¬ Hides r' ∧ ¬ Leaves t (port443Frame 0) (key.readAs r') ∨
          Hides r' ∧ ¬ Hides r ∧ ¬ Leaves t (port443Frame 0) (key.readAs r)) ∧
        firstPolicy t key.srcIp = firstPolicy t 0 :=
  sameTreatment_iff (port443Packet 0) (port443Frame 0x40) 34 _ {} ⟨14, by decide⟩ rfl rfl rfl

/-- Five bytes 0x40 are read as QUIC with a token: the packet escapes the policy of its sender, and its
    source is not rewritten; five bytes 0 are covered and rewritten. -/
theorem port443_not_sameTreatment :
    (port443Frame 0x40).length = (port443Frame 0).length ∧
      (port443Frame 0x40).take 42 = (port443Frame 0).take 42 ∧
      (port443Packet 0).policy = some 0 ∧ (port443Packet 0x40).policy = none ∧
      (port443Packet 0).Rewritten {} ∧ ¬ (port443Packet 0x40).Rewritten {} ∧
      ¬ SameTreatment (port443Packet 0) (port443Packet 0x40) {} := by
  have hpolicy : (port443Packet 0).policy = some 0 := by decide
  have hpolicy' : (port443Packet 0x40).policy = none := by decide
  refine ⟨rfl, rfl, hpolicy, hpolicy', ?_, ?_, ?_⟩
  · unfold Packet.Rewritten
    decide
  · unfold Packet.Rewritten
    decide
  · intro h
    have hsame := h.policy
    rw [hpolicy, hpolicy'] at hsame
    cases hsame

end FluxWAN.Xdp
