/-
  Packet-too-big reflection and the two lengths of a packet.

  An MTU limits the IP datagram: `tot_len` of the header.  The program compares it with the length of the
  FRAME, which is 14 bytes more, or more than that if the frame is padded.  So the datagrams in the 14 bytes
  below the MTU are bounced although they fit — and these are the sizes path MTU discovery settles on.

  The other side of the comparison is the answer itself: a frame of fewer than 42 bytes carries too little
  to quote, and one of fewer than 70 has to grow (`Reflectable`).  `fragNeeded_iff` puts the lengths
  together: the reflection does what an MTU means exactly when the two comparisons agree.
-/
import FluxWAN.Xdp.Checksum
import FluxWAN.Xdp.Stickiness

namespace FluxWAN.Xdp

open Bytes BpfMap OnesComplement

variable {tailroom : Nat} {frame : List UInt8} {key : FlowKey}

/-! ## The answer -/

/-- ICMP type 3, code 4 in an untagged frame without IP options, sent back where it came from. -/
def FragNeeded (r : XdpResult) : Prop :=
  r.action = .tx ∧ byteAt r.frame 23 = ipprotoIcmp ∧ byteAt r.frame 34 = 3 ∧ byteAt r.frame 35 = 4

theorem not_fragNeeded_of_pass {r : XdpResult} (h : r.action = .pass) : ¬ FragNeeded r := by
  rintro ⟨htx, -⟩
  rw [h] at htx
  cases htx

/-- Frames `send_icmp_too_big` can turn into its 70-byte answer. -/
def Reflectable (tailroom length : Nat) : Prop := 42 ≤ length ∧ 70 ≤ length + tailroom

instance (tailroom length : Nat) : Decidable (Reflectable tailroom length) :=
  inferInstanceAs (Decidable (_ ∧ _))

/-- `tot_len` of an untagged frame. -/
def totLen (frame : List UInt8) : Nat := (be16 frame 16).toNat

theorem adjustTail_eq_some (h : Reflectable tailroom frame.length) :
    ∃ frame', adjustTail tailroom frame (70 - (frame.length : Int)) = some frame' ∧
      frame'.length = 70 := by
  obtain ⟨h42, h70⟩ := h
  unfold adjustTail
  by_cases hshrink : (70 - (frame.length : Int)) ≤ 0
  · rw [if_pos hshrink, if_neg (by omega)]
    refine ⟨_, rfl, ?_⟩
    rw [List.length_take]
    omega
  · rw [if_neg hshrink, if_pos (by omega)]
    refine ⟨_, rfl, ?_⟩
    rw [List.length_append, List.length_replicate]
    omega

theorem length_updateIpChecksum (h : ip + 12 ≤ frame.length) : (updateIpChecksum frame ip).length = frame.length := by
  have hfit : ip + 10 + (bytes16 0).length ≤ frame.length := h
  simp only [updateIpChecksum]
  rw [length_store (by rw [length_store hfit]; exact h), length_store hfit]

/-- The first stores: Ethernet and IP header. -/
def answerHeader (g eth src dst : List UInt8) : List UInt8 :=
  let ip := store (store g 0 eth) 14
    ([0x45, 0] ++ bytes16 (htons 56) ++ bytes16 0 ++ bytes16 0 ++ [64, ipprotoIcmp])
  updateIpChecksum (store (store ip 26 src) 30 dst) 14

/-- The others: ICMP header and quote. -/
def answerIcmp (f quote : List UInt8) (mtu : UInt16) : List UInt8 :=
  let quoted := store (store f 34 ([3, 4] ++ bytes16 0 ++ bytes16 0 ++ bytes16 mtu)) 42 quote
  store quoted 36 (bytes16 (csumFoldHelper (wordSum quoted 34 18)))

/-- The header, part by part.  Each store keeps what the earlier ones put below it; the checksum is written
    last and is taken over all of the 20 bytes. -/
theorem answerHeader_parts {g eth src dst : List UInt8} (hg : g.length = 70) (heth : eth.length = 14)
    (hsrc : src.length = 4) (hdst : dst.length = 4) :
    (answerHeader g eth src dst).length = 70 ∧ slice (answerHeader g eth src dst) 0 14 = eth ∧
      slice (answerHeader g eth src dst) 14 10 =
        [0x45, 0] ++ bytes16 (htons 56) ++ bytes16 0 ++ bytes16 0 ++ [64, ipprotoIcmp] ∧ slice (answerHeader g eth src dst) 30 4 = dst ∧
      hostSum (slice (answerHeader g eth src dst) 14 20) % 65535 = 0 := by
  simp only [answerHeader]
  generalize hhead : ([0x45, 0] ++ bytes16 (htons 56) ++ bytes16 0 ++ bytes16 0 ++ [64, ipprotoIcmp]) = head
  have hheadLen : head.length = 10 := by rw [← hhead]; rfl
  have h₁ : (store g 0 eth).length = 70 := by rw [length_store (by omega), hg]
  have h₂ : (store (store g 0 eth) 14 head).length = 70 := by rw [length_store (by omega), h₁]
  have h₃ : (store (store (store g 0 eth) 14 head) 26 src).length = 70 := by rw [length_store (by omega), h₂]
  have h₄ : (store (store (store (store g 0 eth) 14 head) 26 src) 30 dst).length = 70 := by
    rw [length_store (by omega), h₃]
  refine ⟨?_, ?_, ?_, ?_, hostSum_updateIpChecksum (by omega)⟩
  · rw [length_updateIpChecksum (by omega), h₄]
  · rw [slice_updateIpChecksum_of_outside (by omega) (by omega),
      slice_store_of_outside (by omega) (by omega), slice_store_of_outside (by omega) (by omega),
      slice_store_of_outside (by omega) (by omega), ← heth]
    exact slice_store_self (by omega)
  · rw [slice_updateIpChecksum_of_outside (by omega) (by omega),
      slice_store_of_outside (by omega) (by omega), slice_store_of_outside (by omega) (by omega), ← hheadLen]
    exact slice_store_self (by omega)
  · rw [slice_updateIpChecksum_of_outside (by omega) (by omega), ← hdst]
    exact slice_store_self (by omega)

/-- The ICMP message, part by part, and what stands before it. -/
theorem answerIcmp_parts {f quote : List UInt8} (hf : f.length = 70) (hquote : quote.length = 28) :
    (answerIcmp f quote mtu).length = 70 ∧
      (∀ j n, j + n ≤ 34 → slice (answerIcmp f quote mtu) j n = slice f j n) ∧
      slice (answerIcmp f quote mtu) 34 2 = [3, 4] ∧ slice (answerIcmp f quote mtu) 40 2 = bytes16 mtu ∧
      slice (answerIcmp f quote mtu) 42 28 = quote ∧
      hostSum (slice (answerIcmp f quote mtu) 34 36) % 65535 = 0 := by
  simp only [answerIcmp]
  generalize hicmp : ([3, 4] ++ bytes16 0 ++ bytes16 0 ++ bytes16 mtu) = icmp
  have hicmpLen : icmp.length = 8 := by rw [← hicmp]; rfl
  have h₁ : (store f 34 icmp).length = 70 := by rw [length_store (by omega), hf]
  have h₂ : (store (store f 34 icmp) 42 quote).length = 70 := by rw [length_store (by omega), h₁]
  -- two bytes of the ICMP header, before the checksum is stored
  have hheader : ∀ k, k + 2 ≤ 8 → slice (store (store f 34 icmp) 42 quote) (34 + k) 2 = slice icmp k 2 := by
    intro k hk
    rw [slice_store_of_outside (by omega) (by omega), slice_store_of_inside (by omega) (by omega)]
  refine ⟨?_, ?_, ?_, ?_, ?_, ?_⟩
  · rw [length_store_bytes16 _ (by omega), h₂]
  · intro j n hj
    rw [slice_store_bytes16_of_outside _ (by omega) (by omega), slice_store_of_outside (by omega) (by omega),
      slice_store_of_outside (by omega) (by omega)]
  · rw [slice_store_bytes16_of_outside _ (by omega) (by omega), hheader 0 (by decide), ← hicmp]
    rfl
  · rw [slice_store_bytes16_of_outside _ (by omega) (by omega), hheader 6 (by decide), ← hicmp]
    rfl
  · rw [slice_store_bytes16_of_outside _ (by omega) (by omega), ← hquote]
    exact slice_store_self (by omega)
  · refine hostSum_store_checksum (k := 1) (n := 18) (by omega) (by decide) (by decide) ?_
    rw [hheader 2 (by decide), ← hicmp]
    rfl

theorem sendIcmpTooBig_eq_answer (h : Reflectable tailroom frame.length) (mtu : UInt32) :
    ∃ g : List UInt8, g.length = 70 ∧ sendIcmpTooBig tailroom frame mtu =
      (.tx, answerIcmp (answerHeader g (slice frame 6 6 ++ slice frame 0 6 ++ bytes16 (htons ethPIp))
        (slice frame 30 4) (slice frame 26 4)) (slice frame 14 28) (htons mtu.toUInt16)) := by
  obtain ⟨g, hadjust, hg⟩ := adjustTail_eq_some h
  have h42 := h.1
  refine ⟨g, hg, ?_⟩
  simp only [sendIcmpTooBig]
  rw [if_neg (by omega), if_neg (by omega), hadjust]
  simp only [hg]
  rw [if_neg (by omega)]
  rfl

theorem length_answerEth (h : 12 ≤ frame.length) :
    (slice frame 6 6 ++ slice frame 0 6 ++ bytes16 (htons ethPIp)).length = 14 := by
  rw [List.length_append, List.length_append, length_slice (by omega), length_slice (by omega)]
  rfl

/-- What becomes of a frame that is found too big. -/
theorem sendIcmpTooBig_cases (tailroom : Nat) (frame : List UInt8) (mtu : UInt32) :
    (Reflectable tailroom frame.length ∧ ∃ answer, sendIcmpTooBig tailroom frame mtu = (.tx, answer) ∧
        byteAt answer 23 = ipprotoIcmp ∧ byteAt answer 34 = 3 ∧ byteAt answer 35 = 4) ∨
      ¬ Reflectable tailroom frame.length ∧ sendIcmpTooBig tailroom frame mtu = (.pass, frame) := by
  by_cases hr : Reflectable tailroom frame.length
  · obtain ⟨g, hg, hsend⟩ := sendIcmpTooBig_eq_answer hr mtu
    have h42 := hr.1
    obtain ⟨hf, -, hhead, -, -⟩ := answerHeader_parts hg (length_answerEth (show 12 ≤ frame.length by omega))
      (length_slice (show 30 + 4 ≤ frame.length by omega)) (length_slice (show 26 + 4 ≤ frame.length by omega))
    obtain ⟨-, hfront, htype, -, -, -⟩ :=
      answerIcmp_parts hf (length_slice (show 14 + 28 ≤ frame.length by omega))
    refine .inl ⟨hr, _, hsend, ?_, ?_, ?_⟩
    · rw [← hfront 14 10 (by decide)] at hhead
      rw [show 23 = 14 + 9 from rfl, ← byteAt_slice (by decide : 9 < 10), hhead]
      rfl
    · rw [← Nat.add_zero 34, ← byteAt_slice (by decide : 0 < 2), htype]
      rfl
    · rw [show 35 = 34 + 1 from rfl, ← byteAt_slice (by decide : 1 < 2), htype]
      rfl
  · refine .inr ⟨hr, ?_⟩
    simp only [sendIcmpTooBig]
    by_cases h42 : 42 ≤ frame.length
    · have hshort : ¬ 70 ≤ frame.length + tailroom := fun h70 => hr ⟨h42, h70⟩
      rw [if_neg (by omega), if_neg (by omega), adjustTail, if_neg (by omega), if_neg (by omega)]
    · split
      · rfl
      · rw [if_pos (by omega)]

/-! ## When it is given -/

/-- The program's result for a packet. -/
def Packet.result (p : Packet) (s : RouterState) : XdpResult :=
  xdpRouterFunc p.tables p.tailroom p.cpu s p.frame

/-- A packet that reaches the selection ends in `finish`, with the WAN selected and no translation counted yet. -/
theorem Packet.result_eq_finish {p : Packet} (h : p.Has key) {s : RouterState} (hw : p.wan s = some w) :
    ∃ s', p.result s = finish p.tables p.tailroom p.cpu s' key p.frame w ∧ s'.wanStats = s.wanStats ∧
      ∀ c, (s'.globalStats c).totalSnatRewrites = (s.globalStats c).totalSnatRewrites := by
  have hsel : (selectWan p.tables p.cpu s.sessions key).1 = w := by
    rw [← Option.some_inj, ← hw]
    exact (xdpRouterFunc_of_routed _ _ _ h).1.symm
  obtain ⟨hparse, hping⟩ := h
  rw [← hsel]
  simp only [result, xdpRouterFunc, hparse, hping, Bool.false_eq_true, if_false]
  refine ⟨_, rfl, rfl, fun c => ?_⟩
  by_cases hc : c = p.cpu <;> simp [setCpu, countSelection, hc]

theorem fragNeeded_finish_iff {t : Tables} {w : UInt32} (hrow : t.wanTable.lookup w.toNat = some e) :
    FragNeeded (finish t tailroom cpu s key frame w) ↔
      exceedsMtu frame e = true ∧ Reflectable tailroom frame.length := by
  simp only [finish, hrow]
  by_cases hbig : exceedsMtu frame e = true
  · rw [if_pos hbig]
    rcases sendIcmpTooBig_cases tailroom frame e.mtu with ⟨hr, answer, hsend, hfields⟩ | ⟨hr, hsend⟩
    · simp only [hsend]
      exact ⟨fun _ => ⟨hbig, hr⟩, fun _ => ⟨rfl, hfields⟩⟩
    · simp only [hsend]
      exact ⟨fun h => absurd h (not_fragNeeded_of_pass rfl), fun h => absurd h.2 hr⟩
  · rw [if_neg hbig]
    exact ⟨fun h => absurd h (not_fragNeeded_of_pass rfl), fun h => absurd h.1 hbig⟩

theorem skipVlan_le (h : skipVlan frame cur proto = some (cur', proto')) : cur ≤ cur' := by
  unfold skipVlan at h
  split at h
  · split at h
    · cases h
    · obtain ⟨rfl, -⟩ := Prod.mk.inj (Option.some.inj h)
      omega
  · obtain ⟨rfl, -⟩ := Prod.mk.inj (Option.some.inj h)
    exact Nat.le_refl _

theorem parseEth_le (h : parseEth frame = some (cur, proto)) : 14 ≤ cur := by
  unfold parseEth at h
  split at h
  · cases h
  · obtain ⟨⟨cur₁, proto₁⟩, h₁, h₂⟩ := Option.bind_eq_some_iff.mp h
    exact Nat.le_trans (skipVlan_le h₁) (skipVlan_le h₂)

/-- A frame that parses has an Ethernet and an IPv4 header. -/
theorem length_of_parseFrame (h : parseFrame frame = some key) :
    34 ≤ frame.length := by
  obtain ⟨⟨cur, proto⟩, heth, h⟩ := Option.bind_eq_some_iff.mp h
  have hcur := parseEth_le heth
  simp only [ite_eq_iff, reduceCtorEq, and_false, false_or] at h
  obtain ⟨⟨cur', key'⟩, hip, -⟩ := Option.bind_eq_some_iff.mp h.2
  simp only [parseIpv4] at hip
  split at hip
  · cases hip
  · omega

/-- **When the MTU is respected.**  For every untagged packet with DF whose WAN has an MTU: the program
    bounces it exactly when its datagram exceeds the MTU, if and only if

    * where the datagram exceeds the MTU, the frame does too and can be turned into an answer; and
    * where it does not, neither does the frame, or it cannot be answered. -/
theorem fragNeeded_iff (s : RouterState) (p : Packet) (key : FlowKey) (w : UInt32) (e : BpfWanEntry)
    (hp : p.Has key) (hw : p.wan s = some w) (hrow : p.tables.wanTable.lookup w.toNat = some e)
    (hmtu : 0 < e.mtu) (huntagged : le16 p.frame 12 = htons ethPIp)
    (hdf : le16 p.frame 20 &&& htons 0x4000 ≠ 0) :
    (FragNeeded (p.result s) ↔ e.mtu.toNat < totLen p.frame) ↔
      (e.mtu.toNat < totLen p.frame →
        e.mtu.toNat < p.frame.length ∧ Reflectable p.tailroom p.frame.length) ∧
      (totLen p.frame ≤ e.mtu.toNat →
        p.frame.length ≤ e.mtu.toNat ∨ ¬ Reflectable p.tailroom p.frame.length) := by
  obtain ⟨s', hfinish, -⟩ := Packet.result_eq_finish hp hw
  have hlen := length_of_parseFrame hp.1
  have hexceeds : exceedsMtu p.frame e = true ↔ e.mtu.toNat < p.frame.length := by
    have h14 : 14 ≤ p.frame.length := by omega
    simp [exceedsMtu, hmtu, huntagged, hdf, h14, hlen]
  rw [hfinish, fragNeeded_finish_iff hrow, hexceeds]
  by_cases hbig : e.mtu.toNat < totLen p.frame
  · have hnot : ¬ totLen p.frame ≤ e.mtu.toNat := by omega
    simp only [hbig, hnot, iff_true, forall_const, false_implies, and_true]
  · have hfits : totLen p.frame ≤ e.mtu.toNat := by omega
    simp only [hbig, hfits, iff_false, false_implies, forall_const, true_and, not_and_or, Nat.not_lt]

/-- A UDP packet with DF, `n` bytes of payload and `pad` bytes of Ethernet padding. -/
def udpFrame (n pad : Nat) : List UInt8 :=
  List.replicate 12 0 ++ [0x08, 0x00] ++
    [0x45, 0, UInt8.ofNat ((28 + n) / 256), UInt8.ofNat (28 + n), 0, 0, 0x40, 0, 64, 17, 0, 0,
      10, 0, 0, 5, 93, 184, 216, 34] ++
    [0xC3, 0x50, 0x1F, 0x90, UInt8.ofNat ((8 + n) / 256), UInt8.ofNat (8 + n), 0, 0] ++ List.replicate (n + pad) 0

/-- Two WANs of MTU 1500. -/
def udpPacket (n pad : Nat) : Packet where
  tables :=
    { maglevLut := fun _ => 1
      wanTable := fun i => if i.val < 2 then { isActive := 1, weight := 10, mtu := 1500 } else {} }
  cpu := 0
  frame := udpFrame n pad

/-- 10.0.0.5:50000 to 93.184.216.34:8080. -/
def udpKey : FlowKey :=
  { srcIp := 0x0500000A, dstIp := 0x22D8B85D, srcPort := 0x50C3, dstPort := 0x901F, proto := ipprotoUdp }

theorem fragNeeded_iff_small :
    (FragNeeded ((udpPacket 100 0).result {}) ↔ 1500 < totLen (udpFrame 100 0)) ↔
      (1500 < totLen (udpFrame 100 0) →
        1500 < (udpFrame 100 0).length ∧ Reflectable 0 (udpFrame 100 0).length) ∧
      (totLen (udpFrame 100 0) ≤ 1500 →
        (udpFrame 100 0).length ≤ 1500 ∨ ¬ Reflectable 0 (udpFrame 100 0).length) :=
  fragNeeded_iff {} (udpPacket 100 0) udpKey 1 { isActive := 1, weight := 10, mtu := 1500 }
    ⟨by decide +kernel, rfl⟩ (by decide +kernel) rfl (by decide) (by decide +kernel) (by decide +kernel)

/-- A datagram of exactly 1500 bytes through a WAN of MTU 1500 is bounced. -/
theorem fragNeeded_of_fitting :
    (udpPacket 1472 0).Has udpKey ∧ (udpPacket 1472 0).wan {} = some 1 ∧
      (udpPacket 1472 0).tables.wanTable.lookup 1 = some { isActive := 1, weight := 10, mtu := 1500 } ∧
      le16 (udpFrame 1472 0) 12 = htons ethPIp ∧ le16 (udpFrame 1472 0) 20 &&& htons 0x4000 ≠ 0 ∧
      totLen (udpFrame 1472 0) = 1500 ∧
      ¬ (FragNeeded ((udpPacket 1472 0).result {}) ↔ 1500 < totLen (udpFrame 1472 0)) := by
  have hlen : totLen (udpFrame 1472 0) = 1500 := by decide
  have hanswer : FragNeeded ((udpPacket 1472 0).result {}) := by
    unfold FragNeeded
    decide +kernel
  refine ⟨⟨by decide +kernel, rfl⟩, by decide +kernel, rfl, by decide +kernel, by decide +kernel, hlen, ?_⟩
  rw [hlen]
  exact fun h => absurd (h.mp hanswer) (by decide)

end FluxWAN.Xdp
