/-
  The answer to a packet that is too big.

  `send_icmp_too_big` builds its 70 bytes in the buffer of the packet it quotes: Ethernet and IP header first,
  over the old ones, then the ICMP header and the quote over what followed.  The quote survives because the 28
  bytes were copied before.  Both checksums are taken over everything they cover, so both verify for every
  packet (`tooBigAnswer_of_tx`).
-/
import FluxWAN.Xdp.PathMtu

namespace FluxWAN.Xdp

open Bytes BpfMap OnesComplement

/-- The frame `out` tells the sender of `frame` to use datagrams of at most `mtu` bytes. -/
structure TooBigAnswer (frame : List UInt8) (mtu : UInt32) (out : List UInt8) : Prop where
  length : out.length = 70
  destMac : slice out 0 6 = slice frame 6 6
  destIp : slice out 30 4 = slice frame 26 4
  ipChecksum : ipHeaderLen out 14 = 20 ∧ Verifies (slice out 14 20)
  icmpChecksum : Verifies (slice out 34 36)
  type : byteAt out 34 = 3 ∧ byteAt out 35 = 4
  nextHopMtu : (be16 out 40).toNat = mtu.toNat
  quote : slice out 42 28 = slice frame 14 28

/-- **Every answer is right.**  Whatever packet of at least 28 bytes is answered, and for every MTU that the
    16-bit field can hold: 70 bytes, back to the sender, both checksums correct, with the MTU of the WAN and
    the first 28 bytes of the datagram. -/
theorem tooBigAnswer_of_tx (tailroom : Nat) (frame : List UInt8) (mtu : UInt32) (out : List UInt8)
    (hmtu : mtu.toNat < 65536) (h : sendIcmpTooBig tailroom frame mtu = (.tx, out)) :
    TooBigAnswer frame mtu out := by
  have hr : Reflectable tailroom frame.length := by
    rcases sendIcmpTooBig_cases tailroom frame mtu with ⟨hr, -⟩ | ⟨-, hpass⟩
    · exact hr
    · rw [hpass] at h
      cases h
  have hlen := hr.1
  obtain ⟨g, hg, hsend⟩ := sendIcmpTooBig_eq_answer hr mtu
  have hout := (Prod.mk.inj (h.symm.trans hsend)).2
  obtain ⟨hf, hmacs, hversion, hdst, hipsum⟩ := answerHeader_parts hg (length_answerEth (show 12 ≤ frame.length by omega))
    (length_slice (show 30 + 4 ≤ frame.length by omega)) (length_slice (show 26 + 4 ≤ frame.length by omega))
  obtain ⟨hout70, hfront, htype, hnext, hquote, hicmpsum⟩ :=
    answerIcmp_parts hf (length_slice (show 14 + 28 ≤ frame.length by omega))
  rw [← hout] at hout70 hfront htype hnext hquote hicmpsum
  rw [← hfront 0 14 (by decide)] at hmacs
  rw [← hfront 14 10 (by decide)] at hversion
  rw [← hfront 30 4 (by decide)] at hdst
  rw [← hfront 14 20 (by decide)] at hipsum
  have hvihl : byteAt out 14 = 0x45 := by
    rw [← Nat.add_zero 14, ← byteAt_slice (by decide : 0 < 10), hversion]
    rfl
  have h34 : ∀ k < 2, byteAt out (34 + k) = byteAt [3, 4] k := by
    intro k hk
    rw [← byteAt_slice hk, htype]
  refine ⟨hout70, ?_, hdst, ⟨?_, ?_⟩, ?_, ⟨h34 0 (by decide), h34 1 (by decide)⟩, ?_, hquote⟩
  · rw [show (14 : Nat) = 6 + 8 from rfl, slice_add, List.append_assoc] at hmacs
    refine (List.append_inj hmacs ?_).1
    rw [length_slice (by omega), length_slice (by omega)]
  · rw [ipHeaderLen, hvihl]
    decide
  · rw [verifies_iff]
    refine ⟨hostSum_header_pos (by omega) (by decide) ?_, hipsum⟩
    rw [hvihl]
    decide
  · rw [verifies_iff]
    refine ⟨hostSum_pos (b := byteAt out 34) ?_ ?_, hicmpsum⟩
    · rw [slice_succ (by omega)]
      exact List.mem_cons_self
    · rw [h34 0 (by decide)]
      decide
  · rw [be16_of_htons hnext, UInt32.toNat_toUInt16]
    omega

theorem udpFrame_tooBig_tx : (sendIcmpTooBig 0 (udpFrame 40 0) 68).1 = .tx := by decide

/-- A datagram of 68 bytes, in a frame of 82, is answered for an MTU of 68. -/
theorem tooBigAnswer_of_tx_udp :
    TooBigAnswer (udpFrame 40 0) 68 (sendIcmpTooBig 0 (udpFrame 40 0) 68).2 :=
  tooBigAnswer_of_tx 0 (udpFrame 40 0) 68 _ (by decide) (Prod.ext udpFrame_tooBig_tx rfl)

end FluxWAN.Xdp
