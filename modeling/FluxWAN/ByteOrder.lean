/-
  Byte order.

  The daemon runs on a little-endian host and keeps addresses in network byte order.  `htonl` is its own
  inverse and commutes with masks.  Everything is decided bit by bit.
-/
import Mathlib.Tactic.IntervalCases
import FluxWAN.Config

namespace FluxWAN

theorem eq_of_bits {x y : UInt32} (h : ∀ i < 32, x.toBitVec.getLsbD i = y.toBitVec.getLsbD i) :
    x = y :=
  UInt32.toBitVec_inj.mp (BitVec.eq_of_getLsbD_eq h)

/-- Bit `i` of the swapped number, counted within its byte. -/
theorem getLsbD_htonl (x : UInt32) (hi : i < 32) :
    (htonl x).toBitVec.getLsbD i = x.toBitVec.getLsbD (8 * (3 - i / 8) + i % 8) := by
  unfold htonl
  simp only [UInt32.toBitVec_or, UInt32.toBitVec_shiftLeft, UInt32.toBitVec_shiftRight,
    UInt32.toBitVec_and, UInt32.toBitVec_ofNat, BitVec.getLsbD_or]
  interval_cases i <;> simp

theorem htonl_htonl (x : UInt32) : htonl (htonl x) = x := by
  refine eq_of_bits fun i hi => ?_
  have hback : 8 * (3 - (8 * (3 - i / 8) + i % 8) / 8) + (8 * (3 - i / 8) + i % 8) % 8 = i := by omega
  rw [getLsbD_htonl _ hi, getLsbD_htonl _ (by omega), hback]

theorem htonl_injective : Function.Injective htonl := by
  intro x y h
  rw [← htonl_htonl x, h, htonl_htonl]

theorem htonl_and (x y : UInt32) : htonl (x &&& y) = htonl x &&& htonl y := by
  refine eq_of_bits fun i hi => ?_
  rw [getLsbD_htonl _ hi, UInt32.toBitVec_and, UInt32.toBitVec_and, BitVec.getLsbD_and,
    BitVec.getLsbD_and, getLsbD_htonl _ hi, getLsbD_htonl _ hi]

end FluxWAN
