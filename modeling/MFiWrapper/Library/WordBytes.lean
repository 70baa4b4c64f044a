import Mathlib.Tactic.Basic
import MFiWrapper.Library.LittleEndian

/-!
# A 16-bit word as two bytes

A test of a word with a mask that lies in one of its bytes is the same test of that
byte.
-/

namespace MFiWrapper
namespace Library

/-- The word with a high and a low byte. -/
def wordOf (hi lo : UInt8) : UInt16 := ⟨hi.toBitVec ++ lo.toBitVec⟩

theorem toNat_wordOf (hi lo : UInt8) : (wordOf hi lo).toNat = 256 * hi.toNat + lo.toNat := by
  have hLo : lo.toNat < 2 ^ 8 := lo.toNat_lt
  calc (wordOf hi lo).toNat
      = hi.toNat <<< 8 ||| lo.toNat := BitVec.toNat_append hi.toBitVec lo.toBitVec
    _ = 2 ^ 8 * hi.toNat ||| lo.toNat := by rw [Nat.shiftLeft_eq, Nat.mul_comm]
    _ = 256 * hi.toNat + lo.toNat := (Nat.two_pow_add_eq_or_of_lt hLo hi.toNat).symm

theorem ofNat_readLE_pair (hi lo : UInt8) : UInt16.ofNat (readLE [lo, hi]) = wordOf hi lo := by
  have hHi := hi.toNat_lt
  have hLo := lo.toNat_lt
  rw [← UInt16.toNat_inj, toNat_wordOf, UInt16.toNat_ofNat']
  simp only [readLE_cons, readLE_nil]
  omega

/-- The bytes of a word. -/
theorem wordOf_bytes (word : UInt16) : wordOf (word >>> 8).toUInt8 word.toUInt8 = word := by
  have hWord := word.toNat_lt
  have hShift : (word >>> 8).toNat = word.toNat / 256 := Nat.shiftRight_eq_div_pow word.toNat 8
  rw [← UInt16.toNat_inj, toNat_wordOf, UInt16.toNat_toUInt8, UInt16.toNat_toUInt8, hShift]
  omega

theorem not_wordOf (hi lo : UInt8) : ~~~(wordOf hi lo) = wordOf (~~~hi) (~~~lo) :=
  UInt16.eq_of_toBitVec_eq BitVec.not_append

theorem wordOf_and_wordOf (hi lo hi' lo' : UInt8) :
    wordOf hi lo &&& wordOf hi' lo' = wordOf (hi &&& hi') (lo &&& lo') :=
  UInt16.eq_of_toBitVec_eq BitVec.and_append

theorem wordOf_eq_zero {hi lo : UInt8} : wordOf hi lo = 0 ↔ hi = 0 ∧ lo = 0 := by
  rw [← UInt16.toNat_inj, toNat_wordOf, ← UInt8.toNat_inj, ← UInt8.toNat_inj]
  show 256 * hi.toNat + lo.toNat = 0 ↔ hi.toNat = 0 ∧ lo.toNat = 0
  omega

/-- A test of the low byte. -/
theorem wordOf_test_low (hi lo mask : UInt8) : wordOf hi lo &&& wordOf 0 mask ≠ 0 ↔ lo &&& mask ≠ 0 := by
  rw [wordOf_and_wordOf, UInt8.and_zero, Ne, wordOf_eq_zero, and_iff_right rfl]

/-- A test of the high byte. -/
theorem wordOf_test_high (hi lo mask : UInt8) :
    wordOf hi lo &&& wordOf mask 0 ≠ 0 ↔ hi &&& mask ≠ 0 := by
  rw [wordOf_and_wordOf, UInt8.and_zero, Ne, wordOf_eq_zero, and_iff_left rfl]

end Library
end MFiWrapper
