import Mathlib.Data.Nat.Digits.Lemmas
import Mathlib.Tactic.Ring

/-!
# Little-endian integers

Fixed-width little-endian encoding of a natural number and the value of a byte
string of any length.  The lemma that matters for incremental readers is
`readLE_take`: the value of the first `k` bytes of an integer is the integer
modulo `256 ^ k`, which is what a reader sees of a length field that has only
partly arrived.
-/

namespace MFiWrapper
namespace Library

/-- The `width` low-order bytes of `value`, least significant byte first. -/
def writeLE : Nat → Nat → List UInt8
  | 0, _ => []
  | width + 1, value => UInt8.ofNat value :: writeLE width (value / 256)

/-- The value of a byte string, least significant byte first. -/
def readLE (bytes : List UInt8) : Nat :=
  Nat.ofDigits 256 (bytes.map UInt8.toNat)

@[simp] theorem readLE_nil : readLE [] = 0 := rfl

theorem readLE_cons (byte : UInt8) (bytes : List UInt8) :
    readLE (byte :: bytes) = byte.toNat + 256 * readLE bytes := by
  simp [readLE, Nat.ofDigits_cons]

@[simp] theorem writeLE_length (width value : Nat) :
    (writeLE width value).length = width := by
  induction width generalizing value with
  | zero => rfl
  | succ width ih => simp [writeLE, ih]

/-- Reading back loses exactly the bits that do not fit the width. -/
theorem readLE_writeLE (width value : Nat) :
    readLE (writeLE width value) = value % 256 ^ width := by
  induction width generalizing value with
  | zero => simp [writeLE, Nat.mod_one]
  | succ width ih =>
      have hByte : (UInt8.ofNat value).toNat = value % 256 := UInt8.toNat_ofNat'
      rw [writeLE, readLE_cons, ih, hByte, pow_succ', Nat.mod_mul]

theorem readLE_writeLE_of_lt {width value : Nat} (hValue : value < 256 ^ width) :
    readLE (writeLE width value) = value := by
  rw [readLE_writeLE, Nat.mod_eq_of_lt hValue]

/-- The bytes of the value of a byte string. -/
theorem writeLE_readLE (bytes : List UInt8) : writeLE bytes.length (readLE bytes) = bytes := by
  induction bytes with
  | nil => rfl
  | cons byte bytes ih =>
      have hByte := byte.toNat_lt
      have hLow : UInt8.ofNat (byte.toNat + 256 * readLE bytes) = byte := by
        rw [← UInt8.toNat_inj, UInt8.toNat_ofNat']
        omega
      have hHigh : (byte.toNat + 256 * readLE bytes) / 256 = readLE bytes := by omega
      rw [readLE_cons, List.length_cons, writeLE, hLow, hHigh, ih]

theorem readLE_append (front back : List UInt8) :
    readLE (front ++ back) = readLE front + 256 ^ front.length * readLE back := by
  simp [readLE, Nat.ofDigits_append]

/-- Bytes that have not arrived and read as zero do not change the value. -/
@[simp] theorem readLE_append_zeros (bytes : List UInt8) (count : Nat) :
    readLE (bytes ++ List.replicate count 0) = readLE bytes := by
  have hZeros : readLE (List.replicate count 0) = 0 := by
    induction count with
    | zero => rfl
    | succ count ih => rw [List.replicate_succ, readLE_cons, ih]; rfl
  rw [readLE_append, hZeros, Nat.mul_zero, Nat.add_zero]

theorem readLE_lt (bytes : List UInt8) : readLE bytes < 256 ^ bytes.length := by
  induction bytes with
  | nil => simp
  | cons byte bytes ih =>
      have hByte := byte.toNat_lt
      rw [readLE_cons, List.length_cons, pow_succ]
      omega

/-- What a reader makes of an integer field of which only `k` bytes are
there. -/
theorem readLE_take (bytes : List UInt8) (k : Nat) :
    readLE (bytes.take k) = readLE bytes % 256 ^ k := by
  rcases Nat.le_total bytes.length k with hAll | hSome
  · have hValue := (readLE_lt bytes).trans_le (Nat.pow_le_pow_right (by decide) hAll)
    rw [List.take_of_length_le hAll, Nat.mod_eq_of_lt hValue]
  · have hLength : (bytes.take k).length = k := by
      rw [List.length_take, Nat.min_eq_left hSome]
    have hPart : readLE (bytes.take k) < 256 ^ k := by
      have hBound := readLE_lt (bytes.take k)
      rwa [hLength] at hBound
    calc
      readLE (bytes.take k) = readLE (bytes.take k) % 256 ^ k := (Nat.mod_eq_of_lt hPart).symm
      _ = (readLE (bytes.take k) + 256 ^ k * readLE (bytes.drop k)) % 256 ^ k := by
        rw [Nat.add_mul_mod_self_left]
      _ = readLE (bytes.take k ++ bytes.drop k) % 256 ^ k := by
        rw [readLE_append, hLength]
      _ = readLE bytes % 256 ^ k := by rw [List.take_append_drop]

end Library
end MFiWrapper
