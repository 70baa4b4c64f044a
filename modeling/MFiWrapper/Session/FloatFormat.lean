import MFiWrapper.Backend.AxisRounding
import MFiWrapper.Frontend.InputState

/-!
# Numbers on the wire

The drivers are modelled in exact arithmetic, and the numbers of an input state travel as
floats.  How a number that was computed exactly becomes the bits that are sent may depend
on the controller and on the field: this covers a single rounding when a state is sent, and
the roundings of the code at each of its operations.
-/

namespace MFiWrapper

open Library Frontend HIDPad

/-- What the program relies on where numbers are sent as floats.  Only numbers between -1
and 1 are. -/
structure Conversion (ofBits : UInt32 → ℚ) (toBits : ℚ → UInt32) : Prop where
  isFloat : ∀ value : ℚ, |value| ≤ 1 → IsFloat (ofBits (toBits value))
  mono : ∀ x y : ℚ, -1 ≤ x → x ≤ y → y ≤ 1 → ofBits (toBits x) ≤ ofBits (toBits y)
  neg_one : ofBits (toBits (-1)) = -1
  zero : ofBits (toBits 0) = 0
  one : ofBits (toBits 1) = 1

/-- The conversion of the numbers computed to floats, field by field for the states under
each handle, and back. -/
structure FloatFormat where
  toBits : UInt32 → MFiWInputStatePacket (ℚ → UInt32)
  ofBits : UInt32 → ℚ
  conversion : ∀ handle, ∀ field ∈ (toBits handle).fields, Conversion ofBits field

namespace FloatFormat

/-- The floats that arrive for numbers. -/
def round (format : FloatFormat) (handle : UInt32) : MFiWInputStatePacket (ℚ → ℚ) :=
  (format.toBits handle).map fun field value => format.ofBits (field value)

/-- A float that arrives was converted in one of the fields. -/
theorem round_fields (format : FloatFormat) (handle : UInt32) :
    ∀ field ∈ (format.round handle).fields, ∃ toBits, Conversion format.ofBits toBits ∧
      field = fun value => format.ofBits (toBits value) := by
  intro field hMem
  have hMapped : field ∈ (format.toBits handle).fields.map fun toBits value =>
      format.ofBits (toBits value) := hMem
  obtain ⟨toBits, hToBits, rfl⟩ := List.mem_map.mp hMapped
  exact ⟨toBits, format.conversion handle toBits hToBits, rfl⟩

/-! ## Single precision -/

/-- The bit of the sign above the bits of the magnitude. -/
def toBinary32 (value : ℚ) : UInt32 :=
  UInt32.ofNat (if value < 0 then 2 ^ 31 + encodeMagnitude 23 (-149) (-value)
    else encodeMagnitude 23 (-149) value)

def ofBinary32 (bits : UInt32) : ℚ :=
  if bits.toNat < 2 ^ 31 then decodeMagnitude 23 (-149) bits.toNat
  else -decodeMagnitude 23 (-149) (bits.toNat - 2 ^ 31)

theorem unitExponent_one : unitExponent 23 (-149) 1 = -23 := by
  rw [unitExponent, if_pos, Int.log_one_right]
  · rfl
  · exact zpow_le_one_of_nonpos₀ one_le_two (by norm_num)

theorem encodeMagnitude_one : encodeMagnitude 23 (-149) 1 = 127 * 2 ^ 23 := by
  have hUnit : (1 : ℚ) / 2 ^ (-23 : Int) = (2 ^ 23 : Nat) := by
    rw [zpow_neg, one_div, inv_inv]
    rfl
  rw [encodeMagnitude, unitExponent_one, hUnit, halfEven_natCast]
  decide

theorem encodeMagnitude_lt {value : ℚ} (hValue : value ≤ 1) :
    encodeMagnitude 23 (-149) value < 2 ^ 31 := by
  have hMono : encodeMagnitude 23 (-149) value ≤ encodeMagnitude 23 (-149) 1 :=
    encodeMagnitude_mono hValue
  rw [encodeMagnitude_one] at hMono
  omega

/-- The bits carry the nearest float. -/
theorem ofBinary32_toBinary32 {value : ℚ} (hValue : |value| ≤ 1) :
    ofBinary32 (toBinary32 value) = single value := by
  obtain ⟨hLow, hHigh⟩ := abs_le.mp hValue
  have hMinus : -value ≤ 1 := by linarith
  rw [ofBinary32, toBinary32, single, nearest]
  split_ifs with hNegative hSign hSign
  · have hLt := encodeMagnitude_lt hMinus
    rw [UInt32.toNat_ofNat_of_lt' (by simp only [UInt32.size]; omega)] at hSign
    omega
  · have hLt := encodeMagnitude_lt hMinus
    rw [UInt32.toNat_ofNat_of_lt' (by simp only [UInt32.size]; omega), Nat.add_sub_cancel_left]
  · have hLt := encodeMagnitude_lt hHigh
    rw [UInt32.toNat_ofNat_of_lt' (by simp only [UInt32.size]; omega)]
  · have hLt := encodeMagnitude_lt hHigh
    rw [UInt32.toNat_ofNat_of_lt' (by simp only [UInt32.size]; omega)] at hSign
    omega

/-- The numbers may be changed before they are converted. -/
theorem conversion_toBinary32 {change : ℚ → ℚ} (hMono : Monotone change)
    (hNegOne : change (-1) = -1) (hZero : change 0 = 0) (hOne : change 1 = 1) :
    Conversion ofBinary32 fun value => toBinary32 (change value) := by
  have hRange {value : ℚ} (hLow : -1 ≤ value) (hHigh : value ≤ 1) : |change value| ≤ 1 :=
    abs_le.mpr ⟨hNegOne ▸ hMono hLow, hOne ▸ hMono hHigh⟩
  constructor
  · intro value hValue
    obtain ⟨hLow, hHigh⟩ := abs_le.mp hValue
    rw [ofBinary32_toBinary32 (hRange hLow hHigh)]
    exact isBinaryFloat_nearest _
  · intro x y hLow hLe hHigh
    rw [ofBinary32_toBinary32 (hRange hLow (hLe.trans hHigh)),
      ofBinary32_toBinary32 (hRange (hLow.trans hLe) hHigh)]
    exact single_mono (hMono hLe)
  · rw [hNegOne, ofBinary32_toBinary32 (by norm_num), single_neg, single_one]
  · rw [hZero, ofBinary32_toBinary32 (by norm_num), single_zero]
  · rw [hOne, ofBinary32_toBinary32 (by norm_num), single_one]

/-- Single precision, with one rounding to nearest, ties to even, when a state is sent. -/
def binary32 : FloatFormat where
  toBits _ := .all toBinary32
  ofBits := ofBinary32
  conversion _ := by
    simp only [MFiWInputStatePacket.fields, MFiWInputStatePacket.all, List.forall_mem_cons,
      List.not_mem_nil, false_imp_iff, implies_true, and_true, and_self]
    exact conversion_toBinary32 monotone_id rfl rfl rfl

/-! ## The roundings of the code -/

/-- The bits of an axis that `CalculateAxis` returns. -/
def axisBits (reading : ℚ) : UInt32 := toBinary32 (singleAxis reading)

/-- The bits of an axis that a driver has inverted. -/
def invertedAxisBits (value : ℚ) : UInt32 := toBinary32 (-singleAxis (-value))

/-- What arrives of an axis is what the code has computed. -/
theorem ofBinary32_axisBits {reading : ℚ} (hReading : |reading| ≤ 1) :
    ofBinary32 (axisBits reading) = singleAxis reading := by
  rw [axisBits, ofBinary32_toBinary32 (abs_singleAxis_le_one hReading), single_singleAxis]

/-- What arrives of an axis that was inverted is what the code has made of it. -/
theorem ofBinary32_invertedAxisBits {reading : ℚ} (hReading : |reading| ≤ 1) :
    ofBinary32 (invertedAxisBits (0 - reading)) = 0 - singleAxis reading := by
  have hRange : |-singleAxis reading| ≤ 1 := by
    rw [abs_neg]
    exact abs_singleAxis_le_one hReading
  rw [invertedAxisBits, zero_sub, neg_neg, ofBinary32_toBinary32 hRange, single_neg,
    single_singleAxis, zero_sub]

theorem conversion_axisBits : Conversion ofBinary32 axisBits :=
  conversion_toBinary32 (fun _ _ hLe => singleAxis_mono hLe) singleAxis_neg_one singleAxis_zero
    singleAxis_one

theorem conversion_invertedAxisBits : Conversion ofBinary32 invertedAxisBits := by
  refine conversion_toBinary32 (fun _ _ hLe => ?_) ?_ ?_ ?_
  · exact neg_le_neg (singleAxis_mono (neg_le_neg hLe))
  · rw [neg_neg, singleAxis_one]
  · rw [neg_zero, singleAxis_zero, neg_zero]
  · rw [singleAxis_neg_one, neg_neg]

/-- Single precision as the drivers compute: the sticks are rounded at each operation of
`CalculateAxis`, and the drivers of some handles invert the Y axes of what it returns. -/
def perOperation (inverts : UInt32 → Bool) : FloatFormat where
  toBits handle := { MFiWInputStatePacket.all toBinary32 with
    leftStickX := axisBits
    leftStickY := if inverts handle then invertedAxisBits else axisBits
    rightStickX := axisBits
    rightStickY := if inverts handle then invertedAxisBits else axisBits }
  ofBits := ofBinary32
  conversion handle := by
    have hPlain : Conversion ofBinary32 toBinary32 :=
      conversion_toBinary32 monotone_id rfl rfl rfl
    have hY : Conversion ofBinary32 (if inverts handle then invertedAxisBits else axisBits) := by
      split_ifs
      · exact conversion_invertedAxisBits
      · exact conversion_axisBits
    simp only [MFiWInputStatePacket.fields, MFiWInputStatePacket.all, List.forall_mem_cons,
      List.not_mem_nil, false_imp_iff, implies_true, and_true]
    exact ⟨hPlain, hPlain, hPlain, hPlain, hPlain, hPlain, hPlain, hPlain, conversion_axisBits,
      hY, conversion_axisBits, hY, hPlain, hPlain, hPlain, hPlain, hPlain, hPlain⟩

/-- A stick of a DualShock 4 just above its dead zone: the code sends other bits than a
single rounding of the exact value would. -/
example : (calculateAxis 99 ⟨0, 100, 155, 255⟩).map (fun reading =>
    (invertedAxisBits (0 - reading), toBinary32 (0 - reading))) =
      some (0x3C23D700, 0x3C23D70A) := by decide +kernel

end FloatFormat
end MFiWrapper
