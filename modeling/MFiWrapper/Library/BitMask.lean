import Mathlib.Data.Finset.Basic
import Mathlib.Data.Fintype.Basic

/-!
# Sets as bit masks

A set of options is coded as the bitwise or of one constant per option, and an
option is tested by the bitwise and with its constant.  The test answers for
the options whose constants meet; if all constants are the same it only tells
whether the set is empty.
-/

namespace MFiWrapper
namespace Library

variable {ι : Type*}

/-- The bitwise or of the constants of the options. -/
def maskOf (bit : ι → UInt32) (options : List ι) : UInt32 :=
  options.foldr (fun option mask => bit option ||| mask) 0

variable {bit : ι → UInt32}

@[simp] theorem maskOf_nil : maskOf bit [] = 0 := rfl

@[simp] theorem maskOf_cons (option : ι) (options : List ι) :
    maskOf bit (option :: options) = bit option ||| maskOf bit options := rfl

/-- If the constants are the same, so are the masks of all non-empty lists. -/
theorem maskOf_const {b : UInt32} (hConst : ∀ option, bit option = b) {options : List ι}
    (hNonempty : options ≠ []) : maskOf bit options = b := by
  induction options with
  | nil => exact absurd rfl hNonempty
  | cons option options ih =>
      rw [maskOf_cons, hConst]
      -- the constant of the last option, or the same constant twice
      by_cases hRest : options = []
      · rw [hRest, maskOf_nil, UInt32.or_zero]
      · rw [ih hRest, UInt32.or_self]

/-- With one non-zero constant for all options, the test only tells whether the
set is empty. -/
theorem test_maskOf_const {b : UInt32} (hConst : ∀ option, bit option = b) (hBit : b ≠ 0)
    (options : List ι) (option : ι) :
    maskOf bit options &&& bit option ≠ 0 ↔ options ≠ [] := by
  by_cases hEmpty : options = []
  · simp [hEmpty]
  · rw [maskOf_const hConst hEmpty, hConst, UInt32.and_self]
    exact iff_of_true hBit hEmpty

end Library
end MFiWrapper
