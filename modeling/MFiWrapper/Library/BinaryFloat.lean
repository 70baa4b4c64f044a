import Mathlib.Algebra.Order.Field.Basic
import Mathlib.Algebra.Order.Field.Rat
import Mathlib.Algebra.Order.Ring.Abs
import Mathlib.Tactic.Linarith
import Mathlib.Tactic.NormNum
import Mathlib.Tactic.Ring

/-!
# Values of a binary floating-point format

The finite values of a format with `p` bits of precision and least exponent
`emin`, as rational numbers.  The largest exponent plays no role here.  The one
fact about rounding that is needed is the distance to the next value: a
constant that was rounded down when a program was compiled compares with the
values of the format as the constant before rounding does.
-/

namespace MFiWrapper
namespace Library

/-- `q` is a value with a `p`-bit significand and an exponent of at least `emin`. -/
def IsBinaryFloat (p : Nat) (emin : Int) (q : ℚ) : Prop :=
  ∃ m e : Int, |m| < 2 ^ p ∧ emin ≤ e ∧ q = m * 2 ^ e

variable {p : Nat} {emin : Int} {q : ℚ}

theorem isBinaryFloat_zero : IsBinaryFloat p emin 0 :=
  ⟨0, emin, by simp, le_rfl, by simp⟩

theorem IsBinaryFloat.neg (hFloat : IsBinaryFloat p emin q) : IsBinaryFloat p emin (-q) := by
  obtain ⟨m, e, hm, he, rfl⟩ := hFloat
  exact ⟨-m, e, by rwa [abs_neg], he, by push_cast; rw [neg_mul]⟩

/-- Above `k * 2 ^ g`, where `k` uses all `p` bits, the values are spaced by at
least `2 ^ g`. -/
theorem IsBinaryFloat.next_le (hFloat : IsBinaryFloat p emin q) {k g : Int}
    (hk : 2 ^ p ≤ 2 * k) (hLt : (k : ℚ) * 2 ^ g < q) : ((k + 1 : Int) : ℚ) * 2 ^ g ≤ q := by
  obtain ⟨m, e, hm, -, rfl⟩ := hFloat
  have hPow (n : Int) : (0 : ℚ) < 2 ^ n := zpow_pos (by norm_num) n
  by_cases hGrid : g ≤ e
  · -- a value on the grid is an integer multiple of the spacing
    obtain ⟨n, rfl⟩ := Int.le.dest hGrid
    have hScale : (m : ℚ) * 2 ^ (g + (n : Int)) = ((m * 2 ^ n : Int) : ℚ) * 2 ^ g := by
      rw [zpow_add₀ (by norm_num), zpow_natCast]
      push_cast
      rw [mul_comm ((2 : ℚ) ^ g), mul_assoc]
    rw [hScale] at hLt ⊢
    have hStep : k < m * 2 ^ n := by
      exact_mod_cast lt_of_mul_lt_mul_right hLt (hPow g).le
    exact mul_le_mul_of_nonneg_right (by exact_mod_cast hStep) (hPow g).le
  · -- a value off the grid is too small
    exfalso
    have hBelow : (m : ℚ) * 2 ^ e < k * 2 ^ g := by
      have hExp : (2 : ℚ) ^ e * 2 ≤ 2 ^ g := by
        rw [← zpow_add_one₀ (by norm_num)]
        exact zpow_le_zpow_right₀ (by norm_num) (by omega)
      have hMantissa : (m : ℚ) < 2 * k := by
        have hm' : m < 2 * k := lt_of_lt_of_le (lt_of_abs_lt hm) hk
        exact_mod_cast hm'
      have hk' : (0 : ℚ) ≤ k := by
        have hk'' : 0 ≤ k := by
          have := pow_pos (show (0 : Int) < 2 by decide) p
          omega
        exact_mod_cast hk''
      calc (m : ℚ) * 2 ^ e < 2 * k * 2 ^ e := mul_lt_mul_of_pos_right hMantissa (hPow e)
        _ = k * (2 ^ e * 2) := by ring
        _ ≤ k * 2 ^ g := mul_le_mul_of_nonneg_left hExp hk'
    exact lt_asymm hBelow hLt

/-- A constant `c` that lies between a value and the next one up separates the
values of the format as the lower value does. -/
theorem IsBinaryFloat.lt_iff (hFloat : IsBinaryFloat p emin q) {k g : Int} {c : ℚ}
    (hk : 2 ^ p ≤ 2 * k) (hLow : (k : ℚ) * 2 ^ g ≤ c) (hHigh : c < ((k + 1 : Int) : ℚ) * 2 ^ g) :
    (k : ℚ) * 2 ^ g < q ↔ c < q :=
  ⟨fun hLt => hHigh.trans_le (hFloat.next_le hk hLt), hLow.trans_lt⟩

end Library
end MFiWrapper
