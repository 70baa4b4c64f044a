import Mathlib.Algebra.Order.Field.Basic
import Mathlib.Tactic.Linarith

/-!
# Scaling a reading around a dead zone

`deadZone c₀ c₁ c₂ c₃ v` is the usual reading of an analog axis: zero inside
the dead zone `[c₁, c₂]`, minus one and one beyond the outer range `[c₀, c₃]`,
and linear in between.  The facts used of it are that it stays within the unit
interval, that its sign tells the side of the dead zone, and that widening the
outer range never makes the reading of a value in range larger in absolute value.

A reading is made of two ramps, one on each side of the dead zone; that it never
falls, and where it is zero, minus one and one, follows from the same facts about
a ramp.
-/

namespace MFiWrapper
namespace Library

variable {K : Type*} [Field K] [LinearOrder K]

/-- The reading of `v` for the outer range `[c₀, c₃]` and the dead zone
`[c₁, c₂]`. -/
def deadZone (c₀ c₁ c₂ c₃ v : K) : K :=
  if v < c₀ then -1
  else if c₃ < v then 1
  else if c₁ ≤ v ∧ v ≤ c₂ then 0
  else if v < c₁ then -(1 - (v - c₀) / (c₁ - c₀))
  else (v - c₂) / (c₃ - c₂)

variable {c₀ c₁ c₂ c₃ v : K}

theorem deadZone_of_dead (h₀ : c₀ ≤ v) (h₃ : v ≤ c₃) (h₁ : c₁ ≤ v) (h₂ : v ≤ c₂) :
    deadZone c₀ c₁ c₂ c₃ v = 0 := by
  rw [deadZone, if_neg h₀.not_gt, if_neg h₃.not_gt, if_pos ⟨h₁, h₂⟩]

theorem deadZone_of_above (h₀ : c₀ ≤ v) (h₁ : c₁ ≤ v) (h₂ : c₂ < v) (h₃ : v ≤ c₃) :
    deadZone c₀ c₁ c₂ c₃ v = (v - c₂) / (c₃ - c₂) := by
  rw [deadZone, if_neg h₀.not_gt, if_neg h₃.not_gt, if_neg fun hDead => hDead.2.not_gt h₂,
    if_neg h₁.not_gt]

variable [IsStrictOrderedRing K]

/-- Below the dead zone the reading is the distance to it, as a share of the
room there is. -/
theorem deadZone_of_below (h₀ : c₀ ≤ v) (h₁ : v < c₁) (h₃ : v ≤ c₃) :
    deadZone c₀ c₁ c₂ c₃ v = -((c₁ - v) / (c₁ - c₀)) := by
  have hRoom : c₁ - c₀ ≠ 0 := (sub_pos.mpr (h₀.trans_lt h₁)).ne'
  rw [deadZone, if_neg h₀.not_gt, if_neg h₃.not_gt, if_neg fun hDead => hDead.1.not_gt h₁,
    if_pos h₁, one_sub_div hRoom, sub_sub_sub_cancel_right]

/-- The sign of a reading tells the side of the dead zone. -/
theorem deadZone_neg (h₁ : v < c₁) (h₃ : c₁ ≤ c₃) : deadZone c₀ c₁ c₂ c₃ v < 0 := by
  by_cases h₀ : v < c₀
  · rw [deadZone, if_pos h₀]
    exact neg_one_lt_zero
  · rw [not_lt] at h₀
    rw [deadZone_of_below h₀ h₁ (h₁.le.trans h₃), neg_lt_zero]
    exact div_pos (sub_pos.mpr h₁) (sub_pos.mpr (h₀.trans_lt h₁))

theorem deadZone_pos (h₀ : c₀ ≤ c₂) (h₁ : c₁ ≤ c₂) (h₂ : c₂ < v) :
    0 < deadZone c₀ c₁ c₂ c₃ v := by
  by_cases h₃ : c₃ < v
  · rw [deadZone, if_neg (h₀.trans h₂.le).not_gt, if_pos h₃]
    exact zero_lt_one
  · rw [not_lt] at h₃
    rw [deadZone_of_above (h₀.trans h₂.le) (h₁.trans h₂.le) h₂ h₃]
    exact div_pos (sub_pos.mpr h₂) (sub_pos.mpr (h₂.trans_le h₃))

/-- A distance `d` from the edge of the dead zone, scaled to the room `r`. -/
theorem abs_share_le_one {d r : K} (hd : 0 ≤ d) (hdr : d ≤ r) : |d / r| ≤ 1 := by
  rw [abs_of_nonneg (div_nonneg hd (hd.trans hdr))]
  exact div_le_one_of_le₀ hdr (hd.trans hdr)

theorem abs_share_antitone {d r r' : K} (hd : 0 ≤ d) (hr : 0 < r) (hrr' : r ≤ r') :
    |d / r'| ≤ |d / r| := by
  rw [abs_of_nonneg (div_nonneg hd (hr.le.trans hrr')), abs_of_nonneg (div_nonneg hd hr.le)]
  exact div_le_div_of_nonneg_left hd hr hrr'

/-- Every reading lies in the unit interval, whatever the calibration. -/
theorem abs_deadZone_le_one (c₀ c₁ c₂ c₃ v : K) : |deadZone c₀ c₁ c₂ c₃ v| ≤ 1 := by
  by_cases h₀ : v < c₀
  · rw [deadZone, if_pos h₀, abs_neg, abs_one]
  by_cases h₃ : c₃ < v
  · rw [deadZone, if_neg h₀, if_pos h₃, abs_one]
  rw [not_lt] at h₀ h₃
  by_cases h₁ : v < c₁
  · rw [deadZone_of_below h₀ h₁ h₃, abs_neg]
    exact abs_share_le_one (by linarith) (by linarith)
  rw [not_lt] at h₁
  by_cases h₂ : v ≤ c₂
  · rw [deadZone_of_dead h₀ h₃ h₁ h₂, abs_zero]
    exact zero_le_one
  · rw [not_le] at h₂
    rw [deadZone_of_above h₀ h₁ h₂ h₃]
    exact abs_share_le_one (by linarith) (by linarith)

/-- Widening the outer range around the same dead zone never enlarges the
reading of a value that was in range. -/
theorem abs_deadZone_widen {c₀' c₃' : K} (hLow : c₀' ≤ c₀) (hHigh : c₃ ≤ c₃')
    (h₀ : c₀ ≤ v) (h₃ : v ≤ c₃) :
    |deadZone c₀' c₁ c₂ c₃' v| ≤ |deadZone c₀ c₁ c₂ c₃ v| := by
  have h₀' : c₀' ≤ v := hLow.trans h₀
  have h₃' : v ≤ c₃' := h₃.trans hHigh
  by_cases h₁ : v < c₁
  · rw [deadZone_of_below h₀ h₁ h₃, deadZone_of_below h₀' h₁ h₃', abs_neg, abs_neg]
    exact abs_share_antitone (by linarith) (by linarith) (by linarith)
  rw [not_lt] at h₁
  by_cases h₂ : v ≤ c₂
  · rw [deadZone_of_dead h₀ h₃ h₁ h₂, deadZone_of_dead h₀' h₃' h₁ h₂]
  · rw [not_le] at h₂
    rw [deadZone_of_above h₀ h₁ h₂ h₃, deadZone_of_above h₀' h₁ h₂ h₃']
    exact abs_share_antitone (by linarith) (by linarith) (by linarith)

/-! ## Ramps -/

/-- Zero up to `a`, one from `b` on, and linear in between. -/
def ramp (a b v : K) : K := (max a (min b v) - a) / (b - a)

section Ramp

variable {a b : K}

omit [IsStrictOrderedRing K] in
theorem ramp_of_le (hv : v ≤ a) : ramp a b v = 0 := by
  rw [ramp, max_eq_left ((min_le_right b v).trans hv), sub_self, zero_div]

omit [IsStrictOrderedRing K] in
theorem ramp_of_mem (ha : a ≤ v) (hb : v ≤ b) : ramp a b v = (v - a) / (b - a) := by
  rw [ramp, min_eq_right hb, max_eq_right ha]

theorem ramp_of_ge (hab : a < b) (hv : b ≤ v) : ramp a b v = 1 := by
  rw [ramp, min_eq_left hv, max_eq_right hab.le, div_self (sub_pos.mpr hab).ne']

theorem ramp_monotone (hab : a < b) : Monotone (ramp a b) := by
  intro v w hvw
  have hCut : max a (min b v) ≤ max a (min b w) := max_le_max le_rfl (min_le_min le_rfl hvw)
  exact div_le_div_of_nonneg_right (sub_le_sub_right hCut a) (sub_pos.mpr hab).le

theorem ramp_strictMonoOn (hab : a < b) : StrictMonoOn (ramp a b) (Set.Icc a b) := by
  rintro v ⟨hav, hvb⟩ w ⟨haw, hwb⟩ hvw
  rw [ramp_of_mem hav hvb, ramp_of_mem haw hwb]
  exact div_lt_div_of_pos_right (sub_lt_sub_right hvw a) (sub_pos.mpr hab)

theorem ramp_nonneg (hab : a < b) (v : K) : 0 ≤ ramp a b v :=
  div_nonneg (sub_nonneg.mpr (le_max_left _ _)) (sub_pos.mpr hab).le

theorem ramp_le_one (hab : a < b) (v : K) : ramp a b v ≤ 1 := by
  have hCut : max a (min b v) ≤ b := max_le hab.le (min_le_left b v)
  exact div_le_one_of_le₀ (sub_le_sub_right hCut a) (sub_pos.mpr hab).le

theorem ramp_pos_iff (hab : a < b) : 0 < ramp a b v ↔ a < v := by
  constructor
  · intro hPos
    by_contra hNot
    rw [ramp_of_le (not_lt.mp hNot)] at hPos
    exact hPos.false
  · intro hav
    rcases le_total v b with hvb | hbv
    · rw [ramp_of_mem hav.le hvb]
      exact div_pos (sub_pos.mpr hav) (sub_pos.mpr hab)
    · rw [ramp_of_ge hab hbv]
      exact zero_lt_one

theorem ramp_lt_one_iff (hab : a < b) : ramp a b v < 1 ↔ v < b := by
  constructor
  · intro hLess
    by_contra hNot
    rw [ramp_of_ge hab (not_lt.mp hNot)] at hLess
    exact hLess.false
  · intro hvb
    rcases le_total v a with hva | hav
    · rw [ramp_of_le hva]
      exact zero_lt_one
    · rw [ramp_of_mem hav hvb.le, div_lt_one₀ (sub_pos.mpr hab)]
      exact sub_lt_sub_right hvb a

/-- Of two ramps, one behind the other, one is at its end. -/
theorem ramps_end {a' b' : K} (hab : a < b) (hBehind : b ≤ a') (v : K) :
    ramp a' b' v = 0 ∨ ramp a b v = 1 := by
  rcases le_total v a' with hLow | hHigh
  · exact .inl (ramp_of_le hLow)
  · exact .inr (ramp_of_ge hab (hBehind.trans hHigh))

end Ramp

/-! ## A reading as two ramps -/

section Ramps

variable (h₀₁ : c₀ < c₁) (h₁₂ : c₁ ≤ c₂) (h₂₃ : c₂ < c₃)

include h₀₁ h₁₂ h₂₃

/-- One ramp up to the dead zone, another behind it. -/
theorem deadZone_eq_ramps (v : K) :
    deadZone c₀ c₁ c₂ c₃ v = ramp c₂ c₃ v - (1 - ramp c₀ c₁ v) := by
  rcases lt_or_ge v c₁ with hLow | hLow
  · have hAbove : ramp c₂ c₃ v = 0 := ramp_of_le (hLow.le.trans h₁₂)
    rcases lt_or_ge v c₀ with hOut | hIn
    · rw [deadZone, if_pos hOut, hAbove, ramp_of_le hOut.le, sub_zero, zero_sub]
    · have hRoom : c₁ - c₀ ≠ 0 := (sub_pos.mpr h₀₁).ne'
      rw [deadZone_of_below hIn hLow (hLow.le.trans (h₁₂.trans h₂₃.le)), hAbove,
        ramp_of_mem hIn hLow.le, one_sub_div hRoom, sub_sub_sub_cancel_right, zero_sub]
  · rw [ramp_of_ge h₀₁ hLow, sub_self, sub_zero]
    have hIn : c₀ ≤ v := h₀₁.le.trans hLow
    rcases le_or_gt v c₂ with hDead | hHigh
    · rw [deadZone_of_dead hIn (hDead.trans h₂₃.le) hLow hDead, ramp_of_le hDead]
    · rcases le_or_gt v c₃ with hIn' | hOut
      · rw [deadZone_of_above hIn hLow hHigh hIn', ramp_of_mem hHigh.le hIn']
      · rw [deadZone, if_neg hIn.not_gt, if_pos hOut, ramp_of_ge h₂₃ hOut.le]

theorem deadZone_monotone : Monotone (deadZone c₀ c₁ c₂ c₃) := by
  intro v w hvw
  rw [deadZone_eq_ramps h₀₁ h₁₂ h₂₃, deadZone_eq_ramps h₀₁ h₁₂ h₂₃]
  have hBelow := ramp_monotone h₀₁ hvw
  have hAbove := ramp_monotone h₂₃ hvw
  linarith

theorem deadZone_strictMonoOn_below :
    StrictMonoOn (deadZone c₀ c₁ c₂ c₃) (Set.Icc c₀ c₁) := by
  intro v hv w hw hvw
  rw [deadZone_eq_ramps h₀₁ h₁₂ h₂₃, deadZone_eq_ramps h₀₁ h₁₂ h₂₃]
  have hBelow := ramp_strictMonoOn h₀₁ hv hw hvw
  have hAbove := ramp_monotone h₂₃ hvw.le
  linarith

theorem deadZone_strictMonoOn_above :
    StrictMonoOn (deadZone c₀ c₁ c₂ c₃) (Set.Icc c₂ c₃) := by
  intro v hv w hw hvw
  rw [deadZone_eq_ramps h₀₁ h₁₂ h₂₃, deadZone_eq_ramps h₀₁ h₁₂ h₂₃]
  have hBelow := ramp_monotone h₀₁ hvw.le
  have hAbove := ramp_strictMonoOn h₂₃ hv hw hvw
  linarith

theorem deadZone_neg_iff : deadZone c₀ c₁ c₂ c₃ v < 0 ↔ v < c₁ := by
  rw [deadZone_eq_ramps h₀₁ h₁₂ h₂₃, ← ramp_lt_one_iff h₀₁]
  have hAbove := ramp_nonneg h₂₃ v
  constructor
  · intro hNeg
    linarith
  · intro hLess
    rcases ramps_end h₀₁ h₁₂ v with hZero | hOne
    · linarith
    · exact absurd hOne hLess.ne

theorem deadZone_pos_iff : 0 < deadZone c₀ c₁ c₂ c₃ v ↔ c₂ < v := by
  rw [deadZone_eq_ramps h₀₁ h₁₂ h₂₃, ← ramp_pos_iff h₂₃]
  have hBelow := ramp_le_one h₀₁ v
  constructor
  · intro hPos
    linarith
  · intro hPos
    rcases ramps_end h₀₁ h₁₂ v with hZero | hOne
    · exact absurd hZero hPos.ne'
    · linarith

theorem deadZone_eq_zero_iff : deadZone c₀ c₁ c₂ c₃ v = 0 ↔ c₁ ≤ v ∧ v ≤ c₂ := by
  rw [← not_lt, ← not_lt, ← deadZone_neg_iff h₀₁ h₁₂ h₂₃, ← deadZone_pos_iff h₀₁ h₁₂ h₂₃, not_lt,
    not_lt, le_antisymm_iff, and_comm]

theorem deadZone_eq_neg_one_iff : deadZone c₀ c₁ c₂ c₃ v = -1 ↔ v ≤ c₀ := by
  rw [deadZone_eq_ramps h₀₁ h₁₂ h₂₃, ← not_lt, ← ramp_pos_iff h₀₁, not_lt]
  have hAbove := ramp_nonneg h₂₃ v
  have hBelow := ramp_nonneg h₀₁ v
  constructor
  · intro hEnd
    linarith
  · intro hZero
    rcases ramps_end h₀₁ h₁₂ v with hZero' | hOne
    · linarith
    · linarith

theorem deadZone_eq_one_iff : deadZone c₀ c₁ c₂ c₃ v = 1 ↔ c₃ ≤ v := by
  rw [deadZone_eq_ramps h₀₁ h₁₂ h₂₃, ← not_lt, ← ramp_lt_one_iff h₂₃, not_lt]
  have hAbove := ramp_le_one h₂₃ v
  have hBelow := ramp_le_one h₀₁ v
  constructor
  · intro hEnd
    linarith
  · intro hOne
    rcases ramps_end h₀₁ h₁₂ v with hZero | hOne'
    · linarith
    · linarith

end Ramps

end Library
end MFiWrapper
