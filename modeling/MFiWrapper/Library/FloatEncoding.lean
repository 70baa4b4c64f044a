import Mathlib.Algebra.Order.Floor.Semiring
import Mathlib.Data.Int.Log
import Mathlib.Data.Rat.Floor
import Mathlib.Tactic.FieldSimp
import MFiWrapper.Library.BinaryFloat

/-!
# Rounding to a binary floating-point format

The magnitude of a value as it is encoded, with `f` fraction bits under the bits of the
exponent and `emin` the exponent of the least unit, and the encoding of the nearest value,
ties to even.  A significand that rounds up to the next power of two carries into the bits
of the exponent, so that the encoding is a sum.
-/

namespace MFiWrapper
namespace Library

variable (f : Nat) (emin : Int)

/-- The integer nearest to `q`, the even one of two. -/
def halfEven (q : ℚ) : Nat :=
  if 2 * (q - ⌊q⌋₊) < 1 ∨ 2 * (q - ⌊q⌋₊) = 1 ∧ ⌊q⌋₊ % 2 = 0 then ⌊q⌋₊ else ⌊q⌋₊ + 1

/-- The exponent of the unit in the last place of `q`. -/
def unitExponent (q : ℚ) : Int := if 2 ^ (emin + f) ≤ q then Int.log 2 q - f else emin

/-- The bits of the value nearest to `q`. -/
def encodeMagnitude (q : ℚ) : Nat :=
  (unitExponent f emin q - emin).toNat * 2 ^ f + halfEven (q / 2 ^ unitExponent f emin q)

/-- The value of the bits. -/
def decodeMagnitude (bits : Nat) : ℚ :=
  if bits / 2 ^ f = 0 then (bits % 2 ^ f : Nat) * 2 ^ emin
  else (2 ^ f + bits % 2 ^ f : Nat) * 2 ^ (emin + (bits / 2 ^ f : Nat) - 1)

/-- The value of the format that is nearest to `q`. -/
def nearest (q : ℚ) : ℚ :=
  if q < 0 then -decodeMagnitude f emin (encodeMagnitude f emin (-q))
  else decodeMagnitude f emin (encodeMagnitude f emin q)

/-! ## The nearest integer -/

section HalfEven

variable {q r : ℚ}

theorem halfEven_natCast (n : Nat) : halfEven n = n := by
  rw [halfEven, Nat.floor_natCast, sub_self, mul_zero, if_pos (.inl one_pos)]

theorem floor_le_halfEven (q : ℚ) : ⌊q⌋₊ ≤ halfEven q := by
  rw [halfEven]
  split_ifs <;> omega

theorem halfEven_le_succ (q : ℚ) : halfEven q ≤ ⌊q⌋₊ + 1 := by
  rw [halfEven]
  split_ifs <;> omega

theorem halfEven_mono (hLe : q ≤ r) : halfEven q ≤ halfEven r := by
  rcases (Nat.floor_le_floor hLe).lt_or_eq with hLt | hSame
  · exact (halfEven_le_succ q).trans ((Nat.succ_le_of_lt hLt).trans (floor_le_halfEven r))
  · -- with one floor, what is rounded down has only such values below
    have hFraction : 2 * (q - ⌊r⌋₊) ≤ 2 * (r - ⌊r⌋₊) := by linarith
    rw [halfEven, halfEven, hSame]
    split_ifs with hLow hHigh hHigh
    · exact le_rfl
    · exact Nat.le_succ _
    · refine absurd ?_ hLow
      rcases hHigh with hBelow | ⟨hHalf, hEven⟩
      · exact .inl (hFraction.trans_lt hBelow)
      · exact (hFraction.trans_eq hHalf).lt_or_eq.imp_right fun hEq => ⟨hEq, hEven⟩
    · exact le_rfl

end HalfEven

/-! ## The unit in the last place -/

variable {f : Nat} {emin : Int} {q r : ℚ}

theorem two_zpow_pos (e : Int) : (0 : ℚ) < 2 ^ e := zpow_pos (by norm_num) e

theorem le_unitExponent (q : ℚ) : emin ≤ unitExponent f emin q := by
  rw [unitExponent]
  split_ifs with hNormal
  · have hPos : 0 < q := (two_zpow_pos _).trans_le hNormal
    have hLog : emin + f ≤ Int.log 2 q :=
      (Int.zpow_le_iff_le_log one_lt_two hPos).mp (by exact_mod_cast hNormal)
    omega
  · exact le_rfl

/-- The significand is not above the next power of two. -/
theorem div_unit_lt (q : ℚ) : q / 2 ^ unitExponent f emin q < 2 ^ (f + 1) := by
  rw [div_lt_iff₀ (two_zpow_pos _), unitExponent, ← zpow_natCast,
    ← zpow_add₀ (two_ne_zero' ℚ)]
  split_ifs with hNormal
  · have hLt : q < ((2 : Nat) : ℚ) ^ (Int.log 2 q + 1) := Int.lt_zpow_succ_log_self one_lt_two q
    refine hLt.trans_eq ?_
    push_cast
    congr 1
    ring
  · refine (not_le.mp hNormal).trans ?_
    refine zpow_lt_zpow_right₀ one_lt_two ?_
    push_cast
    omega

/-- Above the least unit the significand uses all its bits. -/
theorem le_div_unit (hAbove : emin < unitExponent f emin q) :
    2 ^ f ≤ q / 2 ^ unitExponent f emin q := by
  rw [le_div_iff₀ (two_zpow_pos _), ← zpow_natCast, ← zpow_add₀ (two_ne_zero' ℚ)]
  rw [unitExponent] at hAbove ⊢
  split_ifs at hAbove ⊢ with hNormal
  · have hPos : 0 < q := (two_zpow_pos _).trans_le hNormal
    have hLe : ((2 : Nat) : ℚ) ^ Int.log 2 q ≤ q := Int.zpow_log_le_self one_lt_two hPos
    refine le_trans (le_of_eq ?_) hLe
    push_cast
    congr 1
    ring
  · exact absurd hAbove (lt_irrefl _)

theorem unitExponent_mono (hLe : q ≤ r) : unitExponent f emin q ≤ unitExponent f emin r := by
  by_cases hNormal : 2 ^ (emin + f) ≤ q
  · have hPos : 0 < q := (two_zpow_pos _).trans_le hNormal
    rw [unitExponent, unitExponent, if_pos hNormal, if_pos (hNormal.trans hLe)]
    have hLog := Int.log_mono_right hPos hLe (b := 2)
    omega
  · rw [unitExponent, if_neg hNormal]
    exact le_unitExponent r

/-! ## The bits -/

theorem halfEven_unit_le (q : ℚ) : halfEven (q / 2 ^ unitExponent f emin q) ≤ 2 ^ (f + 1) := by
  calc halfEven (q / 2 ^ unitExponent f emin q)
      ≤ halfEven ((2 ^ (f + 1) : Nat) : ℚ) := halfEven_mono (by exact_mod_cast (div_unit_lt q).le)
    _ = 2 ^ (f + 1) := halfEven_natCast _

theorem le_halfEven_unit (hAbove : emin < unitExponent f emin q) :
    2 ^ f ≤ halfEven (q / 2 ^ unitExponent f emin q) := by
  calc 2 ^ f = halfEven ((2 ^ f : Nat) : ℚ) := (halfEven_natCast _).symm
    _ ≤ halfEven (q / 2 ^ unitExponent f emin q) :=
      halfEven_mono (by exact_mod_cast le_div_unit hAbove)

theorem encodeMagnitude_mono (hLe : q ≤ r) :
    encodeMagnitude f emin q ≤ encodeMagnitude f emin r := by
  have hBelow : emin ≤ unitExponent f emin q := le_unitExponent q
  rw [encodeMagnitude, encodeMagnitude]
  have hMono : unitExponent f emin q ≤ unitExponent f emin r := unitExponent_mono hLe
  rcases hMono.lt_or_eq with hLt | hSame
  · -- the carry reaches at most the next exponent
    have hFirst : halfEven (q / 2 ^ unitExponent f emin q) ≤ 2 ^ (f + 1) := halfEven_unit_le q
    have hSecond := le_halfEven_unit (hBelow.trans_lt hLt)
    obtain ⟨k, hk⟩ : ∃ k : Nat, (unitExponent f emin r - emin).toNat =
        (unitExponent f emin q - emin).toNat + 1 + k := ⟨_, (Nat.add_sub_cancel' (by omega)).symm⟩
    rw [hk, Nat.add_mul, Nat.add_mul, Nat.one_mul]
    rw [pow_succ] at hFirst
    have hExtra : 0 ≤ k * 2 ^ f := Nat.zero_le _
    omega
  · rw [hSame]
    exact Nat.add_le_add_left
      (halfEven_mono (div_le_div_of_nonneg_right hLe (two_zpow_pos _).le)) _

/-- The value of a significand that uses all its bits, or has the least unit. -/
theorem decodeMagnitude_add {k m : Nat} (hBits : k = 0 ∨ 2 ^ f ≤ m) (hLe : m ≤ 2 ^ (f + 1)) :
    decodeMagnitude f emin (k * 2 ^ f + m) = m * 2 ^ (emin + k) := by
  have hPos : 0 < 2 ^ f := Nat.two_pow_pos f
  have hDiv (n : Nat) (hLt : n < 2 ^ f) (j : Nat) :
      (j * 2 ^ f + n) / 2 ^ f = j ∧ (j * 2 ^ f + n) % 2 ^ f = n := by
    rw [Nat.add_comm, Nat.add_mul_div_right _ _ hPos, Nat.add_mul_mod_self_right,
      Nat.div_eq_of_lt hLt, Nat.mod_eq_of_lt hLt, Nat.zero_add]
    exact ⟨rfl, rfl⟩
  rw [pow_succ] at hLe
  rcases lt_or_ge m (2 ^ f) with hSmall | hLarge
  · -- only the least unit has these
    obtain rfl : k = 0 := hBits.resolve_right (by omega)
    obtain ⟨hQuotient, hRest⟩ := hDiv m hSmall 0
    rw [decodeMagnitude, hQuotient, if_pos rfl, hRest, Nat.cast_zero, add_zero]
  · obtain ⟨n, rfl⟩ := Nat.exists_eq_add_of_le hLarge
    have hCarry : k * 2 ^ f + (2 ^ f + n) = (k + 1) * 2 ^ f + n := by ring
    rw [hCarry]
    rcases lt_or_ge n (2 ^ f) with hInside | hOver
    · obtain ⟨hQuotient, hRest⟩ := hDiv n hInside (k + 1)
      rw [decodeMagnitude, hQuotient, if_neg (Nat.succ_ne_zero k), hRest]
      congr 2
      push_cast
      ring
    · -- the carry
      obtain rfl : n = 2 ^ f := by omega
      obtain ⟨hQuotient, hRest⟩ := hDiv 0 hPos (k + 2)
      rw [show (k + 1) * 2 ^ f + 2 ^ f = (k + 2) * 2 ^ f + 0 by ring, decodeMagnitude, hQuotient,
        if_neg (Nat.succ_ne_zero _), hRest]
      rw [show emin + ((k + 2 : Nat) : Int) - 1 = (emin + k) + 1 by push_cast; ring,
        zpow_add_one₀ (two_ne_zero' ℚ)]
      push_cast
      ring

theorem decodeMagnitude_le_succ (bits : Nat) :
    decodeMagnitude f emin bits ≤ decodeMagnitude f emin (bits + 1) := by
  have hPos : 0 < 2 ^ f := Nat.two_pow_pos f
  obtain ⟨k, m, hBits, hLe, rfl⟩ : ∃ k m, (k = 0 ∨ 2 ^ f ≤ m) ∧ m + 1 ≤ 2 ^ (f + 1) ∧
      bits = k * 2 ^ f + m := by
    have hMod := Nat.mod_lt bits hPos
    have hSum := Nat.div_add_mod' bits (2 ^ f)
    rw [pow_succ]
    rcases Nat.eq_zero_or_pos (bits / 2 ^ f) with hZero | hNormal
    · rw [hZero, Nat.zero_mul, Nat.zero_add] at hSum
      exact ⟨0, bits, .inl rfl, by omega, by omega⟩
    · obtain ⟨k, hk⟩ := Nat.exists_eq_add_of_le hNormal
      refine ⟨k, 2 ^ f + bits % 2 ^ f, .inr (by omega), by omega, ?_⟩
      rw [hk, Nat.add_mul, Nat.one_mul] at hSum
      omega
  rw [Nat.add_assoc, decodeMagnitude_add hBits (by omega),
    decodeMagnitude_add (hBits.imp_right (by omega)) hLe]
  refine mul_le_mul_of_nonneg_right ?_ (two_zpow_pos _).le
  exact_mod_cast Nat.le_succ m

theorem decodeMagnitude_mono : Monotone (decodeMagnitude f emin) :=
  monotone_nat_of_le_succ decodeMagnitude_le_succ

theorem isBinaryFloat_decodeMagnitude (bits : Nat) :
    IsBinaryFloat (f + 1) emin (decodeMagnitude f emin bits) := by
  have hMod := Nat.mod_lt bits (Nat.two_pow_pos f)
  have hAbs (n : Nat) (hLt : n < 2 ^ (f + 1)) : |(n : Int)| < 2 ^ (f + 1) := by
    rw [Nat.abs_cast]
    exact_mod_cast hLt
  rw [decodeMagnitude]
  split_ifs with hLeast
  · exact ⟨(bits % 2 ^ f : Nat), emin, hAbs _ (by rw [pow_succ]; omega), le_rfl, by push_cast; rfl⟩
  · refine ⟨(2 ^ f + bits % 2 ^ f : Nat), emin + (bits / 2 ^ f : Nat) - 1,
      hAbs _ (by rw [pow_succ]; omega), ?_, by push_cast; rfl⟩
    have hExponent : 1 ≤ bits / 2 ^ f := Nat.one_le_iff_ne_zero.mpr hLeast
    omega

/-! ## Rounding -/

/-- What is decoded is the significand nearest to `q`. -/
theorem decode_encodeMagnitude (q : ℚ) :
    decodeMagnitude f emin (encodeMagnitude f emin q) =
      halfEven (q / 2 ^ unitExponent f emin q) * 2 ^ unitExponent f emin q := by
  have hBelow : emin ≤ unitExponent f emin q := le_unitExponent q
  rw [encodeMagnitude, decodeMagnitude_add ?_ (halfEven_unit_le q)]
  · congr 2
    omega
  · rcases hBelow.lt_or_eq with hAbove | hLeast
    · exact .inr (le_halfEven_unit hAbove)
    · exact .inl (by omega)

/-- A value of the format is kept. -/
theorem decode_encodeMagnitude_of_isBinaryFloat (hFloat : IsBinaryFloat (f + 1) emin q)
    (hNonneg : 0 ≤ q) : decodeMagnitude f emin (encodeMagnitude f emin q) = q := by
  obtain ⟨n, hn⟩ : ∃ n : Nat, q / 2 ^ unitExponent f emin q = n := by
    obtain ⟨m, e, hm, he, rfl⟩ := hFloat
    have hm' : 0 ≤ m := by
      have hSign := nonneg_of_mul_nonneg_left hNonneg (two_zpow_pos e)
      exact_mod_cast hSign
    obtain ⟨m, rfl⟩ := Int.eq_ofNat_of_zero_le hm'
    have hm'' : m < 2 ^ (f + 1) := by
      have hSize := lt_of_abs_lt hm
      exact_mod_cast hSize
    -- the unit of the representation is not below the unit in the last place
    have hUnit : unitExponent f emin ((m : Int) * 2 ^ e) ≤ e := by
      by_contra hAbove
      have hLow := le_div_unit (f := f) (he.trans_lt (not_le.mp hAbove))
      rw [le_div_iff₀ (two_zpow_pos _)] at hLow
      have hScale : (2 : ℚ) ^ e * 2 ≤ 2 ^ unitExponent f emin ((m : Int) * 2 ^ e) := by
        rw [← zpow_add_one₀ (two_ne_zero' ℚ)]
        exact zpow_le_zpow_right₀ one_le_two (by omega)
      have hPow : (0 : ℚ) < 2 ^ f := pow_pos (by norm_num) f
      have hTwice : (2 : ℚ) ^ f * (2 ^ e * 2) ≤ (m : Int) * 2 ^ e :=
        (mul_le_mul_of_nonneg_left hScale hPow.le).trans hLow
      have hFactor : (2 : ℚ) ^ (f + 1) ≤ m := by
        refine le_of_mul_le_mul_right ?_ (two_zpow_pos e)
        calc (2 : ℚ) ^ (f + 1) * 2 ^ e = 2 ^ f * (2 ^ e * 2) := by ring
          _ ≤ (m : Int) * 2 ^ e := hTwice
          _ = m * 2 ^ e := by push_cast; rfl
      exact absurd hm'' (not_lt.mpr (by exact_mod_cast hFactor))
    obtain ⟨d, hd⟩ := Int.le.dest hUnit
    have hPower : (2 : ℚ) ^ e = 2 ^ unitExponent f emin ((m : Int) * 2 ^ e) * 2 ^ d := by
      rw [← zpow_natCast, ← zpow_add₀ (two_ne_zero' ℚ), hd]
    refine ⟨m * 2 ^ d, ?_⟩
    rw [div_eq_iff (two_zpow_pos _).ne']
    calc (m : Int) * (2 : ℚ) ^ e
        = (m : Int) * (2 ^ unitExponent f emin ((m : Int) * 2 ^ e) * 2 ^ d) := by rw [← hPower]
      _ = (m * 2 ^ d : Nat) * 2 ^ unitExponent f emin ((m : Int) * 2 ^ e) := by
        push_cast
        ring
  rw [decode_encodeMagnitude, hn, halfEven_natCast, ← hn,
    div_mul_cancel₀ _ (two_zpow_pos _).ne']

theorem decodeMagnitude_nonneg (bits : Nat) : 0 ≤ decodeMagnitude f emin bits := by
  have hZero : decodeMagnitude f emin 0 = 0 := by simp [decodeMagnitude]
  rw [← hZero]
  exact decodeMagnitude_mono (Nat.zero_le bits)

theorem isBinaryFloat_nearest (q : ℚ) : IsBinaryFloat (f + 1) emin (nearest f emin q) := by
  rw [nearest]
  split_ifs
  · exact (isBinaryFloat_decodeMagnitude _).neg
  · exact isBinaryFloat_decodeMagnitude _

theorem nearest_of_isBinaryFloat (hFloat : IsBinaryFloat (f + 1) emin q) :
    nearest f emin q = q := by
  rw [nearest]
  split_ifs with hNegative
  · rw [decode_encodeMagnitude_of_isBinaryFloat hFloat.neg (neg_nonneg.mpr hNegative.le),
      neg_neg]
  · exact decode_encodeMagnitude_of_isBinaryFloat hFloat (not_lt.mp hNegative)

theorem nearest_mono (hLe : q ≤ r) : nearest f emin q ≤ nearest f emin r := by
  rw [nearest, nearest]
  split_ifs with hFirst hSecond hSecond
  · exact neg_le_neg (decodeMagnitude_mono (encodeMagnitude_mono (neg_le_neg hLe)))
  · exact (neg_nonpos.mpr (decodeMagnitude_nonneg _)).trans (decodeMagnitude_nonneg _)
  · exact absurd (hLe.trans_lt hSecond) hFirst
  · exact decodeMagnitude_mono (encodeMagnitude_mono hLe)

@[simp] theorem nearest_zero : nearest f emin 0 = 0 := nearest_of_isBinaryFloat isBinaryFloat_zero

/-- Rounding does not depend on the sign. -/
theorem nearest_neg (q : ℚ) : nearest f emin (-q) = -nearest f emin q := by
  rcases lt_trichotomy q 0 with hNegative | rfl | hPositive
  · rw [nearest, nearest, if_pos hNegative, if_neg (not_lt.mpr (neg_nonneg.mpr hNegative.le)),
      neg_neg]
  · rw [neg_zero, nearest_zero, neg_zero]
  · rw [nearest, nearest, if_pos (neg_lt_zero.mpr hPositive), if_neg (not_lt.mpr hPositive.le),
      neg_neg]

end Library
end MFiWrapper
