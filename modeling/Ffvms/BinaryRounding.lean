/-
Rounding to a fixed number of binary digits, with an exponent that is as large or
as small as it has to be.  It is built from any rounding to whole numbers that is
monotone and leaves whole numbers alone, so the results hold for every rounding
direction; ties to even is the one that programs run with.

The last result says when a rounded quotient, cut to a whole number, is past a
given whole number: exactly when the quotient itself is, as long as the divisor
and the bound together have fewer digits than the format.
-/

import Mathlib.Data.Int.Log
import Mathlib.Data.Rat.Floor
import Mathlib.Tactic.Linarith
import Mathlib.Tactic.Positivity

namespace Ffvms

structure WholeRounding where
  round : ℚ → ℤ
  monotone : ∀ {small large : ℚ}, small ≤ large → round small ≤ round large
  whole : ∀ value : ℤ, round value = value

namespace WholeRounding

/-- The nearest whole number; of two equally near ones, the even one. -/
def nearestEven (value : ℚ) : ℤ :=
  if Int.fract value < 1 / 2 then ⌊value⌋
  else if 1 / 2 < Int.fract value then ⌊value⌋ + 1
  else if ⌊value⌋ % 2 = 0 then ⌊value⌋
  else ⌊value⌋ + 1

theorem floor_le_nearestEven (value : ℚ) : ⌊value⌋ ≤ nearestEven value := by
  unfold nearestEven
  split_ifs <;> omega

theorem nearestEven_le_floor (value : ℚ) : nearestEven value ≤ ⌊value⌋ + 1 := by
  unfold nearestEven
  split_ifs <;> omega

theorem nearestEven_monotone {small large : ℚ} (le : small ≤ large) :
    nearestEven small ≤ nearestEven large := by
  have floors : ⌊small⌋ ≤ ⌊large⌋ := Int.floor_mono le
  rcases Int.lt_or_eq_of_le floors with apart | same
  · have low := nearestEven_le_floor small
    have high := floor_le_nearestEven large
    omega
  · -- Between the same two whole numbers the larger value is at least as far up.
    have parts : Int.fract small ≤ Int.fract large := by
      unfold Int.fract
      rw [same]
      linarith
    unfold nearestEven
    rw [same]
    split_ifs <;> first | omega | (exfalso; linarith)

theorem nearestEven_whole (value : ℤ) : nearestEven value = value := by
  unfold nearestEven
  rw [Int.fract_intCast, if_pos (by norm_num), Int.floor_intCast]

def even : WholeRounding :=
  { round := nearestEven
    monotone := nearestEven_monotone
    whole := nearestEven_whole }

variable {mode : WholeRounding} {value : ℚ} {bound : ℤ}

theorem le_round (above : (bound : ℚ) ≤ value) : bound ≤ mode.round value := by
  have monotone := mode.monotone above
  rwa [mode.whole] at monotone

theorem round_le (below : value ≤ (bound : ℚ)) : mode.round value ≤ bound := by
  have monotone := mode.monotone below
  rwa [mode.whole] at monotone

end WholeRounding

section

variable (mode : WholeRounding) (fraction : ℕ)

/-- The weight of the last digit of a positive value with `fraction` digits after
the leading one. -/
def lastDigit (value : ℚ) : ℚ :=
  2 ^ (Int.log 2 value - fraction)

def roundBinary (value : ℚ) : ℚ :=
  mode.round (value / lastDigit fraction value) * lastDigit fraction value

variable {mode fraction} {value : ℚ}

theorem lastDigit_pos (value : ℚ) : 0 < lastDigit fraction value :=
  zpow_pos (by norm_num) _

theorem pow_mul_lastDigit (fraction more : ℕ) (value : ℚ) :
    (2 : ℚ) ^ (fraction + more) * lastDigit fraction value = 2 ^ (Int.log 2 value + more) := by
  unfold lastDigit
  rw [← zpow_natCast, ← zpow_add₀ (by norm_num : (2 : ℚ) ≠ 0)]
  congr 1
  omega

theorem roundBinary_zero : roundBinary mode fraction 0 = 0 := by
  unfold roundBinary
  have zero := mode.whole 0
  rw [Int.cast_zero] at zero
  rw [zero_div, zero, Int.cast_zero, zero_mul]

theorem zpow_le_roundBinary (positive : 0 < value) :
    (2 : ℚ) ^ Int.log 2 value ≤ roundBinary mode fraction value := by
  have scale := pow_mul_lastDigit fraction 0 value
  rw [add_zero, Nat.cast_zero, add_zero] at scale
  have digits : (((2 : ℤ) ^ fraction : ℤ) : ℚ) ≤ value / lastDigit fraction value := by
    rw [le_div_iff₀ (lastDigit_pos value), Int.cast_pow, Int.cast_ofNat, scale]
    exact_mod_cast Int.zpow_log_le_self (by norm_num) positive
  have rounded : (((2 : ℤ) ^ fraction : ℤ) : ℚ) ≤ mode.round (value / lastDigit fraction value) :=
    Int.cast_le.mpr (WholeRounding.le_round digits)
  rw [Int.cast_pow, Int.cast_ofNat] at rounded
  rw [← scale]
  exact mul_le_mul_of_nonneg_right rounded (lastDigit_pos value).le

theorem roundBinary_le_zpow (value : ℚ) :
    roundBinary mode fraction value ≤ 2 ^ (Int.log 2 value + 1) := by
  have scale := pow_mul_lastDigit fraction 1 value
  rw [Nat.cast_one] at scale
  have digits : value / lastDigit fraction value ≤ (((2 : ℤ) ^ (fraction + 1) : ℤ) : ℚ) := by
    rw [div_le_iff₀ (lastDigit_pos value), Int.cast_pow, Int.cast_ofNat, scale]
    exact_mod_cast (Int.lt_zpow_succ_log_self (by norm_num) value).le
  have rounded : (mode.round (value / lastDigit fraction value) : ℚ) ≤
      (((2 : ℤ) ^ (fraction + 1) : ℤ) : ℚ) :=
    Int.cast_le.mpr (WholeRounding.round_le digits)
  rw [Int.cast_pow, Int.cast_ofNat] at rounded
  rw [← scale]
  exact mul_le_mul_of_nonneg_right rounded (lastDigit_pos value).le

theorem roundBinary_mono {small large : ℚ} (positive : 0 < small) (le : small ≤ large) :
    roundBinary mode fraction small ≤ roundBinary mode fraction large := by
  have logs : Int.log 2 small ≤ Int.log 2 large := Int.log_mono_right positive le
  rcases Int.lt_or_eq_of_le logs with apart | same
  · calc roundBinary mode fraction small
        ≤ 2 ^ (Int.log 2 small + 1) := roundBinary_le_zpow small
      _ ≤ 2 ^ Int.log 2 large := zpow_le_zpow_right₀ (by norm_num) (by omega)
      _ ≤ roundBinary mode fraction large := zpow_le_roundBinary (positive.trans_le le)
  · -- The last digits have the same weight.
    have digit : lastDigit fraction small = lastDigit fraction large := by
      unfold lastDigit
      rw [same]
    unfold roundBinary
    rw [digit]
    apply mul_le_mul_of_nonneg_right _ (lastDigit_pos large).le
    apply Int.cast_le.mpr
    apply mode.monotone
    exact div_le_div_of_nonneg_right le (lastDigit_pos large).le

theorem roundBinary_exact {significand exponent : ℤ} (positive : 0 < significand)
    (short : significand < 2 ^ (fraction + 1)) :
    roundBinary mode fraction (significand * 2 ^ exponent) = significand * 2 ^ exponent := by
  have valuePos : (0 : ℚ) < significand * 2 ^ exponent :=
    mul_pos (Int.cast_pos.mpr positive) (zpow_pos (by norm_num) _)
  have small : (significand : ℚ) * 2 ^ exponent < 2 ^ ((fraction : ℤ) + 1 + exponent) := by
    rw [zpow_add₀ (by norm_num : (2 : ℚ) ≠ 0)]
    apply mul_lt_mul_of_pos_right _ (zpow_pos (by norm_num) _)
    exact_mod_cast short
  have logBound : Int.log 2 ((significand : ℚ) * 2 ^ exponent) < (fraction : ℤ) + 1 + exponent :=
    (Int.lt_zpow_iff_log_lt (by norm_num) valuePos).mp (by exact_mod_cast small)
  obtain ⟨shift, shiftEq⟩ := Int.eq_ofNat_of_zero_le
    (show 0 ≤ exponent - (Int.log 2 ((significand : ℚ) * 2 ^ exponent) - fraction) by omega)
  have whole : (significand : ℚ) * 2 ^ exponent /
      lastDigit fraction ((significand : ℚ) * 2 ^ exponent) =
        ((significand * 2 ^ shift : ℤ) : ℚ) := by
    unfold lastDigit
    rw [mul_div_assoc, ← zpow_sub₀ (by norm_num : (2 : ℚ) ≠ 0), shiftEq,
      zpow_natCast]
    push_cast
    rfl
  unfold roundBinary
  rw [whole, mode.whole, ← whole]
  exact div_mul_cancel₀ _ (lastDigit_pos _).ne'

theorem roundBinary_whole {whole : ℤ} (positive : 0 < whole) (short : whole < 2 ^ (fraction + 1)) :
    roundBinary mode fraction whole = whole := by
  have exact : roundBinary mode fraction (whole * 2 ^ (0 : ℤ)) = whole * 2 ^ (0 : ℤ) :=
    roundBinary_exact positive short
  rwa [zpow_zero, mul_one] at exact

/-- Cutting a rounded quotient does not take it across a whole number that is small
enough to keep all digits of the divisor. -/
theorem le_floor_roundBinary_div_iff {dividend divisor bound : ℤ} {size : ℕ}
    (nonneg : 0 ≤ dividend) (divisorPos : 0 < divisor) (divisorSize : divisor ≤ 2 ^ size)
    (boundPos : 0 < bound) (boundSize : bound * 2 ^ size < 2 ^ (fraction + 1)) :
    bound ≤ ⌊roundBinary mode fraction (dividend / divisor)⌋ ↔ bound * divisor ≤ dividend := by
  have divisorPosRat : (0 : ℚ) < divisor := Int.cast_pos.mpr divisorPos
  have sizePos : (0 : ℤ) < 2 ^ size := by positivity
  rw [Int.le_floor]
  constructor
  · intro reached
    by_contra short
    have less : dividend + 1 ≤ bound * divisor := by omega
    rcases Int.lt_or_eq_of_le nonneg with positive | zero
    · -- The quotient is at most the last value of the format before the bound.
      have quotientPos : (0 : ℚ) < dividend / divisor :=
        div_pos (Int.cast_pos.mpr positive) divisorPosRat
      have before : (dividend : ℚ) / divisor ≤
          ((bound * 2 ^ size - 1 : ℤ) : ℚ) * 2 ^ (-(size : ℤ)) := by
        have scaled : dividend * 2 ^ size ≤ (bound * 2 ^ size - 1) * divisor := by nlinarith
        rw [zpow_neg, zpow_natCast, ← div_eq_mul_inv,
          div_le_div_iff₀ divisorPosRat (by positivity)]
        exact_mod_cast scaled
      have significandPos : 0 < bound * 2 ^ size - 1 := by
        have productPos := quotientPos.trans_le before
        exact Int.cast_pos.mp (pos_of_mul_pos_left productPos (zpow_pos (by norm_num) _).le)
      have rounded : roundBinary mode fraction _ ≤ roundBinary mode fraction _ :=
        roundBinary_mono quotientPos before
      rw [roundBinary_exact significandPos (by omega)] at rounded
      have below : ((bound * 2 ^ size - 1 : ℤ) : ℚ) * 2 ^ (-(size : ℤ)) < bound := by
        rw [zpow_neg, zpow_natCast, ← div_eq_mul_inv, div_lt_iff₀ (by positivity)]
        push_cast
        linarith
      linarith
    · rw [← zero, Int.cast_zero, zero_div, roundBinary_zero] at reached
      have impossible : bound ≤ 0 := by exact_mod_cast reached
      omega
  · intro reached
    have boundShort : bound < 2 ^ (fraction + 1) := by nlinarith
    have quotient : (bound : ℚ) ≤ dividend / divisor := by
      rw [le_div_iff₀ divisorPosRat]
      exact_mod_cast reached
    have rounded : roundBinary mode fraction _ ≤ roundBinary mode fraction _ :=
      roundBinary_mono (Int.cast_pos.mpr boundPos) quotient
    rwa [roundBinary_whole boundPos boundShort] at rounded

end

end Ffvms
