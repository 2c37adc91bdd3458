/-
Signed machine arithmetic as a computation that can fail.  A signed operation
whose exact result leaves the range of its type has no defined result, and
neither has a division by zero; both are faults here, never a wrapped value.

The range is given by `limit`: a signed type holds the values from `-limit` up to
but not including `limit`.
-/

import Mathlib.Data.Int.Basic

namespace Ffvms

inductive ArithmeticFault where
  | overflow
  | divisionByZero
  deriving DecidableEq, Repr

def intLimit : Int := 2147483648

def int64Limit : Int := 9223372036854775808

namespace CheckedInt

def Fits (limit value : Int) : Prop :=
  -limit ≤ value ∧ value < limit

instance (limit value : Int) : Decidable (Fits limit value) :=
  inferInstanceAs (Decidable (_ ∧ _))

def check (limit value : Int) : Except ArithmeticFault Int :=
  if Fits limit value then .ok value else .error .overflow

def add (limit left right : Int) : Except ArithmeticFault Int :=
  check limit (left + right)

def mul (limit left right : Int) : Except ArithmeticFault Int :=
  check limit (left * right)

/-- Division truncates.  Only the least value divided by `-1` leaves the range. -/
def div (limit left right : Int) : Except ArithmeticFault Int :=
  if right = 0 then .error .divisionByZero else check limit (left.tdiv right)

variable {limit left right value : Int}

theorem check_eq_ok_iff {exact : Int} :
    check limit exact = .ok value ↔ Fits limit exact ∧ value = exact := by
  unfold check
  by_cases fits : Fits limit exact
  · rw [if_pos fits, Except.ok.injEq, and_iff_right fits]
    exact eq_comm
  · rw [if_neg fits]
    simp only [reduceCtorEq, fits, false_and]

theorem add_eq_ok_iff :
    add limit left right = .ok value ↔ Fits limit (left + right) ∧ value = left + right :=
  check_eq_ok_iff

theorem mul_eq_ok_iff :
    mul limit left right = .ok value ↔ Fits limit (left * right) ∧ value = left * right :=
  check_eq_ok_iff

theorem div_eq_ok_iff :
    div limit left right = .ok value ↔
      right ≠ 0 ∧ Fits limit (left.tdiv right) ∧ value = left.tdiv right := by
  unfold div
  by_cases zero : right = 0
  · rw [if_pos zero]
    simp only [reduceCtorEq, zero, ne_eq, not_true_eq_false, false_and]
  · rw [if_neg zero, check_eq_ok_iff]
    exact (and_iff_right zero).symm

theorem bind_eq_ok_iff {Fault First Second : Type} {first : Except Fault First}
    {rest : First → Except Fault Second} {result : Second} :
    (first >>= rest) = .ok result ↔ ∃ middle, first = .ok middle ∧ rest middle = .ok result := by
  cases first with
  | error fault =>
      constructor
      · intro impossible
        cases impossible
      · intro ⟨middle, impossible, _⟩
        cases impossible
  | ok middle =>
      constructor
      · intro same
        exact ⟨middle, rfl, same⟩
      · intro ⟨other, found, same⟩
        cases found
        exact same

theorem fits_of_nonneg (nonneg : 0 ≤ value) : Fits limit value ↔ value < limit := by
  unfold Fits
  omega

theorem fits_tdiv (leftNonneg : 0 ≤ left) (rightNonneg : 0 ≤ right) (fits : left < limit) :
    Fits limit (left.tdiv right) := by
  rw [fits_of_nonneg (Int.tdiv_nonneg leftNonneg rightNonneg),
    Int.tdiv_eq_ediv_of_nonneg leftNonneg]
  exact Int.lt_of_le_of_lt (Int.ediv_le_self right leftNonneg) fits

end CheckedInt

end Ffvms
