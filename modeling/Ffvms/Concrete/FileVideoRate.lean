/-
The arithmetic on the frame rate of a file: the interval of the timer that calls
`FFGetFrame`, and the duration given to packets that come without one.

The interval is computed in `double` and cut to whole microseconds, the duration
in `int`.  The duration is measured in units of the input stream, but it is added
to times that were already rescaled to the output stream, so it is one frame only
where a frame counts nearly as many units of the one as of the other.
-/

import Ffvms.CheckedInt
import Ffvms.BinaryRounding

namespace Ffvms.Concrete

/-- `avg_frame_rate` as it is reported; an unknown rate is 0/0 or 0/1. -/
structure FrameRate where
  num : Int
  den : Int
  numRange : 0 ≤ num ∧ num < intLimit
  denRange : 0 ≤ den ∧ den < intLimit
  deriving DecidableEq, Repr

structure TimeBase where
  num : Int
  den : Int
  numPos : 0 < num
  denPos : 0 < den
  deriving DecidableEq, Repr

/-- The nearest `double`, for values far from the ends of its range. -/
def double (value : ℚ) : ℚ := roundBinary WholeRounding.even 52 value

namespace FrameRate

/-- `long microseconds = 1e6 * fps.second / fps.first`.  For `fps.first = 0` the
quotient is not finite and has no value as a `long`. -/
def microseconds (rate : FrameRate) : Except ArithmeticFault Int :=
  if rate.num = 0 then .error .divisionByZero
  else .ok ⌊double (double ((1000000 * rate.den : Int) : ℚ) / rate.num)⌋

def fallbackDuration (rate : FrameRate) (input : TimeBase) : Except ArithmeticFault Int := do
  let dividend ← CheckedInt.mul intLimit input.den rate.den
  let divisor ← CheckedInt.mul intLimit rate.num input.num
  CheckedInt.div intLimit dividend divisor

/-- Less than one unit of the output stream away from one frame, which lasts
`den / num` seconds. -/
def OneFrame (rate : FrameRate) (output : TimeBase) (duration : Int) : Prop :=
  |duration * (rate.num * output.num) - rate.den * output.den| < rate.num * output.num

instance (rate : FrameRate) (output : TimeBase) (duration : Int) :
    Decidable (rate.OneFrame output duration) :=
  inferInstanceAs (Decidable (_ < _))

/-- Both computations have a result, the microseconds are those of a `timeval`, and
at a known rate the duration is one frame on the output stream. -/
structure Sound (rate : FrameRate) (input output : TimeBase) : Prop where
  interval : ∃ interval, rate.microseconds = .ok interval ∧ 1 ≤ interval ∧ interval ≤ 999999
  fallback : ∃ duration, rate.fallbackDuration input = .ok duration ∧
    (0 < rate.num → 0 < rate.den → 0 < duration ∧ rate.OneFrame output duration)

/-! ### The timer -/

/-- The product is exact, and the quotient does not round across a whole number of
microseconds below two to the 21st. -/
theorem le_microseconds_iff (rate : FrameRate) (known : 0 < rate.num) {interval : Int}
    (computed : rate.microseconds = .ok interval) (bound : Int) (boundPos : 0 < bound)
    (boundSmall : bound < 2097152) : bound ≤ interval ↔ bound * rate.num ≤ 1000000 * rate.den := by
  have numRange := rate.numRange
  have denRange := rate.denRange
  unfold intLimit at numRange denRange
  have product : double ((1000000 * rate.den : Int) : ℚ) = ((1000000 * rate.den : Int) : ℚ) := by
    unfold double
    rcases Int.lt_or_eq_of_le denRange.1 with positive | zero
    · exact roundBinary_whole (by omega) (by norm_num; omega)
    · rw [← zero, mul_zero, Int.cast_zero]
      exact roundBinary_zero
  unfold microseconds at computed
  rw [if_neg (by omega), Except.ok.injEq, product] at computed
  rw [← computed]
  have size : rate.num ≤ 2 ^ 31 := by norm_num; omega
  exact le_floor_roundBinary_div_iff (by omega) known size boundPos (by norm_num; omega)

/-! ### The duration -/

theorem fallbackDuration_eq_ok_iff (rate : FrameRate) (input : TimeBase) {duration : Int} :
    rate.fallbackDuration input = .ok duration ↔
      0 < rate.num ∧ input.den * rate.den < intLimit ∧ rate.num * input.num < intLimit ∧
        duration = input.den * rate.den / (rate.num * input.num) := by
  have dividendNonneg : 0 ≤ input.den * rate.den := Int.mul_nonneg input.denPos.le rate.denRange.1
  have divisorNonneg : 0 ≤ rate.num * input.num := Int.mul_nonneg rate.numRange.1 input.numPos.le
  have nonzero : rate.num * input.num ≠ 0 ↔ 0 < rate.num := by
    have numNonneg := rate.numRange.1
    have inputPos := input.numPos
    rw [ne_eq, Int.mul_eq_zero]
    omega
  unfold fallbackDuration
  simp only [CheckedInt.bind_eq_ok_iff, CheckedInt.mul_eq_ok_iff, CheckedInt.div_eq_ok_iff,
    CheckedInt.fits_of_nonneg dividendNonneg, CheckedInt.fits_of_nonneg divisorNonneg]
  constructor
  · intro ⟨dividend, ⟨dividendFits, dividendEq⟩, divisor, ⟨divisorFits, divisorEq⟩, defined, _,
      result⟩
    rw [divisorEq] at defined
    rw [dividendEq, divisorEq, Int.tdiv_eq_ediv_of_nonneg dividendNonneg] at result
    exact ⟨nonzero.mp defined, dividendFits, divisorFits, result⟩
  · intro ⟨known, dividendFits, divisorFits, result⟩
    refine ⟨_, ⟨dividendFits, rfl⟩, _, ⟨divisorFits, rfl⟩, nonzero.mpr known, ?_, ?_⟩
    · exact CheckedInt.fits_tdiv dividendNonneg divisorNonneg dividendFits
    · rw [Int.tdiv_eq_ediv_of_nonneg dividendNonneg]
      exact result

def frameUnits (rate : FrameRate) (base : TimeBase) : ℚ :=
  ((base.den * rate.den : Int) : ℚ) / (rate.num * base.num : Int)

theorem floor_frameUnits (rate : FrameRate) (base : TimeBase) :
    ⌊rate.frameUnits base⌋ = base.den * rate.den / (rate.num * base.num) := by
  have divisorNonneg : 0 ≤ rate.num * base.num := Int.mul_nonneg rate.numRange.1 base.numPos.le
  unfold frameUnits
  rw [Int.floor_div_cast_of_nonneg divisorNonneg, Int.floor_intCast]

theorem one_le_frameUnits_iff (rate : FrameRate) (base : TimeBase) :
    1 ≤ rate.frameUnits base ↔ 0 < base.den * rate.den / (rate.num * base.num) := by
  rw [← floor_frameUnits, Int.floor_pos]

theorem oneFrame_iff (rate : FrameRate) (output : TimeBase) (known : 0 < rate.num)
    (duration : Int) :
    rate.OneFrame output duration ↔ |(duration : ℚ) - rate.frameUnits output| < 1 := by
  have divisorPos : (0 : ℚ) < (rate.num * output.num : Int) :=
    Int.cast_pos.mpr (Int.mul_pos known output.numPos)
  have scaled : ((duration * (rate.num * output.num) - rate.den * output.den : Int) : ℚ) =
      ((duration : ℚ) - rate.frameUnits output) * (rate.num * output.num : Int) := by
    unfold frameUnits
    rw [sub_mul, div_mul_cancel₀ _ divisorPos.ne']
    push_cast
    ring
  unfold OneFrame
  rw [← Int.cast_lt (R := ℚ), Int.cast_abs, scaled, abs_mul, abs_of_pos divisorPos]
  exact mul_lt_iff_lt_one_left divisorPos

/-- Two lengths of which one, rounded down, is less than 1 away from the other. -/
theorem floor_near_iff (first second : ℚ) :
    |(⌊first⌋ : ℚ) - second| < 1 ↔ (⌊second⌋ : ℚ) ≤ first ∧ first < ⌈second⌉ + 1 := by
  have secondFloor : (⌊second⌋ : ℚ) ≤ first ↔ ⌊second⌋ ≤ ⌊first⌋ := Int.le_floor.symm
  have secondCeil : first < ⌈second⌉ + 1 ↔ ⌊first⌋ ≤ ⌈second⌉ := by
    rw [← Int.lt_add_one_iff, Int.floor_lt]
    push_cast
    exact Iff.rfl
  rw [secondFloor, secondCeil, abs_lt]
  constructor
  · rintro ⟨above, below⟩
    constructor
    · apply Int.lt_add_one_iff.mp
      rw [Int.floor_lt]
      push_cast
      linarith
    · apply Int.lt_add_one_iff.mp
      have ceil := Int.le_ceil second
      have reached : (⌊first⌋ : ℚ) < ((⌈second⌉ + 1 : Int) : ℚ) := by
        push_cast
        linarith
      exact_mod_cast reached
  · rintro ⟨floors, ceils⟩
    have cut := Int.lt_floor_add_one second
    have raised := Int.ceil_lt_add_one second
    have floorsCast : (⌊second⌋ : ℚ) ≤ ⌊first⌋ := Int.cast_le.mpr floors
    have ceilsCast : (⌊first⌋ : ℚ) ≤ ⌈second⌉ := Int.cast_le.mpr ceils
    constructor <;> linarith

/-- Whatever units the streams count in, the arithmetic is sound exactly for rates of more
than one and at most a million frames a second whose products stay in the range of `int`,
and for which a frame lasts at least one unit of the input and differs in the number of
units between the two streams by no more than the rounding takes away. -/
theorem sound_iff (rate : FrameRate) (input output : TimeBase) :
    rate.Sound input output ↔
      rate.den < rate.num ∧ rate.num ≤ 1000000 * rate.den ∧
        input.den * rate.den < intLimit ∧ rate.num * input.num < intLimit ∧
        1 ≤ rate.frameUnits input ∧ ⌊rate.frameUnits output⌋ ≤ rate.frameUnits input ∧
        rate.frameUnits input < ⌈rate.frameUnits output⌉ + 1 := by
  have denNonneg := rate.denRange.1
  constructor
  · intro sound
    obtain ⟨interval, computed, least, greatest⟩ := sound.interval
    obtain ⟨duration, fallback, frame⟩ := sound.fallback
    obtain ⟨known, dividendFits, divisorFits, result⟩ :=
      (fallbackDuration_eq_ok_iff rate input).mp fallback
    have low := (le_microseconds_iff rate known computed 1 (by omega) (by omega)).mp least
    have high := mt (le_microseconds_iff rate known computed 1000000 (by omega)
      (by omega)).mpr (by omega)
    obtain ⟨positive, near⟩ := frame known (by omega)
    rw [result] at positive near
    rw [oneFrame_iff rate output known, ← floor_frameUnits, floor_near_iff] at near
    exact ⟨by omega, by omega, dividendFits, divisorFits,
      (one_le_frameUnits_iff rate input).mpr positive, near⟩
  · intro ⟨fast, slow, dividendFits, divisorFits, lasting, near⟩
    have known : 0 < rate.num := by omega
    obtain ⟨interval, computed⟩ : ∃ interval, rate.microseconds = .ok interval := by
      unfold microseconds
      rw [if_neg (by omega)]
      exact ⟨_, rfl⟩
    refine ⟨⟨interval, computed, ?_, ?_⟩, _, (fallbackDuration_eq_ok_iff rate input).mpr
      ⟨known, dividendFits, divisorFits, rfl⟩, ?_⟩
    · exact (le_microseconds_iff rate known computed 1 (by omega) (by omega)).mpr (by omega)
    · have high := mt (le_microseconds_iff rate known computed 1000000 (by omega)
        (by omega)).mp (by omega)
      omega
    · intro _ _
      refine ⟨(one_le_frameUnits_iff rate input).mp lasting, ?_⟩
      rw [oneFrame_iff rate output known, ← floor_frameUnits, floor_near_iff]
      exact near

/-- 25 frames a second, read in units of 1/12800 and written in units of 1/90000 seconds,
give 512 in place of 3600; an unknown rate has no interval and no duration; one frame a
second is a million microseconds. -/
theorem frame_rates_unsound :
    let pal : FrameRate := ⟨25, 1, by decide, by decide⟩
    let unknown : FrameRate := ⟨0, 1, by decide, by decide⟩
    let slow : FrameRate := ⟨1, 1, by decide, by decide⟩
    let input : TimeBase := ⟨1, 12800, by decide, by decide⟩
    let output : TimeBase := ⟨1, 90000, by decide, by decide⟩
    (pal.fallbackDuration input = .ok 512 ∧ ¬pal.OneFrame output 512 ∧ ¬pal.Sound input output) ∧
      (unknown.microseconds = .error .divisionByZero ∧
        unknown.fallbackDuration input = .error .divisionByZero) ∧
      ¬slow.Sound output output := by
  intro pal unknown slow input output
  refine ⟨⟨by decide, by decide, ?_⟩, ⟨rfl, by decide⟩, ?_⟩
  · intro sound
    obtain ⟨duration, computed, frame⟩ := sound.fallback
    have same : pal.fallbackDuration input = .ok 512 := by decide
    rw [same] at computed
    cases computed
    exact absurd (frame (by decide) (by decide)).2 (by decide)
  · intro sound
    obtain ⟨interval, computed, _, greatest⟩ := sound.interval
    have reached := (le_microseconds_iff slow (by decide) computed 1000000 (by omega)
      (by omega)).mpr (by decide)
    omega

end FrameRate

def palRate : FrameRate := ⟨25, 1, by decide, by decide⟩

def unknownRate : FrameRate := ⟨0, 1, by decide, by decide⟩

def palBase : TimeBase := ⟨1, 25, by decide, by decide⟩

end Ffvms.Concrete
