import Mathlib
import StoreBench.Decimal.Shortest

/-!
Contract: a quantity is rounded to the double whose interval it lies in.

The bits of a double are worked out in whole numbers: a mantissa is shifted to the right until no
more places are left than a double has, and what falls off is kept as a round bit and a sticky bit.
The interval of a double describes the same from the other side, as the quantities that come to it.
Both meet at every double, also where the one below it is only half as far away.

Owns:
- `Approximates`, what the bits of a mantissa say of a number, and how it is kept by a shift;
- `IsDouble` and `Interval.Contains`, and the exponent that a quantity in an interval is shifted to;
- `roundWithAccuracy_eq`, the double that a quantity is rounded to;
- the doubles of whole numbers and of quotients.

Does not own: signs and zeros, and the bits of the doubles.
-/

namespace StoreBench.Decimal

open Float.Model
open Float.Model.UnpackedFloat

/-! ## Extended mantissas -/

/-- A number lies in the half of a unit that a mantissa and its round bit stand for, and the sticky
bit tells whether it lies behind the front of it. -/
structure Approximates (mantissa : ExtendedMantissa) (number : Rat) : Prop where
  front : 2 * (mantissa.mantissa : Rat) + mantissa.roundBit.toNat ≤ 2 * number
  back : 2 * number < 2 * (mantissa.mantissa : Rat) + mantissa.roundBit.toNat + 1
  sticky : mantissa.stickyBit = false ↔
    2 * number = 2 * (mantissa.mantissa : Rat) + mantissa.roundBit.toNat

namespace Approximates

variable {mantissa : ExtendedMantissa} {number : Rat}

theorem shiftRightOne (approximates : Approximates mantissa number) :
    Approximates mantissa.shiftRightOne (number / 2) := by
  obtain ⟨whole, round, sticky⟩ := mantissa
  obtain ⟨front, back, exact⟩ := approximates
  dsimp only at front back exact
  -- the last digit of the mantissa becomes the round bit
  have split : 2 * ((whole / 2 : Nat) : Rat) + (whole % 2 != 0).toNat = whole := by
    have digit : (whole % 2 != 0).toNat = whole % 2 := by
      rcases Nat.mod_two_eq_zero_or_one whole with even | odd
      · rw [even]; rfl
      · rw [odd]; rfl
    rw [digit]
    exact_mod_cast Nat.div_add_mod whole 2
  have low : (0 : Rat) ≤ round.toNat := Nat.cast_nonneg _
  have high : (round.toNat : Rat) ≤ 1 := by exact_mod_cast round.toNat_le
  refine ⟨?_, ?_, ?_⟩
  · rw [ExtendedMantissa.shiftRightOne]
    linarith
  · rw [ExtendedMantissa.shiftRightOne]
    linarith
  · rw [ExtendedMantissa.shiftRightOne]
    dsimp only
    rw [split, Bool.or_eq_false_iff, exact]
    constructor
    · rintro ⟨rfl, same⟩
      rw [Bool.toNat_false, Nat.cast_zero] at same
      linarith
    · intro same
      cases round with
      | false =>
        refine ⟨rfl, ?_⟩
        rw [Bool.toNat_false, Nat.cast_zero]
        linarith
      | true =>
        rw [Bool.toNat_true, Nat.cast_one] at front
        linarith

theorem shiftRight (approximates : Approximates mantissa number) (places : Nat) :
    Approximates (mantissa >>> places) (number / 2 ^ places) := by
  induction places with
  | zero =>
    rw [pow_zero, div_one]
    exact approximates
  | succ places inductionHypothesis =>
    rw [pow_succ, ← div_div]
    exact inductionHypothesis.shiftRightOne

/-- A number is rounded to the whole one that is nearest, and of two to the even one. -/
theorem roundedMantissa_eq (approximates : Approximates mantissa number) {nearest : Nat}
    (low : 2 * (nearest : Rat) - 1 ≤ 2 * number) (high : 2 * number ≤ 2 * (nearest : Rat) + 1)
    (even : nearest % 2 = 0 ∨
      2 * (nearest : Rat) - 1 < 2 * number ∧ 2 * number < 2 * (nearest : Rat) + 1) :
    mantissa.roundedMantissa = nearest := by
  obtain ⟨whole, round, sticky⟩ := mantissa
  obtain ⟨front, back, exact⟩ := approximates
  dsimp only at front back exact
  have above : 2 * nearest < 2 * whole + round.toNat + 2 := by
    have above : 2 * (nearest : Rat) < 2 * whole + round.toNat + 2 := by linarith
    exact_mod_cast above
  have below : 2 * whole + round.toNat ≤ 2 * nearest + 1 := by
    have below : 2 * (whole : Rat) + round.toNat ≤ 2 * nearest + 1 := by linarith
    exact_mod_cast below
  cases round with
  | false =>
    -- below the middle of two whole numbers
    have same : whole = nearest := by
      rw [Bool.toNat_false] at above below
      omega
    cases sticky <;> exact same
  | true =>
    cases sticky with
    | false =>
      -- in the middle, where the even one of both is meant
      have middle := exact.1 rfl
      rw [Bool.toNat_true, Nat.cast_one] at middle
      rw [Bool.toNat_true] at above below
      have nearestEven : nearest % 2 = 0 := by
        rcases even with even | ⟨inside, within⟩
        · exact even
        · rw [middle] at inside within
          have inside : 2 * nearest < 2 * whole + 2 := by
            have inside : 2 * (nearest : Rat) < 2 * whole + 2 := by linarith
            exact_mod_cast inside
          have within : 2 * whole < 2 * nearest := by
            have within : 2 * (whole : Rat) < 2 * nearest := by linarith
            exact_mod_cast within
          omega
      show whole + whole % 2 = nearest
      omega
    | true =>
      -- above the middle
      have behind : 2 * number ≠ 2 * (whole : Rat) + 1 := by
        intro same
        have none := exact.2 (by rw [same, Bool.toNat_true, Nat.cast_one])
        cases none
      rw [Bool.toNat_true, Nat.cast_one] at front
      rw [Bool.toNat_true] at above below
      have within : 2 * whole < 2 * nearest := by
        have within : 2 * (whole : Rat) < 2 * nearest := by
          have strict := lt_of_le_of_ne front behind.symm
          linarith
        exact_mod_cast within
      show whole + 1 = nearest
      omega

/-- A mantissa is the whole part of a number. -/
theorem whole (approximates : Approximates mantissa number) :
    mantissa.mantissa ≤ number ∧ number < mantissa.mantissa + 1 := by
  have low : (0 : Rat) ≤ mantissa.roundBit.toNat := Nat.cast_nonneg _
  have high : (mantissa.roundBit.toNat : Rat) ≤ 1 := by
    exact_mod_cast mantissa.roundBit.toNat_le
  constructor
  · linarith [approximates.front]
  · linarith [approximates.back]

theorem of_front {whole : Nat} {round : Bool} (front : 2 * number = 2 * whole + round.toNat) :
    Approximates ⟨whole, round, false⟩ number :=
  ⟨front.ge, front.trans_lt (lt_add_one _), fun _ => front, fun _ => rfl⟩

theorem of_inside {whole : Nat} {round : Bool}
    (front : 2 * (whole : Rat) + round.toNat < 2 * number)
    (back : 2 * number < 2 * whole + round.toNat + 1) : Approximates ⟨whole, round, true⟩ number :=
  ⟨front.le, back, nofun, fun same => absurd same front.ne'⟩

/-- A whole number as it is. -/
theorem of_whole (whole : Nat) : Approximates (.ofMantissaAndAccuracy whole .exact) whole :=
  of_front (by rw [Bool.toNat_false, Nat.cast_zero, add_zero])

/-- The whole part of a quotient, with what comes of comparing the rest with one half. -/
theorem of_div (numerator : Nat) {divisor : Nat} (positive : 0 < divisor) :
    Approximates
      (.ofMantissaAndAccuracy (numerator / divisor)
        (accuracyOfFraction (numerator % divisor) divisor))
      (numerator / divisor) := by
  have size : (0 : Rat) < divisor := by exact_mod_cast positive
  have small : ((numerator % divisor : Nat) : Rat) < divisor := by
    exact_mod_cast Nat.mod_lt numerator positive
  have split : (numerator : Rat) / divisor =
      (numerator / divisor : Nat) + (numerator % divisor : Nat) / divisor := by
    field_simp
    exact_mod_cast (Nat.div_add_mod numerator divisor).symm
  generalize numerator / divisor = whole at split ⊢
  generalize numerator % divisor = rest at small split ⊢
  rw [split, accuracyOfFraction]
  split
  · next none =>
    rw [none, Nat.cast_zero, zero_div, add_zero]
    exact of_whole whole
  · next some =>
    have fraction : (0 : Rat) < rest / divisor :=
      div_pos (by exact_mod_cast Nat.pos_of_ne_zero some) size
    have less : (rest : Rat) / divisor < 1 := (div_lt_one size).2 small
    cases compared : compare (2 * rest) divisor with
    | lt =>
      have below : (rest : Rat) / divisor < 1 / 2 := by
        have below : 2 * (rest : Rat) < divisor := by exact_mod_cast Nat.compare_eq_lt.1 compared
        rw [div_lt_div_iff₀ size two_pos]
        linarith
      apply of_inside <;> rw [Bool.toNat_false, Nat.cast_zero] <;> linarith
    | eq =>
      have middle : (rest : Rat) / divisor = 1 / 2 := by
        have middle : 2 * (rest : Rat) = divisor := by exact_mod_cast Nat.compare_eq_eq.1 compared
        rw [div_eq_div_iff size.ne' two_ne_zero]
        linarith
      apply of_front
      rw [Bool.toNat_true, Nat.cast_one]
      linarith
    | gt =>
      have above : 1 / 2 < (rest : Rat) / divisor := by
        have above : (divisor : Rat) < 2 * rest := by exact_mod_cast Nat.compare_eq_gt.1 compared
        rw [div_lt_div_iff₀ two_pos size]
        linarith
      apply of_inside <;> rw [Bool.toNat_true, Nat.cast_one] <;> linarith

end Approximates

/-! ## Intervals -/

/-- A quantity lies inside an interval, or at an end that belongs to it. -/
structure Interval.Contains (interval : Interval) (quantity : Rat) : Prop where
  low : interval.low ≤ quantity / 2 ^ interval.unit
  high : quantity / 2 ^ interval.unit ≤ interval.high
  ends : interval.closed = true ∨
    interval.low < quantity / 2 ^ interval.unit ∧ quantity / 2 ^ interval.unit < interval.high

/-- A significand and an exponent as the bits of a positive double give them. -/
structure IsDouble (significand : Nat) (exponent : Int) : Prop where
  positive : 0 < significand
  small : significand < 2 ^ 53
  least : -1074 ≤ exponent
  greatest : exponent ≤ 971
  full : exponent = -1074 ∨ 2 ^ 52 ≤ significand

section
variable {significand : Nat} {exponent : Int} {quantity : Rat}

theorem two_zpow_pos (exponent : Int) : (0 : Rat) < 2 ^ exponent := zpow_pos two_pos exponent

/-- Below a power of two the interval is narrower. -/
theorem Interval.low_around (double : IsDouble significand exponent) :
    (significand = 2 ^ 52 ∧ -1074 < exponent ∧
        ((around significand exponent).low : Rat) = 4 * significand - 1) ∨
      ((significand ≠ 2 ^ 52 ∨ exponent = -1074) ∧
        ((around significand exponent).low : Rat) = 4 * significand - 2) := by
  have positive := double.positive
  have least := double.least
  rw [around, Binary64.hiddenBit, Binary64.fractionBits, Binary64.leastExponent]
  dsimp only
  split
  · next narrow =>
    refine .inl ⟨narrow.1, narrow.2, ?_⟩
    rw [Nat.cast_sub (by omega), Nat.cast_mul, Nat.cast_ofNat, Nat.cast_one]
  · next wide =>
    refine .inr ⟨?_, ?_⟩
    · by_cases power : significand = 2 ^ 52
      · exact .inr (by have := mt (And.intro power) wide; omega)
      · exact .inl power
    · rw [Nat.cast_sub (by omega), Nat.cast_mul, Nat.cast_ofNat, Nat.cast_ofNat]

theorem Interval.unit_around (significand : Nat) (exponent : Int) (quantity : Rat) :
    quantity / 2 ^ (around significand exponent).unit = 4 * (quantity / 2 ^ exponent) := by
  rw [around, zpow_sub₀ two_ne_zero]
  field_simp
  norm_num

theorem Interval.high_around (significand : Nat) (exponent : Int) :
    ((around significand exponent).high : Rat) = 4 * significand + 2 := by
  rw [around]
  push_cast
  rfl

/-- In units of the last place the interval reaches at most one half to either side. -/
theorem Interval.Contains.scaled (inside : (around significand exponent).Contains quantity)
    (double : IsDouble significand exponent) :
    2 * (significand : Rat) - 1 ≤ 2 * (quantity / 2 ^ exponent) ∧
      2 * (quantity / 2 ^ exponent) ≤ 2 * (significand : Rat) + 1 ∧
      (significand % 2 = 0 ∨ 2 * (significand : Rat) - 1 < 2 * (quantity / 2 ^ exponent) ∧
        2 * (quantity / 2 ^ exponent) < 2 * (significand : Rat) + 1) := by
  obtain ⟨low, high, ends⟩ := inside
  rw [unit_around, high_around] at high ends
  rw [unit_around] at low
  have wide : 4 * (significand : Rat) - 2 ≤ (around significand exponent).low := by
    rcases low_around double with ⟨-, -, narrow⟩ | ⟨-, wide⟩ <;> linarith
  refine ⟨by linarith, by linarith, ends.imp (fun closed => ?_) fun inside => ?_⟩
  · exact of_decide_eq_true closed
  · exact ⟨by linarith [inside.1], by linarith [inside.2]⟩

/-! ## Exponents -/

theorem targetExponent_eq (total : Int) :
    Format.binary64.targetExponent total = max (total - 53) (-1074) := rfl

theorem targetExponent_totalExponent (whole : Nat) (exponent : Int) :
    Format.binary64.targetExponent (totalExponent whole exponent) =
      max (whole.log2 + exponent - 52) (-1074) := by
  rw [targetExponent_eq, totalExponent]
  omega

theorem lt_zpow_add_iff (places : Nat) :
    quantity < 2 ^ ((places : Int) + exponent) ↔ quantity / 2 ^ exponent < 2 ^ places := by
  rw [div_lt_iff₀ (two_zpow_pos exponent), zpow_add₀ two_ne_zero, zpow_natCast]

theorem zpow_add_le_iff (places : Nat) :
    2 ^ ((places : Int) + exponent) ≤ quantity ↔ 2 ^ places ≤ quantity / 2 ^ exponent := by
  rw [le_div_iff₀ (two_zpow_pos exponent), zpow_add₀ two_ne_zero, zpow_natCast]

theorem div_zpow_sub_one (quantity : Rat) (exponent : Int) :
    quantity / 2 ^ (exponent - 1) = 2 * (quantity / 2 ^ exponent) := by
  rw [zpow_sub_one₀ two_ne_zero]
  field_simp

theorem zpow_lt_iff {low high : Int} : (2 : Rat) ^ low < 2 ^ high ↔ low < high :=
  zpow_lt_zpow_iff_right₀ one_lt_two

/-- A quantity lies below the power of two behind the whole part of it. -/
theorem lt_of_whole {whole : Nat} (back : quantity / 2 ^ exponent < whole + 1) :
    quantity < 2 ^ ((whole.log2 + 1 : Nat) + exponent) := by
  rw [lt_zpow_add_iff]
  exact back.trans_le (by exact_mod_cast Nat.lt_log2_self)

/-- A quantity does not lie below the power of two in front of the whole part of it. -/
theorem le_of_whole {whole : Nat} (front : whole ≤ quantity / 2 ^ exponent) (some : whole ≠ 0) :
    2 ^ ((whole.log2 : Int) + exponent) ≤ quantity := by
  rw [zpow_add_le_iff]
  exact le_trans (by exact_mod_cast Nat.log2_self_le some) front

/-- Where a quantity is rounded to a double, its whole part is shifted to the exponent of the
double; or to the one below it, if the double is a power of two and the quantity is less. -/
theorem target_of_contains {start : Int} {whole : Nat} (double : IsDouble significand exponent)
    (inside : (Interval.around significand exponent).Contains quantity)
    (front : whole ≤ quantity / 2 ^ start) (back : quantity / 2 ^ start < whole + 1)
    (deep : start ≤ -1074 ∨ 2 ^ 52 ≤ whole) :
    max ((whole.log2 : Int) + start - 52) (-1074) = exponent ∨
      max ((whole.log2 : Int) + start - 52) (-1074) = exponent - 1 ∧ significand = 2 ^ 52 ∧
        -1074 < exponent ∧ quantity / 2 ^ exponent < 2 ^ 52 ∧
        4 * (2 : Rat) ^ 52 - 1 ≤ 4 * (quantity / 2 ^ exponent) := by
  have least := double.least
  have behind := lt_of_whole back
  have atMost : max ((whole.log2 : Int) + start - 52) (-1074) ≤ exponent := by
    rcases Nat.eq_zero_or_pos whole with rfl | some
    · have none : Nat.log2 0 = 0 := rfl
      omega
    · have size : (significand : Rat) + 1 ≤ 2 ^ 53 := by exact_mod_cast double.small
      have top : quantity < 2 ^ ((53 : Nat) + exponent) := by
        rw [lt_zpow_add_iff]
        linarith [(inside.scaled double).2.1]
      have order := zpow_lt_iff.1 ((le_of_whole front some.ne').trans_lt top)
      omega
  rcases double.full with subnormal | full
  · exact .inl (by omega)
  by_cases less : quantity / 2 ^ exponent < 2 ^ 52
  · rcases Interval.low_around double with ⟨power, above, low⟩ | ⟨wide, low⟩
    · have near : 4 * (2 : Rat) ^ 52 - 1 ≤ 4 * (quantity / 2 ^ exponent) := by
        have near := inside.low
        rw [Interval.unit_around, low, power] at near
        push_cast at near
        exact near
      have half : 2 ^ ((51 : Nat) + exponent) ≤ quantity := by
        rw [zpow_add_le_iff]
        linarith
      have order := zpow_lt_iff.1 (half.trans_lt behind)
      by_cases same : max ((whole.log2 : Int) + start - 52) (-1074) = exponent
      · exact .inl same
      · exact .inr ⟨by omega, power, above, less, near⟩
    · rcases wide with more | subnormal
      · have size : (2 : Rat) ^ 52 + 1 ≤ significand := by
          exact_mod_cast Nat.lt_of_le_of_ne full (Ne.symm more)
        linarith [(inside.scaled double).1]
      · exact .inl (by omega)
  · have order := zpow_lt_iff.1 (((zpow_add_le_iff 52).2 (not_lt.1 less)).trans_lt behind)
    exact .inl (by omega)

/-! ## Rounding -/

/-- A mantissa is shifted to the exponent that is meant for it, if it has that many places. -/
theorem shiftToTargetExponent_eq {start : Int} {whole : Nat} (accuracy : Accuracy)
    (deep : start ≤ -1074 ∨ 2 ^ 52 ≤ whole) :
    ∃ places : Nat, start + places = max ((whole.log2 : Int) + start - 52) (-1074) ∧
      shiftToTargetExponent Format.binary64 whole start accuracy =
        (ExtendedMantissa.ofMantissaAndAccuracy whole accuracy >>> places, start + places) := by
  refine ⟨(max ((whole.log2 : Int) + start - 52) (-1074) - start).toNat, ?_, ?_⟩
  · have enough : 2 ^ 52 ≤ whole → 52 ≤ whole.log2 := fun full =>
      (Nat.le_log2 (by omega)).2 full
    omega
  · rw [shiftToTargetExponent, targetExponent_totalExponent]
    rfl

/-- Nothing is left to shift once a mantissa is that of a double. -/
theorem shiftToTargetExponent_double (double : IsDouble significand exponent) :
    shiftToTargetExponent Format.binary64 significand exponent .exact =
      (.ofMantissaAndAccuracy significand .exact, exponent) := by
  have few : significand.log2 < 53 := (Nat.log2_lt double.positive.ne').2 double.small
  have least := double.least
  have none : (max ((significand.log2 : Int) + exponent - 52) (-1074) - exponent).toNat = 0 := by
    omega
  rw [shiftToTargetExponent, targetExponent_totalExponent, shiftToExponent, none]
  exact Prod.ext rfl (Int.add_zero exponent)

/-- A mantissa that was rounded up to one place too many is shifted once more. -/
theorem shiftToTargetExponent_carry (above : -1074 < exponent) :
    shiftToTargetExponent Format.binary64 (2 ^ 53) (exponent - 1) .exact =
      (.ofMantissaAndAccuracy (2 ^ 52) .exact, exponent) := by
  have once : (max (((2 ^ 53).log2 : Int) + (exponent - 1) - 52) (-1074) -
      (exponent - 1)).toNat = 1 := by
    rw [Nat.log2_two_pow]
    omega
  rw [shiftToTargetExponent, targetExponent_totalExponent, shiftToExponent, once]
  exact Prod.ext rfl (Int.sub_add_cancel exponent 1)

theorem mantissa_ofMantissaAndAccuracy (whole : Nat) (accuracy : Accuracy) :
    (ExtendedMantissa.ofMantissaAndAccuracy whole accuracy).mantissa = whole := by
  rcases accuracy with _ | _ | _ | _ <;> rfl

/-- **A quantity is rounded to the double whose interval it lies in.** -/
theorem roundWithAccuracy_eq {start : Int} {whole : Nat} {accuracy : Accuracy} (sign : Sign)
    (double : IsDouble significand exponent)
    (inside : (Interval.around significand exponent).Contains quantity)
    (approximates : Approximates (.ofMantissaAndAccuracy whole accuracy) (quantity / 2 ^ start))
    (deep : start ≤ -1074 ∨ 2 ^ 52 ≤ whole) :
    roundWithAccuracy Format.binary64 sign whole start accuracy =
      .finite sign significand exponent double.positive := by
  obtain ⟨places, sum, shifted⟩ := shiftToTargetExponent_eq accuracy deep
  have moved := approximates.shiftRight places
  rw [div_div, ← zpow_natCast, ← zpow_add₀ two_ne_zero] at moved
  have parts := approximates.whole
  rw [mantissa_ofMantissaAndAccuracy] at parts
  rcases target_of_contains double inside parts.1 parts.2 deep with
    same | ⟨less, power, above, below, near⟩
  · rw [sum.trans same] at moved shifted
    have rounded := moved.roundedMantissa_eq (inside.scaled double).1 (inside.scaled double).2.1
      (inside.scaled double).2.2
    rw [roundWithAccuracy, shifted]
    dsimp only
    rw [rounded, shiftToTargetExponent_double double]
    exact dif_neg double.positive.ne'
  · -- in units of half the size the quantity is rounded up to a power of two
    rw [sum.trans less] at moved shifted
    have rounded : (ExtendedMantissa.ofMantissaAndAccuracy whole accuracy >>>
        places).roundedMantissa = 2 ^ 53 := by
      refine moved.roundedMantissa_eq ?_ ?_ (.inl rfl)
      · rw [div_zpow_sub_one]
        push_cast
        linarith
      · rw [div_zpow_sub_one]
        push_cast
        linarith
    subst power
    rw [roundWithAccuracy, shifted]
    dsimp only
    rw [rounded, shiftToTargetExponent_carry above]
    exact dif_neg double.positive.ne'

/-! ## Whole numbers -/

theorem Interval.contains_self (double : IsDouble significand exponent) :
    (around significand exponent).Contains (significand * 2 ^ exponent) := by
  have place : (significand : Rat) * 2 ^ exponent / 2 ^ exponent = significand :=
    mul_div_cancel_right₀ _ (two_zpow_pos exponent).ne'
  have low : ((around significand exponent).low : Rat) < 4 * significand := by
    rcases low_around double with ⟨-, -, narrow⟩ | ⟨-, wide⟩ <;> linarith
  have high : 4 * (significand : Rat) < (around significand exponent).high := by
    rw [high_around]
    linarith
  have inside := (unit_around significand exponent (significand * 2 ^ exponent)).trans
    (congrArg (4 * ·) place)
  exact ⟨inside ▸ low.le, inside ▸ high.le, .inr ⟨inside ▸ low, inside ▸ high⟩⟩

/-- **A whole number of at most 53 places is a double as it is.** -/
theorem ofNat_eq {number : Nat} (positive : 0 < number) (small : number < 2 ^ 53) :
    ∃ significand exponent, ∃ double : IsDouble significand exponent,
      (significand : Rat) * 2 ^ exponent = number ∧
      UnpackedFloat.ofNat Format.binary64 number =
        .finite .positive significand exponent double.positive := by
  have few : number.log2 < 53 := (Nat.log2_lt positive.ne').2 small
  obtain ⟨places, more⟩ : ∃ places, 52 = number.log2 + places := Nat.exists_eq_add_of_le (by omega)
  have front : 2 ^ 52 ≤ number * 2 ^ places := by
    rw [more, Nat.pow_add]
    exact Nat.mul_le_mul_right _ (Nat.log2_self_le positive.ne')
  have back : number * 2 ^ places < 2 ^ 53 := by
    rw [show 53 = number.log2 + 1 + places by omega, Nat.pow_add]
    exact Nat.mul_lt_mul_of_pos_right Nat.lt_log2_self (Nat.two_pow_pos places)
  have double : IsDouble (number * 2 ^ places) (-places) :=
    ⟨by omega, back, by omega, by omega, .inr front⟩
  have value : ((number * 2 ^ places : Nat) : Rat) * 2 ^ (-places : Int) = number := by
    rw [zpow_neg, zpow_natCast]
    push_cast
    field_simp
  refine ⟨_, _, double, value, ?_⟩
  have target : Format.binary64.targetExponent (totalExponent number 0) = -places := by
    rw [targetExponent_totalExponent]
    omega
  have gt : compare (number : Int) 0 = .gt := Int.compare_eq_gt.2 (by omega)
  rw [UnpackedFloat.ofNat, UnpackedFloat.ofInt, UnpackedFloat.normalize, gt]
  dsimp only
  rw [Int.toNat_natCast, UnpackedFloat.round, target, decreaseExponent]
  have shift : (0 - -(places : Int)).toNat = places := by omega
  dsimp only
  rw [shift, Int.zero_sub, Nat.shiftLeft_eq]
  refine roundWithAccuracy_eq _ double (Interval.contains_self double) ?_ (.inr front)
  rw [mul_div_cancel_right₀ _ (two_zpow_pos _).ne']
  exact Approximates.of_whole _

/-! ## Quotients -/

/-- A quotient of mantissas has all places of a double, once enough places were added in front. -/
theorem le_shiftLeft_div {dividend divisor places : Nat} (some : dividend ≠ 0)
    (positive : 0 < divisor) (enough : divisor.log2 + 53 ≤ dividend.log2 + places) :
    2 ^ 52 ≤ dividend <<< places / divisor := by
  rw [Nat.le_div_iff_mul_le positive, Nat.shiftLeft_eq]
  calc 2 ^ 52 * divisor ≤ 2 ^ 52 * 2 ^ (divisor.log2 + 1) :=
        Nat.mul_le_mul_left _ Nat.lt_log2_self.le
    _ = 2 ^ (divisor.log2 + 53) := by
      rw [← Nat.pow_add]
      congr 1
      omega
    _ ≤ 2 ^ (dividend.log2 + places) := Nat.pow_le_pow_right (by decide) enough
    _ ≤ dividend * 2 ^ places := by
      rw [Nat.pow_add]
      exact Nat.mul_le_mul_right _ (Nat.log2_self_le some)

/-- **A quotient is rounded to the double whose interval it lies in.** -/
theorem div_eq {dividend divisor : Nat} {first second : Int} (signs : Sign × Sign)
    (some : 0 < dividend) (positive : 0 < divisor) (double : IsDouble significand exponent)
    (inside : (Interval.around significand exponent).Contains
      (dividend * 2 ^ first / (divisor * 2 ^ second))) :
    UnpackedFloat.div Format.binary64 (.finite signs.1 dividend first some)
        (.finite signs.2 divisor second positive) =
      .finite (signs.1 / signs.2) significand exponent double.positive := by
  rw [UnpackedFloat.div, divCore, targetExponent_eq, totalExponent, totalExponent]
  generalize target : min (first - second) (max (dividend.log2 + 1 + first -
    (divisor.log2 + 1 + second) - 53) (-1074)) = start
  obtain ⟨places, shift⟩ : ∃ places : Nat, first - second - start = places :=
    Int.eq_ofNat_of_zero_le (by omega)
  dsimp only
  rw [shift, Int.toNat_natCast]
  refine roundWithAccuracy_eq _ double inside ?_ ?_
  · have quotient : (dividend * 2 ^ first / (divisor * 2 ^ second) : Rat) / 2 ^ start =
        (dividend <<< places : Nat) / divisor := by
      have power : (2 : Rat) ^ first = 2 ^ places * 2 ^ start * 2 ^ second := by
        rw [← zpow_natCast, ← zpow_add₀ two_ne_zero, ← zpow_add₀ two_ne_zero]
        congr 1
        omega
      have size : (divisor : Rat) ≠ 0 := by exact_mod_cast positive.ne'
      have unit := (two_zpow_pos start).ne'
      have other := (two_zpow_pos second).ne'
      rw [power, Nat.shiftLeft_eq]
      push_cast
      field_simp
    rw [quotient]
    exact Approximates.of_div _ positive
  · by_cases deep : start ≤ -1074
    · exact .inl deep
    · exact .inr (le_shiftLeft_div some.ne' positive (by omega))

end

end StoreBench.Decimal
