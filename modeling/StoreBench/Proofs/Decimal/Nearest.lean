import StoreBench.Decimal.Reading
import StoreBench.Proofs.Decimal.Bits
import StoreBench.Proofs.Decimal.ShortestSearch
import StoreBench.Proofs.Text.Digits

/-!
Contract: digits behind a point are read as the double whose interval they lie in.

A few digits are divided by a power of ten as doubles; both are exact then, and only the quotient is
rounded.  More digits are divided as whole numbers.  Neither way is taken for decimals far outside
the range of doubles, and none of those lies in the interval of a double.

Owns:
- the range of what lies in the interval of a double;
- `ofScientific_eq`, both ways to divide by a power of ten;
- `nearest_eq` and `nearest_zero`, the double that digits are read as.

Does not own: decimals that are rounded to infinity or to zero.
-/

namespace StoreBench.Decimal

open Float.Model
open Float.Model.UnpackedFloat
open Text (AreDigits ofDigitChars_dropWhile ofDigitChars_lt_pow pow_le_ofDigitChars)

variable {significand digits places : Nat} {exponent : Int} {quantity : Rat}

/-! ## The range of doubles -/

theorem Interval.Contains.bounds (inside : (Interval.around significand exponent).Contains quantity)
    (double : IsDouble significand exponent) :
    2 ^ (-1076 : Int) < quantity ∧ quantity < 2 ^ (1024 : Int) := by
  obtain ⟨low, high, -⟩ := inside.scaled double
  have least := double.least
  have greatest := double.greatest
  constructor
  · have some : (1 : Rat) ≤ significand := by exact_mod_cast double.positive
    have half : 2 ^ ((0 : Nat) + (exponent - 1)) ≤ quantity := by
      rw [zpow_add_le_iff, div_zpow_sub_one, pow_zero]
      linarith
    exact (zpow_lt_iff.2 (by omega)).trans_le half
  · have size : (significand : Rat) + 1 ≤ 2 ^ 53 := by exact_mod_cast double.small
    have top : quantity < 2 ^ ((53 : Nat) + exponent) := by
      rw [lt_zpow_add_iff]
      linarith
    exact top.trans_le (zpow_le_zpow_right₀ one_le_two (by omega))

theorem Interval.Contains.digits_pos {power : Int}
    (inside : (Interval.around significand exponent).Contains (digits * 10 ^ power))
    (double : IsDouble significand exponent) : 0 < digits := by
  refine Nat.pos_of_ne_zero fun none => ?_
  have above := (two_zpow_pos _).trans (inside.bounds double).1
  rw [none, Nat.cast_zero, zero_mul] at above
  exact lt_irrefl 0 above

/-! ## Powers of ten -/

/-- The double of a power of ten that is a double as it is. -/
def powerOfTen (power : Nat) (small : power < 23) : Float :=
  getElem Float.exactlyRepresentablePowersOfTen power small

/-- Whether an unpacked double is a power of ten. -/
def isPowerOfTen (power : Nat) : UnpackedFloat → Bool
  | .finite .positive significand exponent _ =>
    significand * 2 ^ exponent.toNat == 10 ^ power * 2 ^ (-exponent).toNat
  | _ => false

theorem isPowerOfTen_powerOfTen :
    ∀ power, (small : power < 23) → isPowerOfTen power (powerOfTen power small).toModel.unpack := by
  decide +kernel

theorem unpack_powerOfTen {power : Nat} (small : power < 23) :
    ∃ significand exponent positive,
      (powerOfTen power small).toModel.unpack = .finite .positive significand exponent positive ∧
      (significand : Rat) * 2 ^ exponent = 10 ^ power := by
  have listed := isPowerOfTen_powerOfTen power small
  generalize (powerOfTen power small).toModel.unpack = entry at listed ⊢
  rw [isPowerOfTen.eq_def] at listed
  split at listed
  · next significand exponent positive =>
    refine ⟨significand, exponent, positive, rfl, ?_⟩
    have same : (significand : Rat) * 2 ^ exponent.toNat = 10 ^ power * 2 ^ (-exponent).toNat := by
      exact_mod_cast eq_of_beq listed
    have split : (2 : Rat) ^ exponent * 2 ^ (-exponent).toNat = 2 ^ exponent.toNat := by
      rw [← zpow_natCast, ← zpow_natCast, ← zpow_add₀ two_ne_zero]
      congr 1
      omega
    refine mul_right_cancel₀ (pow_ne_zero (-exponent).toNat two_ne_zero) ?_
    rw [mul_assoc, split, same]
  · cases listed

/-! ## Digits behind a point -/

/-- A whole number of at most 53 places is the quantity of the double that it is turned into. -/
theorem unpack_toFloat (positive : 0 < digits) (small : digits < 2 ^ 53) :
    ∃ significand exponent positive,
      digits.toUInt64.toFloat.toModel.unpack = .finite .positive significand exponent positive ∧
      (significand : Rat) * 2 ^ exponent = digits := by
  obtain ⟨significand, exponent, double, value, rounded⟩ := ofNat_eq positive small
  refine ⟨significand, exponent, double.positive, ?_, value⟩
  have word : digits.toUInt64.toNat = digits := Nat.mod_eq_of_lt (by omega)
  have packed : digits.toUInt64.toFloat.toModel =
      Float.Model.pack (.finite .positive significand exponent double.positive) := by
    rw [← rounded, ← congrArg (UnpackedFloat.ofNat Format.binary64) word]
    rfl
  rw [packed]
  exact unpack_pack .positive double

/-- Digits that do not come to less than every double do not have many more places behind the
point than they have in binary. -/
theorem places_lt (above : (2 : Rat) ^ (-1076 : Int) < digits * 10 ^ (-places : Int)) :
    places < digits.log2 + 1077 := by
  rw [zpow_neg (10 : Rat), ← div_eq_mul_inv, zpow_natCast,
    lt_div_iff₀ (pow_pos (by norm_num) places)] at above
  have order : (2 : Rat) ^ (-1076 + places : Int) < 2 ^ (digits.log2 + 1 : Nat) := by
    calc (2 : Rat) ^ (-1076 + places : Int) = 2 ^ (-1076 : Int) * 2 ^ places := by
          rw [zpow_add₀ two_ne_zero, zpow_natCast]
      _ ≤ 2 ^ (-1076 : Int) * 10 ^ places :=
          mul_le_mul_of_nonneg_left (pow_le_pow_left₀ (by norm_num) (by norm_num) places)
            (two_zpow_pos _).le
      _ < digits := above
      _ < 2 ^ (digits.log2 + 1) := by exact_mod_cast Nat.lt_log2_self
  rw [← zpow_natCast, zpow_lt_iff] at order
  omega

/-- The general way to divide. -/
theorem ofScientific_negOfNat (double : IsDouble significand exponent) (positive : 0 < digits)
    (some : places ≠ 0)
    (inside : (Interval.around significand exponent).Contains (digits * 10 ^ (-places : Int))) :
    UnpackedFloat.ofScientific Format.binary64 digits (Int.negOfNat places) =
      .finite .positive significand exponent double.positive := by
  have enough := places_lt (inside.bounds double).1
  have range : (2 ^ Format.binary64.exponentBits : Int) = 2 ^ 11 := rfl
  rw [UnpackedFloat.ofScientific, dif_neg positive.ne', Int.negOfNat_eq, Int.ofNat_eq_natCast,
    range, if_neg (by omega), if_neg (by omega), if_neg (by omega)]
  refine div_eq (.positive, .positive) positive _ double ?_
  rw [neg_neg, Int.toNat_natCast, zpow_zero, mul_one, mul_one, div_eq_mul_inv, Nat.cast_pow,
    ← zpow_natCast, ← zpow_neg]
  exact inside

/-- Both ways to divide by a power of ten come to the double whose interval the digits lie in. -/
theorem ofScientific_eq (double : IsDouble significand exponent) (some : places ≠ 0)
    (inside : (Interval.around significand exponent).Contains (digits * 10 ^ (-places : Int))) :
    Float.ofScientific digits true places = Float.ofModel
      (Float.Model.pack (.finite .positive significand exponent double.positive)) := by
  have positive := inside.digits_pos double
  rw [Float.ofScientific]
  split
  · next small =>
    -- the digits and the power of ten are doubles as they are, so only their quotient is rounded
    obtain ⟨dividend, first, front, whole, number⟩ := unpack_toFloat positive small.1
    obtain ⟨divisor, second, behind, power, size⟩ :=
      unpack_powerOfTen (Nat.lt_succ_of_le small.2)
    have quotient : UnpackedFloat.div Format.binary64 digits.toUInt64.toFloat.toModel.unpack
        (powerOfTen places (Nat.lt_succ_of_le small.2)).toModel.unpack =
        .finite .positive significand exponent double.positive := by
      rw [whole, power]
      refine div_eq (.positive, .positive) front behind double ?_
      rw [number, size, div_eq_mul_inv, ← zpow_natCast, ← zpow_neg]
      exact inside
    rw [← quotient]
    rfl
  · rw [← ofScientific_negOfNat double positive some inside]
    rfl

/-! ## Reading -/

theorem valueOf_eq (digits : List Char) : valueOf digits = Nat.ofDigitChars 10 digits 0 := by
  rw [Nat.ofDigitChars_eq_foldl, valueOf]
  congr 1
  funext value digit
  rw [Nat.mul_comm]
  rfl

theorem ten_zpow_lt_iff {low high : Int} : (10 : Rat) ^ low < 10 ^ high ↔ low < high :=
  zpow_lt_zpow_iff_right₀ (by norm_num)

/-- Digits without zeros in front stand for a number whose leading digit is at that place. -/
theorem lead_bounds {digits : List Char} (exponent : Int) (are : AreDigits digits)
    (some : digits ≠ []) (lead : digits.head? ≠ .some '0') :
    (10 : Rat) ^ (exponent + digits.length - 1) ≤ Nat.ofDigitChars 10 digits 0 * 10 ^ exponent ∧
      Nat.ofDigitChars 10 digits 0 * 10 ^ exponent < (10 : Rat) ^ (exponent + digits.length) := by
  have unit : (0 : Rat) < 10 ^ exponent := zpow_pos (by norm_num) _
  have place (count : Nat) : (10 : Rat) ^ (exponent + count) = 10 ^ count * 10 ^ exponent := by
    rw [add_comm, zpow_add₀ (by norm_num), zpow_natCast]
  constructor
  · cases digits with
    | nil => exact absurd rfl some
    | cons digit digits =>
      have size : (10 : Rat) ^ digits.length ≤ Nat.ofDigitChars 10 (digit :: digits) 0 := by
        exact_mod_cast pow_le_ofDigitChars are fun zero => lead (congrArg Option.some zero)
      rw [List.length_cons, Nat.cast_succ, ← add_assoc, add_sub_cancel_right, place]
      exact mul_le_mul_of_nonneg_right size unit.le
  · have size : (Nat.ofDigitChars 10 digits 0 : Rat) < 10 ^ digits.length := by
      exact_mod_cast ofDigitChars_lt_pow are
    rw [place]
    exact mul_lt_mul_of_pos_right size unit

theorem two_zpow_lt : (2 : Rat) ^ (1024 : Int) < 10 ^ (400 : Int) := by
  rw [← inv_lt_inv₀ (zpow_pos (by norm_num) _) (two_zpow_pos _), ← zpow_neg, ← zpow_neg]
  exact ten_zpow_lt (by decide) (by decide)

/-- The leading digit of what lies in the range of doubles is not far from the point. -/
theorem lead_of_bounds {digits : List Char} {exponent : Int} (are : AreDigits digits)
    (above : (2 : Rat) ^ (-1076 : Int) < Nat.ofDigitChars 10 digits 0 * 10 ^ exponent)
    (below : Nat.ofDigitChars 10 digits 0 * 10 ^ exponent < (2 : Rat) ^ (1024 : Int)) :
    -(farthestExponent : Int) ≤ exponent + (digits.dropWhile (· = '0')).length ∧
      exponent + (digits.dropWhile (· = '0')).length ≤ farthestExponent := by
  rw [← ofDigitChars_dropWhile] at above below
  -- without the zeros in front there is a digit left, or the number would be below every double
  have leading : AreDigits (digits.dropWhile (· = '0')) :=
    fun digit member => are digit (List.dropWhile_subset _ member)
  have some : digits.dropWhile (· = '0') ≠ [] := fun none => by
    rw [none, Nat.ofDigitChars_nil, Nat.cast_zero, zero_mul] at above
    exact (two_zpow_pos _).not_gt above
  have lead : (digits.dropWhile (· = '0')).head? ≠ .some '0' := fun zero => by
    have first := List.head?_dropWhile_not (· = '0') digits
    rw [zero] at first
    cases first
  obtain ⟨front, back⟩ := lead_bounds exponent leading some lead
  have tiny : (10 : Rat) ^ (-401 : Int) < 2 ^ (-1076 : Int) :=
    ten_zpow_lt (by decide) (by decide)
  have least := tiny.trans (above.trans back)
  have greatest := front.trans_lt (below.trans two_zpow_lt)
  rw [ten_zpow_lt_iff] at least greatest
  rw [farthestExponent]
  omega

theorem neg_ofModel (double : IsDouble significand exponent) :
    -Float.ofModel (Float.Model.pack (.finite .positive significand exponent double.positive)) =
      Float.ofModel (Float.Model.pack (.finite .negative significand exponent double.positive)) :=
  congrArg (fun unpacked => Float.ofModel (Float.Model.pack (UnpackedFloat.neg unpacked)))
    (unpack_pack .positive double)

/-- **Digits behind a point are read as the double whose interval they lie in.** -/
theorem nearest_eq (sign : Sign) {digits : List Char} (double : IsDouble significand exponent)
    (are : AreDigits digits) (some : places ≠ 0)
    (inside : (Interval.around significand exponent).Contains
      (Nat.ofDigitChars 10 digits 0 * 10 ^ (-places : Int))) :
    nearest (isNegative sign) digits (-places) =
      Float.ofModel (Float.Model.pack (.finite sign significand exponent double.positive)) := by
  have bounds := inside.bounds double
  have lead := lead_of_bounds are bounds.1 bounds.2
  have positive := inside.digits_pos double
  have behind : decide (-(places : Int) < 0) = true := decide_eq_true (by omega)
  rw [nearest, valueOf_eq, if_neg positive.ne', if_neg (not_lt.2 lead.2),
    if_neg (not_lt.2 lead.1), behind, Int.natAbs_neg, Int.natAbs_natCast,
    ofScientific_eq double some inside]
  cases sign with
  | positive => rfl
  | negative => exact neg_ofModel double

/-- Digits of nothing are read as a zero. -/
theorem nearest_zero (sign : Sign) {digits : List Char} (exponent : Int)
    (none : Nat.ofDigitChars 10 digits 0 = 0) :
    nearest (isNegative sign) digits exponent = Float.ofModel (Float.Model.pack (.zero sign)) := by
  rw [nearest, valueOf_eq, if_pos none]
  cases sign <;> rfl

end StoreBench.Decimal
