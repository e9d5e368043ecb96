import StoreBench.Decimal.Layout
import StoreBench.Proofs.Decimal.Nearest

/-!
Contract: a finite double is read back from the digits that it is written with.

Owns:
- `Spells`, what digits in front of a point and behind it stand for;
- the digits of a decimal that is written without an exponent;
- the double that is read from the digits of a double, which is not the infinite one.

Does not own: where a text of digits ends.
-/

namespace StoreBench.Decimal

open Float.Model
open Float.Model.UnpackedFloat
open Text (AreDigits AreWhole areDigits_replicate areDigits_toDigits areWhole_toDigits
  head?_toDigits ofDigitChars_append_replicate ofDigitChars_leftpad)

/-- Digits in front of a point and behind it that stand for a number. -/
structure Spells (whole fraction : List Char) (number : Rat) : Prop where
  front : AreWhole whole
  behind : AreDigits fraction
  some : fraction ≠ []
  value : Nat.ofDigitChars 10 (whole ++ fraction) 0 * 10 ^ (-fraction.length : Int) = number

variable {decimal : Scientific}

/-! ## Digits of a decimal -/

theorem toList_pushn (text : String) (letter : Char) (count : Nat) :
    (text.pushn letter count).toList = text.toList ++ List.replicate count letter := by
  rw [String.pushn_eq_repeat_push]
  induction count with
  | zero => exact (List.append_nil _).symm
  | succ count inductionHypothesis =>
    rw [List.replicate_succ', ← List.append_assoc, ← inductionHypothesis]
    exact String.toList_push _

/-- Digits followed by zeros, where the point comes behind both. -/
theorem spells_whole (positive : 0 < decimal.digits) {zeros : Nat} (up : decimal.exponent = zeros) :
    (positionalText true decimal).toList =
        (Nat.toDigits 10 decimal.digits ++ List.replicate zeros '0') ++ '.' :: ['0'] ∧
      Spells (Nat.toDigits 10 decimal.digits ++ List.replicate zeros '0') ['0']
        (decimal.digits * 10 ^ decimal.exponent) := by
  constructor
  · rw [positionalText, if_pos (by omega), if_pos rfl, String.toList_append, toList_pushn, up,
      Int.toNat_natCast]
    exact congrArg (· ++ _ ++ _) Nat.toList_repr
  · refine ⟨.inr ⟨?_, ?_, ?_⟩, areDigits_replicate 1, List.cons_ne_nil _ _, ?_⟩
    · exact List.append_ne_nil_of_left_ne_nil Nat.toDigits_ne_nil _
    · exact (areDigits_toDigits _).append (areDigits_replicate zeros)
    · rw [List.head?_append, Option.or_of_isSome (List.isSome_head?.2 Nat.toDigits_ne_nil)]
      exact head?_toDigits positive
    · have joined : Nat.toDigits 10 decimal.digits ++ List.replicate zeros '0' ++ ['0'] =
          Nat.toDigits 10 decimal.digits ++ List.replicate (zeros + 1) '0' := by
        rw [List.append_assoc, List.replicate_succ']
      have ten : (10 : Rat) ≠ 0 := by norm_num
      rw [joined, ofDigitChars_append_replicate, up, zpow_natCast,
        Nat.ofDigitChars_toDigits (by decide) (by decide), List.length_singleton, Nat.cast_one,
        zpow_neg_one, ← div_eq_mul_inv, div_eq_iff ten, mul_assoc, ← pow_succ, mul_comm]
      push_cast
      rfl

/-- What stands in front of the last places is a whole number: digits, or the zero that was put
there. -/
theorem areWhole_take {number : Nat} (positive : 0 < number) (places : Nat) :
    AreWhole ((List.leftpad (places + 1) '0' (Nat.toDigits 10 number)).take
      ((List.leftpad (places + 1) '0' (Nat.toDigits 10 number)).length - places)) := by
  rw [List.length_leftpad, List.leftpad]
  rcases Nat.lt_or_ge places (Nat.toDigits 10 number).length with long | short
  · -- enough digits, so none was put in front of them
    rw [Nat.sub_eq_zero_of_le long, List.replicate_zero, List.nil_append, Nat.max_eq_right long]
    refine .inr ⟨?_, ?_, ?_⟩
    · exact fun none => absurd (List.take_eq_nil_iff.1 none) (by
        rw [not_or]
        exact ⟨by omega, Nat.toDigits_ne_nil⟩)
    · exact fun digit member => areDigits_toDigits number digit (List.mem_of_mem_take member)
    · rw [List.head?_take, if_neg (by omega)]
      exact head?_toDigits positive
  · -- the digits stand behind the point, and the first of the zeros in front of it
    rw [Nat.max_eq_left (by omega), Nat.add_sub_cancel_left, Nat.succ_sub short,
      List.replicate_succ]
    exact .inl rfl

/-- Digits with zeros in front of them, where the point comes between both or between digits. -/
theorem spells_fraction (positive : 0 < decimal.digits) {places : Nat} (some : places ≠ 0)
    (down : decimal.exponent = -places) :
    ∃ whole fraction, (positionalText true decimal).toList = whole ++ '.' :: fraction ∧
      Spells whole fraction (decimal.digits * 10 ^ decimal.exponent) := by
  have digits : (toString decimal.digits).toList = Nat.toDigits 10 decimal.digits := Nat.toList_repr
  have count : (-decimal.exponent).toNat = places := by omega
  have front := areWhole_take positive places
  have value := ofDigitChars_leftpad (places + 1) decimal.digits
  have are : AreDigits (List.leftpad (places + 1) '0' (Nat.toDigits 10 decimal.digits)) :=
    (areDigits_replicate _).append (areDigits_toDigits _)
  have long : places < (List.leftpad (places + 1) '0' (Nat.toDigits 10 decimal.digits)).length := by
    rw [List.length_leftpad]
    omega
  rw [positionalText, if_neg (by omega), digits, count, String.toList_ofList]
  generalize List.leftpad (places + 1) '0' (Nat.toDigits 10 decimal.digits) = padded at *
  have length : (padded.drop (padded.length - places)).length = places := by
    rw [List.length_drop]
    omega
  refine ⟨_, _, rfl, front, ?_, ?_, ?_⟩
  · exact fun digit member => are digit (List.mem_of_mem_drop member)
  · exact fun none => some (by rw [← length, none]; rfl)
  · rw [List.take_append_drop, value, length, down]

theorem exists_spells (positive : 0 < decimal.digits) :
    ∃ whole fraction, (positionalText true decimal).toList = whole ++ '.' :: fraction ∧
      Spells whole fraction (decimal.digits * 10 ^ decimal.exponent) := by
  rcases lt_or_ge decimal.exponent 0 with down | up
  · obtain ⟨places, opposite⟩ := Int.exists_eq_neg_ofNat down.le
    exact spells_fraction positive (by omega) opposite
  · exact ⟨_, _, spells_whole positive (Int.toNat_of_nonneg up).symm⟩

/-! ## Digits of a double -/

theorem render_finite (layout : Layout) (negative : Bool) {significand : Nat} (exponent : Int)
    (positive : 0 < significand) :
    layout.render (.finite negative significand exponent) =
      signText negative ++ layout.renderDecimal (shortest layout.tie significand exponent) := by
  cases significand with
  | zero => cases positive
  | succ significand => rfl

/-- **A finite double is read from the digits that it is written with.** -/
theorem exists_digits {value : Float} (finite : value.isFinite = true) :
    ∃ negative whole fraction, AreWhole whole ∧ AreDigits fraction ∧ fraction ≠ [] ∧
      (Layout.configuration.text value).toList =
        (signText negative).toList ++ (whole ++ '.' :: fraction) ∧
      ofParts negative whole fraction false [] = value := by
  have back := ofModel_pack value
  have finite : value.toModel.unpack.isFinite = true := finite
  rw [Layout.text, ofFloat_eq]
  cases unpacked : value.toModel.unpack with
  | notANumber => rw [unpacked] at finite; cases finite
  | infinity sign => rw [unpacked] at finite; cases finite
  | zero sign =>
    refine ⟨isNegative sign, ['0'], ['0'], .inl rfl, areDigits_replicate 1,
      List.cons_ne_nil _ _, ?_, ?_⟩
    · exact String.toList_append
    · rw [← back, unpacked]
      exact nearest_zero sign _ rfl
  | finite sign significand exponent positive =>
    have double : IsDouble significand exponent := isDouble_of_unpack unpacked
    have inside := contains_shortest .up double
    obtain ⟨whole, fraction, text, spells⟩ := exists_spells (inside.digits_pos double)
    refine ⟨isNegative sign, whole, fraction, spells.front, spells.behind, spells.some, ?_, ?_⟩
    · rw [Binary64.ofUnpacked, render_finite _ _ _ positive, String.toList_append]
      exact congrArg (_ ++ ·) text
    · have places : 0 - (fraction.length : Int) = -fraction.length := Int.zero_sub _
      have some : fraction.length ≠ 0 := fun none => spells.some (List.length_eq_zero_iff.1 none)
      rw [← spells.value] at inside
      rw [← back, unpacked]
      exact (congrArg (nearest _ _) places).trans
        (nearest_eq sign double (spells.front.areDigits.append spells.behind) some inside)

theorem beq_infinite {value : Float} (finite : value.isFinite = true) :
    (value == 1.0 / 0.0) = false := by
  have finite : value.toModel.unpack.isFinite = true := finite
  show UnpackedFloat.beq value.toModel.unpack (.infinity .positive) = false
  cases unpacked : value.toModel.unpack with
  | notANumber => rfl
  | infinity sign => rw [unpacked] at finite; cases finite
  | zero sign => rfl
  | finite sign significand exponent positive => cases sign <;> rfl

end StoreBench.Decimal
