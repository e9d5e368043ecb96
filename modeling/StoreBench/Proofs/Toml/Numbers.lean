import StoreBench.Decimal.Layout
import StoreBench.Proofs.Text.Digits
import StoreBench.Toml.Reader

/-!
Contract: a written number is read back from the front of a line.

A number may be mistaken for the beginning of a date or of a time of day, and a whole number for a
double.  It is not, because of what follows its digits: neither a hyphen nor a colon, and behind a
whole number neither a point nor an exponent.

Owns:
- the reading of digits, and why digits alone are no date and no time of day;
- `number?_word`, the round trip of whole numbers without a sign;
- `number?_decimal`, the reading of digits with a point between them.

Does not own: which digits a double is written with, and which double they stand for.
-/

namespace StoreBench.Toml

open Text (AreDigits AreWhole areDigits_toDigits areWhole_toDigits)

variable {digits rest : List Char} {next : Char}

/-! ## Digits -/

theorem digitsGo_append (are : AreDigits digits) (ends : next.isDigit = false)
    (unjoined : next ≠ '_') (gathered : List Char) :
    digits?.go Char.isDigit gathered (digits ++ next :: rest) =
      (gathered.reverse ++ digits, next :: rest) := by
  induction digits generalizing gathered with
  | nil =>
    rw [List.nil_append, List.append_nil, digits?.go]
    · rw [ends]
      rfl
    · intro digit more joined
      exact absurd joined unjoined
  | cons digit digits inductionHypothesis =>
    have isDigit := are digit (.head _)
    rw [List.cons_append, digits?.go, if_pos isDigit, inductionHypothesis are.tail]
    · rw [List.reverse_cons, List.append_assoc, List.singleton_append]
    · intro _ _ joined
      subst joined
      cases isDigit

theorem digits?_append (are : AreDigits digits) (some : digits ≠ []) (ends : next.isDigit = false)
    (unjoined : next ≠ '_') :
    digits? Char.isDigit (digits ++ next :: rest) = .some (digits, next :: rest) := by
  cases digits with
  | nil => exact absurd rfl some
  | cons first digits =>
    rw [List.cons_append, digits?, if_pos (are first (.head _)),
      digitsGo_append are.tail ends unjoined]
    rfl

theorem wholeDigits?_append (whole : AreWhole digits) (ends : next.isDigit = false)
    (unjoined : next ≠ '_') :
    wholeDigits? (digits ++ next :: rest) = some (digits, next :: rest) := by
  rcases whole with rfl | ⟨nonempty, are, lead⟩
  · rfl
  · rw [wholeDigits?, digits?_append are nonempty ends unjoined]
    intro more zero
    cases digits with
    | nil => exact nonempty rfl
    | cons first digits =>
      cases zero
      exact lead rfl

/-! ## Neither dates nor times of day -/

theorem fixedDigits?_of_sign {sign : Char} (signed : sign.isDigit = false) (count : Nat)
    (input : List Char) : fixedDigits? (count + 1) (sign :: input) = none := by
  rw [fixedDigits?, List.take_succ_cons, List.all_cons, signed]
  exact if_neg fun both => Bool.false_ne_true both.2

/-- What follows a number of digits that can be taken off is a digit or the character behind. -/
theorem head?_of_fixedDigits? {count value : Nat} {behind : List Char}
    (are : AreDigits digits) (ends : next.isDigit = false)
    (taken : fixedDigits? count (digits ++ next :: rest) = some (value, behind)) :
    ∃ first, behind.head? = some first ∧ (first.isDigit = true ∨ first = next) := by
  rw [fixedDigits?] at taken
  split at taken
  · next fits =>
    cases taken
    rcases Nat.lt_or_ge digits.length count with short | long
    · -- the character behind would have been taken for a digit
      have inside : next ∈ (digits ++ next :: rest).take count := by
        obtain ⟨more, rfl⟩ := Nat.exists_eq_add_of_lt short
        rw [Nat.add_assoc, List.take_append, Nat.add_sub_cancel_left, List.take_succ_cons]
        exact List.mem_append_right _ List.mem_cons_self
      have digit := List.all_eq_true.1 fits.2 next inside
      rw [ends] at digit
      cases digit
    · rw [List.drop_append_of_le_length long]
      cases left : digits.drop count with
      | nil => exact ⟨next, rfl, .inr rfl⟩
      | cons first more =>
        exact ⟨first, rfl, .inl (are first (List.mem_of_mem_drop (left ▸ List.mem_cons_self)))⟩
  · cases taken

theorem mark?_of_head? {mark first : Char} {input : List Char} (head : input.head? = some first)
    (differs : first ≠ mark) : mark? mark input = none := by
  cases input with
  | nil => cases head
  | cons character input =>
    cases head
    exact if_neg differs

/-- Digits that are followed by neither a hyphen nor a colon begin no date and no time of day. -/
theorem moment?_digits (are : AreDigits digits) (ends : next.isDigit = false)
    (noDate : next ≠ '-') (noTime : next ≠ ':') : moment? (digits ++ next :: rest) = none := by
  have unmarked {mark : Char} (separates : mark.isDigit = false) (differs : next ≠ mark)
      {count value : Nat} {behind : List Char}
      (taken : fixedDigits? count (digits ++ next :: rest) = some (value, behind)) :
      mark? mark behind = none := by
    obtain ⟨first, head, kind⟩ := head?_of_fixedDigits? are ends taken
    refine mark?_of_head? head fun same => ?_
    subst same
    rcases kind with digit | same
    · rw [separates] at digit
      cases digit
    · exact differs same.symm
  have noDay : date? (digits ++ next :: rest) = none := by
    rw [date?]
    cases taken : fixedDigits? 4 (digits ++ next :: rest) with
    | none => rfl
    | some year => simp [unmarked (by decide) noDate taken]
  have noHour : time? (digits ++ next :: rest) = none := by
    rw [time?, twoDigits?]
    cases taken : fixedDigits? 2 (digits ++ next :: rest) with
    | none => rfl
    | some hour =>
      simp only [Option.bind_eq_bind, Option.bind_some]
      split
      · simp [unmarked (by decide) noTime taken]
      · rfl
  rw [moment?, noDay, noHour]

theorem moment?_of_sign {sign : Char} (signed : sign.isDigit = false) (input : List Char) :
    moment? (sign :: input) = none := by
  rw [moment?, date?, fixedDigits?_of_sign signed, time?, twoDigits?, fixedDigits?_of_sign signed]
  rfl

/-! ## Whole numbers -/

theorem sign_of_digit {first : Char} (digit : first.isDigit = true) (input : List Char) :
    sign (first :: input) = (false, first :: input) := by
  unfold sign
  split
  · next same =>
    cases same
    cases digit
  · next same =>
    cases same
    cases digit
  · rfl

theorem special?_of_digit {first : Char} (digit : first.isDigit = true) (input : List Char) :
    special? (first :: input) = none := by
  rw [special?, sign_of_digit digit]
  dsimp only
  split
  · next same =>
    cases same
    cases digit
  · next same =>
    cases same
    cases digit
  · rfl

theorem inBase_eq (are : AreDigits digits) : inBase 10 digits = Nat.ofDigitChars 10 digits 0 := by
  suffices all : ∀ start, digits.foldl
      (fun value digit => value * 10 + (Text.hexValue? digit).getD 0) start =
        Nat.ofDigitChars 10 digits start from all 0
  induction digits with
  | nil => exact fun start => Nat.ofDigitChars_nil.symm
  | cons digit digits inductionHypothesis =>
    intro start
    have bounds := Char.isDigit_iff_toNat.1 (are digit (.head _))
    have value : Text.hexValue? digit = some (digit.toNat - '0'.toNat) :=
      if_pos ⟨bounds.1, bounds.2⟩
    rw [List.foldl_cons, inductionHypothesis are.tail, Nat.ofDigitChars_cons, value,
      Option.getD_some, Nat.mul_comm]

theorem integer?_of_digit {first : Char} {input more : List Char} (digit : first.isDigit = true)
    (whole : wholeDigits? (first :: input) = some (digits, more))
    (plain : ∀ mark rest, input = mark :: rest → mark ≠ 'x' ∧ mark ≠ 'o' ∧ mark ≠ 'b') :
    integer? (first :: input) = (bounded? (inBase 10 digits)).map (·, more) := by
  unfold integer?
  split
  · next same =>
    cases same
    exact absurd rfl (plain _ _ rfl).1
  · next same =>
    cases same
    exact absurd rfl (plain _ _ rfl).2.1
  · next same =>
    cases same
    exact absurd rfl (plain _ _ rfl).2.2
  · rw [sign_of_digit digit]
    simp only [whole, Option.bind_eq_bind, Option.bind_some, Bool.false_eq_true, if_false]
    cases bounded? (inBase 10 digits) <;> rfl

/-- **A whole number without a sign is read back**, if it is one that a text can hold. -/
theorem number?_toDigits {number : Nat} (writable : isWritable number = true) (rest : List Char) :
    number? (Nat.toDigits 10 number ++ '\n' :: rest) =
      some (.integer number, '\n' :: rest) := by
  have whole := areWhole_toDigits number
  have are := whole.areDigits
  have noMoment : moment? (Nat.toDigits 10 number ++ '\n' :: rest) = none :=
    moment?_digits are (by decide) (by decide) (by decide)
  have taken : wholeDigits? (Nat.toDigits 10 number ++ '\n' :: rest) =
      some (Nat.toDigits 10 number, '\n' :: rest) :=
    wholeDigits?_append whole (by decide) (by decide)
  have value : inBase 10 (Nat.toDigits 10 number) = number := by
    rw [inBase_eq are, Nat.ofDigitChars_ten_toDigits]
  obtain ⟨first, more, spelling, digit⟩ := whole.exists_cons
  have unmarked : ∀ mark input, more ++ '\n' :: rest = mark :: input →
      mark ≠ 'x' ∧ mark ≠ 'o' ∧ mark ≠ 'b' := by
    intro mark input same
    cases more with
    | nil =>
      cases same
      decide
    | cons second more =>
      cases same
      have digit : mark.isDigit = true := are mark (by simp [spelling])
      refine ⟨?_, ?_, ?_⟩ <;> rintro rfl <;> cases digit
  rw [spelling, List.cons_append] at noMoment taken ⊢
  have noFloat : float? (first :: (more ++ '\n' :: rest)) = none := by
    rw [float?, special?_of_digit digit, decimal?, sign_of_digit digit]
    simp [taken, hasExponent]
  rw [number?, noMoment, noFloat]
  simp only
  rw [integer?_of_digit digit taken unmarked, ← spelling, value, bounded?, if_pos writable]
  rfl

/-! ## Doubles -/

theorem toList_signText (negative : Bool) :
    (Decimal.signText negative).toList = if negative then ['-'] else [] := by
  cases negative <;> rfl

theorem sign_signText {negative : Bool} {first : Char} (digit : first.isDigit = true)
    (input : List Char) :
    sign ((Decimal.signText negative).toList ++ first :: input) = (negative, first :: input) := by
  rw [toList_signText]
  cases negative with
  | true => rfl
  | false => exact sign_of_digit digit input

/-- **A decimal with a point is read back** as the double that its digits stand for, unless that is
infinite. -/
theorem number?_decimal {negative : Bool} {whole fraction : List Char} (front : AreWhole whole)
    (behind : AreDigits fraction) (some : fraction ≠ []) {value : Float}
    (stands : Decimal.ofParts negative whole fraction false [] = value)
    (bounded : (value == 1.0 / 0.0) = false) (rest : List Char) :
    number? ((Decimal.signText negative).toList ++
        (whole ++ '.' :: (fraction ++ '\n' :: rest))) =
      .some (.float value, '\n' :: rest) := by
  have taken : wholeDigits? (whole ++ '.' :: (fraction ++ '\n' :: rest)) =
      .some (whole, '.' :: (fraction ++ '\n' :: rest)) :=
    wholeDigits?_append front (by decide) (by decide)
  have further : digits? Char.isDigit (fraction ++ '\n' :: rest) =
      .some (fraction, '\n' :: rest) :=
    digits?_append behind some (by decide) (by decide)
  have noMoment : moment? ((Decimal.signText negative).toList ++
      (whole ++ '.' :: (fraction ++ '\n' :: rest))) = none := by
    rw [toList_signText]
    cases negative with
    | true => exact moment?_of_sign (by decide) _
    | false => exact moment?_digits front.areDigits (by decide) (by decide) (by decide)
  obtain ⟨first, more, rfl, digit⟩ := front.exists_cons
  have parts : decimal? ((Decimal.signText negative).toList ++
      (first :: more ++ '.' :: (fraction ++ '\n' :: rest))) = .some (value, '\n' :: rest) := by
    rw [List.cons_append] at taken
    rw [decimal?, List.cons_append, sign_signText digit]
    simp [taken, fraction?, further, hasExponent, stands, bounded]
  rw [number?, noMoment, float?, parts]
  rfl

end StoreBench.Toml
