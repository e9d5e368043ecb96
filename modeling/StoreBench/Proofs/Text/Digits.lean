import Mathlib.Algebra.Group.Nat.Defs

/-!
Contract: decimal digits and the number that they are the digits of.

Owns:
- `AreDigits` and `AreWhole`, and that the digits of a number are such;
- what one more digit in front adds, and how large a number of so many digits is;
- that zeros in front add nothing.

Does not own: reading digits off the front of a text.
-/

namespace StoreBench.Text

/-- A list of decimal digits. -/
def AreDigits (digits : List Char) : Prop := ∀ letter ∈ digits, letter.isDigit = true

/-- The digits of a whole number: zero by itself, or digits that do not begin with it. -/
def AreWhole (digits : List Char) : Prop :=
  digits = ['0'] ∨ digits ≠ [] ∧ AreDigits digits ∧ digits.head? ≠ some '0'

section
variable {digits more : List Char} {digit : Char}

theorem AreDigits.tail (are : AreDigits (digit :: digits)) : AreDigits digits :=
  fun letter member => are letter (.tail _ member)

theorem AreDigits.append (are : AreDigits digits) (moreAre : AreDigits more) :
    AreDigits (digits ++ more) := List.forall_mem_append.2 ⟨are, moreAre⟩

theorem areDigits_replicate (count : Nat) : AreDigits (List.replicate count '0') := by
  intro letter member
  rw [List.eq_of_mem_replicate member]
  rfl

theorem areDigits_toDigits (number : Nat) : AreDigits (Nat.toDigits 10 number) :=
  fun _ => Nat.isDigit_of_mem_toDigits (by decide) (by decide)

theorem AreWhole.areDigits (whole : AreWhole digits) : AreDigits digits := by
  rcases whole with rfl | ⟨_, are, _⟩
  · exact areDigits_replicate 1
  · exact are

theorem AreWhole.exists_cons (whole : AreWhole digits) :
    ∃ first more, digits = first :: more ∧ first.isDigit = true := by
  cases digits with
  | nil => rcases whole with zero | ⟨nonempty, _⟩ <;> contradiction
  | cons first more => exact ⟨first, more, rfl, whole.areDigits first (.head _)⟩

theorem head?_toDigits {number : Nat} (positive : 0 < number) :
    (Nat.toDigits 10 number).head? ≠ some '0' := by
  induction number using Nat.base_induction 10 (by decide) with
  | single digit small =>
    rw [Nat.toDigits_of_lt_base small]
    revert positive small digit
    decide
  | digit front last small more inductionHypothesis =>
    rw [← Nat.toDigits_append_toDigits (by decide) more small, List.head?_append,
      Option.or_of_isSome (List.isSome_head?.2 Nat.toDigits_ne_nil)]
    exact inductionHypothesis more

theorem areWhole_toDigits (number : Nat) : AreWhole (Nat.toDigits 10 number) := by
  rcases Nat.eq_zero_or_pos number with rfl | positive
  · exact .inl rfl
  · exact .inr ⟨Nat.toDigits_ne_nil, areDigits_toDigits number, head?_toDigits positive⟩

/-! ## The number of digits -/

theorem ofDigitChars_cons_eq (digit : Char) (digits : List Char) :
    Nat.ofDigitChars 10 (digit :: digits) 0 =
      10 ^ digits.length * (digit.toNat - '0'.toNat) + Nat.ofDigitChars 10 digits 0 := by
  rw [Nat.ofDigitChars_cons, Nat.mul_zero, Nat.zero_add]
  exact Nat.ofDigitChars_eq_ofDigitChars_zero

theorem ofDigitChars_lt_pow (are : AreDigits digits) :
    Nat.ofDigitChars 10 digits 0 < 10 ^ digits.length := by
  induction digits with
  | nil => exact Nat.one_pos
  | cons digit digits inductionHypothesis =>
    have lead : digit.toNat - '0'.toNat < 10 := by
      have greatest : digit.toNat ≤ 57 := (Char.isDigit_iff_toNat.1 (are digit (.head _))).2
      have zero : '0'.toNat = 48 := rfl
      omega
    have others := inductionHypothesis are.tail
    rw [ofDigitChars_cons_eq, List.length_cons, Nat.pow_succ]
    have multiple := Nat.mul_le_mul_left (10 ^ digits.length) (Nat.succ_le_of_lt lead)
    rw [Nat.mul_succ] at multiple
    omega

/-- Digits that do not begin with a zero are those of a number of that size. -/
theorem pow_le_ofDigitChars (are : AreDigits (digit :: digits)) (lead : digit ≠ '0') :
    10 ^ digits.length ≤ Nat.ofDigitChars 10 (digit :: digits) 0 := by
  have least := (Char.isDigit_iff_toNat.1 (are digit (.head _))).1
  have differs : digit.toNat ≠ '0'.toNat := fun same => lead (Char.toNat_inj.1 same)
  have zero : '0'.toNat = 48 := rfl
  have unit : 1 ≤ digit.toNat - '0'.toNat := by omega
  rw [ofDigitChars_cons_eq]
  have multiple := Nat.mul_le_mul_left (10 ^ digits.length) unit
  rw [Nat.mul_one] at multiple
  exact Nat.le_add_right_of_le multiple

theorem ofDigitChars_replicate_append (count : Nat) (digits : List Char) :
    Nat.ofDigitChars 10 (List.replicate count '0' ++ digits) 0 = Nat.ofDigitChars 10 digits 0 := by
  rw [Nat.ofDigitChars_append, Nat.ofDigitChars_replicate_zero, Nat.mul_zero]

theorem ofDigitChars_append_replicate (count : Nat) (digits : List Char) :
    Nat.ofDigitChars 10 (digits ++ List.replicate count '0') 0 =
      10 ^ count * Nat.ofDigitChars 10 digits 0 := by
  rw [Nat.ofDigitChars_append, Nat.ofDigitChars_replicate_zero]

/-- Zeros in front add nothing. -/
theorem ofDigitChars_dropWhile (digits : List Char) :
    Nat.ofDigitChars 10 (digits.dropWhile (· = '0')) 0 = Nat.ofDigitChars 10 digits 0 := by
  induction digits with
  | nil => rfl
  | cons digit digits inductionHypothesis =>
    rw [List.dropWhile_cons]
    split
    · next zero =>
      rw [inductionHypothesis, of_decide_eq_true zero]
      rfl
    · rfl

/-- The number that digits with zeros in front are the number of. -/
theorem ofDigitChars_leftpad (width number : Nat) :
    Nat.ofDigitChars 10 (List.leftpad width '0' (Nat.toDigits 10 number)) 0 = number := by
  rw [List.leftpad, ofDigitChars_replicate_append]
  exact Nat.ofDigitChars_toDigits (by decide) (by decide)

end

end StoreBench.Text
