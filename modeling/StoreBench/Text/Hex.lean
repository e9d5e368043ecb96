/-!
Contract: hexadecimal digits.

Owns: the value of a digit, the digit of a value, and that they agree.
-/

namespace StoreBench.Text

/-- The value of a hexadecimal digit, in either case. -/
def hexValue? (character : Char) : Option Nat :=
  if '0' ≤ character ∧ character ≤ '9' then some (character.toNat - 48)
  else if 'a' ≤ character ∧ character ≤ 'f' then some (character.toNat - 87)
  else if 'A' ≤ character ∧ character ≤ 'F' then some (character.toNat - 55)
  else none

/-- The lower-case hexadecimal digit of a value below sixteen. -/
def hexDigit (value : Nat) : Char := Nat.digitChar (value % 16)

/-- A digit is read back as the value that it was written for. -/
theorem hexValue?_hexDigit (value : Fin 16) : hexValue? (hexDigit value) = some value.val := by
  revert value
  decide

end StoreBench.Text
