import StoreBench.Decimal.Reading
import StoreBench.Toml.Quote
import StoreBench.Toml.Value

/-!
Contract: numbers.

Owns: the reading of whole numbers of 64 bits, in four bases, and of doubles.
-/

namespace StoreBench.Toml

/-- Takes a sign off the front: whether it is a minus. -/
def sign : List Char → Bool × List Char
  | '+' :: rest => (false, rest)
  | '-' :: rest => (true, rest)
  | input => (false, input)

/-- Takes the digits of a decimal off the front; only zero itself begins with a zero. -/
def wholeDigits? : List Char → Option (List Char × List Char)
  | '0' :: rest => some (['0'], rest)
  | input => digits? Char.isDigit input

/-- A whole number, unless it is too large. -/
def bounded? (value : Int) : Option Int := if isWritable value then some value else none

/-- The value of digits in a base. -/
def inBase (base : Nat) (digits : List Char) : Nat :=
  digits.foldl (fun value digit => value * base + (Text.hexValue? digit).getD 0) 0

/-- Takes digits of a base off the front. -/
def based? (base : Nat) (input : List Char) : Option (Int × List Char) := do
  let isDigit (character : Char) : Bool := (Text.hexValue? character).any (· < base)
  let (digits, rest) ← digits? isDigit input
  let value ← bounded? (inBase base digits)
  return (value, rest)

/-- Takes a whole number off the front. -/
def integer? : List Char → Option (Int × List Char)
  | '0' :: 'x' :: rest => based? 16 rest
  | '0' :: 'o' :: rest => based? 8 rest
  | '0' :: 'b' :: rest => based? 2 rest
  | input => do
    let (negative, rest) := sign input
    let (digits, rest) ← wholeDigits? rest
    let size : Int := inBase 10 digits
    let value ← bounded? (if negative then -size else size)
    return (value, rest)

/-- Takes a fraction off the front, if there is one. -/
def fraction? : List Char → Option (List Char × List Char)
  | '.' :: rest => digits? Char.isDigit rest
  | _ => none

/-- Takes an exponent off the front, if there is one: whether it is negative, and its digits. -/
def exponent? : List Char → Option ((Bool × List Char) × List Char)
  | mark :: rest =>
    if mark = 'e' ∨ mark = 'E' then do
      let (negative, rest) := sign rest
      let (digits, rest) ← digits? Char.isDigit rest
      return ((negative, digits), rest)
    else none
  | [] => none

/-- Whether an exponent stands in front. -/
def hasExponent : List Char → Bool
  | mark :: _ => mark == 'e' || mark == 'E'
  | [] => false

/-- Takes a decimal with a fraction or an exponent off the front.  One that is too large is
refused, unless it is negative. -/
def decimal? (input : List Char) : Option (Float × List Char) := do
  let (negative, rest) := sign input
  let (whole, rest) ← wholeDigits? rest
  let (fraction, rest) ← match rest with
    | '.' :: _ => fraction? rest
    | _ => if hasExponent rest then some ([], rest) else none
  let ((exponentNegative, exponentDigits), rest) ←
    if hasExponent rest then exponent? rest else some ((false, []), rest)
  let value := Decimal.ofParts negative whole fraction exponentNegative exponentDigits
  if value == 1.0 / 0.0 then none else some (value, rest)

/-- Takes infinity, or what is not a number, off the front. -/
def special? (input : List Char) : Option (Float × List Char) :=
  let (negative, rest) := sign input
  let signed (value : Float) : Float := if negative then -value else value
  match rest with
  | 'i' :: 'n' :: 'f' :: rest => some (signed (1.0 / 0.0), rest)
  | 'n' :: 'a' :: 'n' :: rest => some (signed (0.0 / 0.0), rest)
  | _ => none

/-- Takes a double off the front. -/
def float? (input : List Char) : Option (Float × List Char) := (decimal? input).or (special? input)

end StoreBench.Toml
