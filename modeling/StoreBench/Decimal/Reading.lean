/-!
Contract: the double nearest to a decimal.

Owns: `nearest`, and the reading of digits, fraction and exponent.
-/

namespace StoreBench.Decimal

/-- The value of a list of decimal digits. -/
def valueOf (digits : List Char) : Nat :=
  digits.foldl (fun value digit => value * 10 + (digit.toNat - 48)) 0

/-- Decimals whose leading digit stands beyond this exponent are infinite or zero. -/
def farthestExponent : Nat := 400

/-- The double nearest to `digits · 10 ^ exponent`. -/
def nearest (negative : Bool) (digits : List Char) (exponent : Int) : Float :=
  let value := valueOf digits
  let lead := exponent + (digits.dropWhile (· = '0')).length
  let magnitude : Float :=
    if value = 0 then 0.0
    else if (farthestExponent : Int) < lead then 1.0 / 0.0
    else if lead < -(farthestExponent : Int) then 0.0
    else Float.ofScientific value (exponent < 0) exponent.natAbs
  if negative then -magnitude else magnitude

/-- The double nearest to a whole part, a fraction and an exponent, all given by their
digits. -/
def ofParts (negative : Bool) (whole fraction : List Char) (exponentNegative : Bool)
    (exponentDigits : List Char) : Float :=
  let size : Int := valueOf exponentDigits
  let exponent := if exponentNegative then -size else size
  nearest negative (whole ++ fraction) (exponent - fraction.length)

end StoreBench.Decimal
