/-!
Contract: rounding a quotient of natural numbers to an integer.

Owns:
- powers, which numerators and denominators are made of;
- the nearest integer to a quotient, with the two ways a tie can go;
- the double nearest to a natural number, and the next whole number.
-/

namespace StoreBench.Decimal

/-- `base ^ exponent`; a negative exponent counts as zero. -/
def powerOf (base : Nat) (exponent : Int) : Nat := Nat.pow base exponent.toNat

/-- Where a quotient exactly between two integers goes. -/
inductive Tie
  | toEven
  | up
  deriving DecidableEq, Repr

/-- Whether the remainder of a division is rounded away, given the quotient it is left over
from. -/
def roundsUp (tie : Tie) (quotient remainder divisor : Nat) : Bool :=
  if 2 * remainder < divisor then false
  else if divisor < 2 * remainder then true
  else match tie with
    | .toEven => quotient % 2 == 1
    | .up => true

def roundDiv (tie : Tie) (numerator divisor : Nat) : Nat :=
  let quotient := numerator / divisor
  if roundsUp tie quotient (numerator % divisor) divisor then quotient + 1 else quotient

/-- How far apart the doubles around a natural number are, or one if they are closer: their
significands have 53 bits. -/
def spacing (number : Nat) : Nat := Nat.pow 2 (number.log2 - 52)

/-- The double nearest to a natural number, which is a natural number too; a tie goes to the even
significand. -/
def nearestDouble (number : Nat) : Nat :=
  roundDiv .toEven number (spacing number) * spacing number

/-- The least whole number that is not below `number · 2 ^ exponent`. -/
def ceiling (number : Nat) (exponent : Int) : Nat :=
  let divisor := powerOf 2 (-exponent)
  (number * powerOf 2 exponent + (divisor - 1)) / divisor

/-- The rounded quotient is at most half a unit away. -/
theorem roundDiv_near (tie : Tie) (numerator divisor : Nat) (positive : 0 < divisor) :
    2 * numerator ≤ (2 * roundDiv tie numerator divisor + 1) * divisor ∧
      2 * roundDiv tie numerator divisor * divisor ≤ 2 * numerator + divisor := by
  have split := Nat.div_add_mod numerator divisor
  have small := Nat.mod_lt numerator positive
  have up : roundsUp tie (numerator / divisor) (numerator % divisor) divisor = true →
      divisor ≤ 2 * (numerator % divisor) := by
    unfold roundsUp
    grind
  have down : ¬ roundsUp tie (numerator / divisor) (numerator % divisor) divisor = true →
      2 * (numerator % divisor) ≤ divisor := by
    unfold roundsUp
    grind
  unfold roundDiv
  generalize numerator / divisor = quotient at *
  generalize numerator % divisor = remainder at *
  have commuted : divisor * quotient = quotient * divisor := Nat.mul_comm _ _
  simp only
  split
  · rename_i taken
    have := up taken
    constructor <;> simp only [Nat.add_mul, Nat.mul_add, Nat.mul_assoc] <;> omega
  · rename_i taken
    have := down taken
    constructor <;> simp only [Nat.add_mul, Nat.mul_assoc] <;> omega

end StoreBench.Decimal
