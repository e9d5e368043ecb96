/-!
Contract: a double-precision number as an exact quantity `± significand · 2 ^ exponent`.

Owns: the reading of the 64 bits.
-/

namespace StoreBench.Decimal

/-- What the bits of a double stand for. -/
inductive Binary64
  | notANumber
  | infinite (negative : Bool)
  /-- The quantity `significand · 2 ^ exponent` with a sign. -/
  | finite (negative : Bool) (significand : Nat) (exponent : Int)
  deriving DecidableEq, Repr

namespace Binary64

def fractionBits : Nat := 52

/-- The significand of a number whose leading bit is not written. -/
def hiddenBit : Nat := Nat.pow 2 fractionBits

/-- The exponent of the smallest numbers. -/
def leastExponent : Int := -1074

/-- Reads sign, exponent field and fraction. -/
def ofBits (bits : UInt64) : Binary64 :=
  let word := bits.toNat
  let negative := word / Nat.pow 2 63 == 1
  let field := word / hiddenBit % 2048
  let fraction := word % hiddenBit
  if field = 2047 then
    if fraction = 0 then .infinite negative else .notANumber
  else if field = 0 then .finite negative fraction leastExponent
  else .finite negative (fraction + hiddenBit) (leastExponent + (field - 1))

/-- The quantity a float stands for. -/
def ofFloat (value : Float) : Binary64 := ofBits value.toBits

end Binary64

end StoreBench.Decimal
