import StoreBench.Decimal.Binary64
import StoreBench.Decimal.Rounding

/-!
Contract: the shortest decimal that reads back as a given double.

A decimal reads back as a double when it lies in the interval of quantities that
round to it.  The search walks decimal grids from coarse to fine; the first grid with
a point inside the interval has the fewest digits, and of its points around the
double the nearer one is taken.

Owns: the rounding interval and the search.

Does not own: layout.
-/

namespace StoreBench.Decimal

/-- The positive quantity `digits · 10 ^ exponent`. -/
structure Scientific where
  digits : Nat
  exponent : Int
  deriving DecidableEq, Repr

/-- The interval of quantities that round to `significand · 2 ^ exponent`, in quarters of
the last binary place: its ends are `low` and `high`, and they belong to it when
`closed`. -/
structure Interval where
  low : Nat
  middle : Nat
  high : Nat
  /-- Ends and middle are counted in units of `2 ^ unit`. -/
  unit : Int
  closed : Bool
  deriving DecidableEq, Repr

/-- The rounding interval of a positive double.  Below a power of two the next double is
only half as far away. -/
def Interval.around (significand : Nat) (exponent : Int) : Interval where
  low :=
    if significand = Binary64.hiddenBit ∧ Binary64.leastExponent < exponent then
      4 * significand - 1
    else 4 * significand - 2
  middle := 4 * significand
  high := 4 * significand + 2
  unit := exponent - 2
  closed := significand % 2 == 0

/-- The interval's low end, middle and high end as multiples of `1 / divisor` on the grid of
multiples of `10 ^ grid`; the last component is `divisor`. -/
def Interval.onGrid (interval : Interval) (grid : Int) : Nat × Nat × Nat × Nat :=
  let scale := powerOf 2 interval.unit * powerOf 10 (-grid)
  let divisor := powerOf 2 (-interval.unit) * powerOf 10 grid
  (interval.low * scale, interval.middle * scale, interval.high * scale, divisor)

/-- The point of the grid of multiples of `10 ^ grid` that lies in the interval nearest to
its middle, if one of the two points around the middle lies in it. -/
def Interval.gridPoint? (interval : Interval) (tie : Tie) (grid : Int) : Option Nat :=
  let (low, middle, high, divisor) := interval.onGrid grid
  let inside (point : Nat) : Bool :=
    let scaled := point * divisor
    if interval.closed then low ≤ scaled && scaled ≤ high
    else low < scaled && scaled < high
  let below := middle / divisor
  let above := below + 1
  match inside below, inside above with
  | true, true => some (roundDiv tie middle divisor)
  | true, false => some below
  | false, true => some above
  | false, false => none

/-- Walks the grids downwards from `10 ^ grid`. -/
def Interval.search (interval : Interval) (tie : Tie) : Nat → Int → Scientific
  | 0, grid => ⟨0, grid⟩
  | fuel + 1, grid =>
    match interval.gridPoint? tie grid with
    | some point => ⟨point, grid⟩
    | none => search interval tie fuel (grid - 1)

/-- An exponent of ten at which the grid is coarser than the double, and at most two grids
above the double's leading digit: `1233 / 4096` is just below the logarithm of two. -/
def coarseGrid (significand : Nat) (exponent : Int) : Int :=
  ((significand.log2 : Int) + exponent + 1) * 1233 / 4096 + 2

/-- The shortest decimal that reads back as `significand · 2 ^ exponent`, for a positive
significand.  Of two shortest ones the nearer is taken; `tie` decides when both are
equally near. -/
def shortest (tie : Tie) (significand : Nat) (exponent : Int) : Scientific :=
  (Interval.around significand exponent).search tie 25 (coarseGrid significand exponent)

end StoreBench.Decimal
