import StoreBench.Decimal.Binary64
import StoreBench.Decimal.Rounding
import StoreBench.Latency.Aggregate
import StoreBench.Total

/-!
Contract: latencies condensed to counts per precision class.

A class keeps the eleven leading bits of a latency, which is three decimal digits of
precision: every latency below 2048 has a class of its own, and beyond that a class is as
wide as the power of two that its dropped bits count.

Owns:
- the class of a latency, and its lowest, highest and middle latency;
- `Distribution`, the counts by class beside the exact extremes;
- ranks, percentiles and the mean that the classes answer.
-/

namespace StoreBench.Latency

/-- How many leading bits a class keeps. -/
def keptBits : Nat := 11

/-- Latencies from here on are not told apart. -/
def countedBelow : Nat := Nat.pow 2 37

/-- What a latency beyond the counted ones is counted as: a hundred seconds. -/
def longest : Nat := 100000000000

/-- The latency that is counted for `latency`. -/
def clamped (latency : Nat) : Nat := if latency < countedBelow then latency else longest

/-- The number of bits of a latency. -/
def bitLength (latency : Nat) : Nat := if latency = 0 then 0 else latency.log2 + 1

def classWidth (latency : Nat) : Nat := Nat.pow 2 (bitLength latency - keptBits)

def classLowest (latency : Nat) : Nat := latency / classWidth latency * classWidth latency

def classHighest (latency : Nat) : Nat := classLowest latency + classWidth latency - 1

def classMiddle (latency : Nat) : Nat := classLowest latency + classWidth latency / 2

/-- Latencies counted by class. -/
structure Distribution where
  /-- The classes met so far by their lowest latency, in increasing order, each with the
  number of its latencies. -/
  classes : List (Nat × Nat)
  least : UInt64
  greatest : UInt64
  deriving DecidableEq, Repr

namespace Distribution

def empty : Distribution := ⟨[], noLeast, 0⟩

/-- Counts one more latency in the class that begins at `lowest`. -/
def countIn (lowest : Nat) : List (Nat × Nat) → List (Nat × Nat)
  | [] => [(lowest, 1)]
  | (first, count) :: rest =>
    if lowest < first then (lowest, 1) :: (first, count) :: rest
    else if lowest = first then (first, count + 1) :: rest
    else (first, count) :: countIn lowest rest

def record (latency : UInt64) (distribution : Distribution) : Distribution where
  classes := countIn (classLowest (clamped latency.toNat)) distribution.classes
  least := min distribution.least latency
  greatest := max distribution.greatest latency

def count (distribution : Distribution) : Nat := total (distribution.classes.map Prod.snd)

/-- The first class, by its lowest latency, up to which at least `rank` latencies are
counted; `passed` are counted before the listed classes. -/
def classAtRank? (rank passed : Nat) : List (Nat × Nat) → Option Nat
  | [] => none
  | (lowest, count) :: rest =>
    if rank ≤ passed + count then some lowest else classAtRank? rank (passed + count) rest

/-- The highest latency of the class that holds the `rank`-th smallest latency. -/
def valueAtRank (distribution : Distribution) (rank : Nat) : Nat :=
  ((classAtRank? rank 0 distribution.classes).map classHighest).getD 0

/-- The greatest number of latencies that is told apart from others. -/
def greatestRank : Nat := UInt64.size - 1

/-- The rank that a share of all latencies asks for: the next whole rank of their product, which
is rounded like a product of doubles, and at least the first.  A share that is negative or not a
number asks for the first, too. -/
def rankOf (share : Float) (count : Nat) : Nat :=
  match Decimal.Binary64.ofFloat share with
  | .finite false significand exponent =>
    let product := Decimal.nearestDouble (significand * Decimal.nearestDouble count)
    max 1 (min greatestRank (Decimal.ceiling product exponent))
  | _ => 1

/-- The share of a percentile.  A percentile above one hundred is one hundred. -/
def shareOf (percentile : Float) : Float :=
  let share := percentile / 100.0
  if share > 1.0 then 1.0 else share

/-- The latency at a percentile: the highest of its class, or the lowest for percentile
zero; none without latencies. -/
def valueAtPercentile? (distribution : Distribution) (percentile : Float) : Option UInt64 :=
  if distribution.count = 0 then none
  else
    let share := shareOf percentile
    let found := classAtRank? (rankOf share distribution.count) 0 distribution.classes
    let edge := if share == 0.0 then classLowest else classHighest
    some ((found.map edge).getD 0).toUInt64

/-- The mean of the middles of the classes, added up from the lowest class on. -/
def mean (distribution : Distribution) : Float :=
  let all := Float.ofNat distribution.count
  distribution.classes.foldl
    (fun sum (lowest, count) => sum + Float.ofNat (classMiddle lowest) * Float.ofNat count / all)
    0.0

/-- The percentiles that reports show. -/
def reportedPercentiles : List Float := [90.0, 99.0, 99.9, 99.99]

def percentiles (distribution : Distribution) : List (Float × UInt64) :=
  reportedPercentiles.map fun percentile =>
    (percentile, (distribution.valueAtPercentile? percentile).getD 0)

instance : Aggregate Distribution where
  empty := empty
  record := record
  count := count
  least := least
  greatest := greatest
  mean := mean
  percentiles := percentiles

end Distribution

end StoreBench.Latency
