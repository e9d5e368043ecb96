import StoreBench.Mix.Workload

/-!
Contract: random choices that depend on nothing but a seed and their numbers.

Owns: the scrambling of a word, the total of weights, the choice of an index by weight, and
the choices of one step.
-/

namespace StoreBench.Mix

/-- A word whose bits all depend on all bits of the given one. -/
def scramble (word : UInt64) : UInt64 :=
  let first := (word ^^^ (word >>> 30)) * 0xBF58476D1CE4E5B9
  let second := (first ^^^ (first >>> 27)) * 0x94D049BB133111EB
  second ^^^ (second >>> 31)

/-- Draw number `draw` of step number `step` of a seed. -/
def drawOf (seed step : UInt64) (draw : Nat) : Nat :=
  let spread : UInt64 := 0x9E3779B97F4A7C15
  (scramble (scramble (scramble (seed + spread) + step * spread) + draw.toUInt64 * spread)).toNat

/-- The length of the line that all weights fill together, one after the other. -/
def totalWeight (weights : List Float) : Float := weights.foldl (· + ·) 0.0

/-- The index of the weight into whose piece of the line a point falls, if the first piece begins
at `start`; the last index takes what lies beyond. -/
def indexAt (point start : Float) : List Float → Nat
  | [] => 0
  | [_] => 0
  | weight :: rest =>
    if point < start + weight then 0 else indexAt point (start + weight) rest + 1

/-- How many different shares of a line can be drawn. -/
def shareCount : Nat := Nat.pow 2 52

/-- A share of a line, below the whole of it. -/
def shareOf (draw : Nat) : Float := Float.ofNat (draw % shareCount) / Float.ofNat shareCount

/-- The length whose shares are drawn.  The product with the largest share may round up to the
whole total; then the next shorter length is taken, so that every point lies before the end. -/
def drawnLength (total : Float) : Float :=
  if shareOf (shareCount - 1) * total < total then total else Float.ofBits (total.toBits - 1)

/-- An index chosen by weight. -/
def weightedIndex (weights : List Float) (draw : Nat) : Nat :=
  indexAt (shareOf draw * drawnLength (totalWeight weights)) 0.0 weights

/-- The choices of step number `step` among kinds of the given weights. -/
def choicesOf (seed step : UInt64) (weights : List Float) : Choices where
  kind := weightedIndex weights (drawOf seed step 0)
  draws := fun draw => drawOf seed step (draw + 1)

end StoreBench.Mix
