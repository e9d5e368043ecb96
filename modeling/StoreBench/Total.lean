/-!
Contract: the sum of natural numbers.

Owns: `total` and its equations.
-/

namespace StoreBench

/-- The sum of numbers. -/
def total : List Nat → Nat
  | [] => 0
  | first :: rest => first + total rest

theorem total_append (left right : List Nat) :
    total (left ++ right) = total left + total right := by
  induction left with
  | nil => simp [total]
  | cons first rest inductionHypothesis =>
    simp [total, inductionHypothesis, Nat.add_assoc]

end StoreBench
