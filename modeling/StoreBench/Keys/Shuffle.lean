import StoreBench.Keys.WordStream

/-!
Contract: the random order of a list of keys.

Owns: the exchange shuffle driven by a word stream, and that it permutes its input.
-/

namespace StoreBench.Keys

/-- Exchanges the entry at each position, from `position` down to 1, with a random one at or
before it. -/
def shuffleFrom : Nat → WordStream → Array UInt64 → Array UInt64
  | 0, _, keys => keys
  | position + 1, stream, keys =>
    let (target, later) := stream.below (position + 2).toUInt32
    shuffleFrom position later (keys.swapIfInBounds (position + 1) target.toNat)

/-- The keys in the random order of a stream. -/
def shuffle (stream : WordStream) (keys : Array UInt64) : Array UInt64 :=
  shuffleFrom (keys.size - 1) stream keys

theorem swapIfInBounds_perm (keys : Array UInt64) (left right : Nat) :
    (keys.swapIfInBounds left right).Perm keys := by
  unfold Array.swapIfInBounds
  split
  · split
    · exact Array.swap_perm _ _
    · exact .refl _
  · exact .refl _

theorem shuffleFrom_perm (position : Nat) (stream : WordStream) (keys : Array UInt64) :
    (shuffleFrom position stream keys).Perm keys := by
  induction position generalizing stream keys with
  | zero => exact .refl _
  | succ position inductionHypothesis =>
      exact (inductionHypothesis _ _).trans (swapIfInBounds_perm _ _ _)

/-- The shuffle hands back the keys it was given, each as often. -/
theorem shuffle_perm (stream : WordStream) (keys : Array UInt64) :
    (shuffle stream keys).Perm keys :=
  shuffleFrom_perm _ _ _

end StoreBench.Keys
