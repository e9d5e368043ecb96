import StoreBench.Proofs.Decimal.Rounding

/-!
Contract: the search for the shortest decimal ends with a decimal that is rounded to the double.

A grid that is finer than half a unit of the last place has a point between the double and the
upper end of its interval.  The search gets to such a grid before its fuel is used up.

Owns:
- the points of a grid inside an interval;
- `contains_shortest`, that the search ends with such a point.

Does not own: that no shorter decimal lies in the interval.
-/

namespace StoreBench.Decimal

variable {significand : Nat} {exponent : Int}

/-! ## Powers -/

theorem powerOf_div {base : Nat} (positive : 0 < base) (exponent : Int) :
    (powerOf base exponent : Rat) / powerOf base (-exponent) = base ^ exponent := by
  have size : (base : Rat) ≠ 0 := by exact_mod_cast positive.ne'
  have whole (exponent : Int) : (powerOf base exponent : Rat) = base ^ (exponent.toNat : Int) := by
    rw [zpow_natCast]
    exact_mod_cast rfl
  rw [whole, whole, ← zpow_sub₀ size]
  congr 1
  omega

/-- Ten is less than 2^(10/3) and more than 2^(33/10). -/
theorem ten_zpow_lt {tens twos : Int} (above : 10 * tens < 3 * twos)
    (below : 33 * tens < 10 * twos) : (10 : Rat) ^ tens < 2 ^ twos := by
  rcases Int.le_total 0 tens with up | down
  · refine lt_of_pow_lt_pow_left₀ 3 (two_zpow_pos twos).le ?_
    calc ((10 : Rat) ^ tens) ^ 3 = ((10 : Rat) ^ 3) ^ tens := by
          rw [← zpow_natCast, zpow_comm, zpow_natCast]
      _ ≤ (2 ^ 10) ^ tens := zpow_le_zpow_left₀ up (by norm_num) (by norm_num)
      _ = 2 ^ (10 * tens) := by rw [zpow_mul, zpow_ofNat]
      _ < 2 ^ (twos * 3) := zpow_lt_iff.2 (by omega)
      _ = (2 ^ twos) ^ 3 := by rw [zpow_mul, zpow_ofNat]
  · refine lt_of_pow_lt_pow_left₀ 10 (two_zpow_pos twos).le ?_
    have more : ((2 : Rat) ^ 33) ^ (-tens) ≤ ((10 : Rat) ^ 10) ^ (-tens) :=
      zpow_le_zpow_left₀ (by omega) (by norm_num) (by norm_num)
    rw [zpow_neg, zpow_neg] at more
    calc ((10 : Rat) ^ tens) ^ 10 = ((10 : Rat) ^ 10) ^ tens := by
          rw [← zpow_natCast, zpow_comm, zpow_natCast]
      _ ≤ (2 ^ 33) ^ tens :=
          (inv_le_inv₀ (zpow_pos (by norm_num) _) (zpow_pos (by norm_num) _)).1 more
      _ = 2 ^ (33 * tens) := by rw [zpow_mul, zpow_ofNat]
      _ < 2 ^ (twos * 10) := zpow_lt_iff.2 (by omega)
      _ = (2 ^ twos) ^ 10 := by rw [zpow_mul, zpow_ofNat]

/-! ## Points on a grid -/

namespace Interval

/-- What the ends of an interval are multiplied with on a grid. -/
def scaleOn (interval : Interval) (grid : Int) : Nat :=
  powerOf 2 interval.unit * powerOf 10 (-grid)

/-- What the points of a grid are multiplied with. -/
def divisorOn (interval : Interval) (grid : Int) : Nat :=
  powerOf 2 (-interval.unit) * powerOf 10 grid

/-- Whether a point of a grid lies in an interval. -/
def isInside (interval : Interval) (grid : Int) (point : Nat) : Bool :=
  let low := interval.low * interval.scaleOn grid
  let scaled := point * interval.divisorOn grid
  let high := interval.high * interval.scaleOn grid
  if interval.closed then low ≤ scaled && scaled ≤ high else low < scaled && scaled < high

/-- The point of a grid at the middle of an interval or below it. -/
def pointBelow (interval : Interval) (grid : Int) : Nat :=
  interval.middle * interval.scaleOn grid / interval.divisorOn grid

variable {interval : Interval} {tie : Tie} {grid : Int} {point : Nat}

theorem gridPoint?_eq (interval : Interval) (tie : Tie) (grid : Int) :
    interval.gridPoint? tie grid =
      match interval.isInside grid (interval.pointBelow grid),
        interval.isInside grid (interval.pointBelow grid + 1) with
      | true, true =>
        some (roundDiv tie (interval.middle * interval.scaleOn grid) (interval.divisorOn grid))
      | true, false => some (interval.pointBelow grid)
      | false, true => some (interval.pointBelow grid + 1)
      | false, false => none := rfl

theorem scaleOn_pos (interval : Interval) (grid : Int) : 0 < interval.scaleOn grid :=
  Nat.mul_pos (Nat.pow_pos two_pos) (Nat.pow_pos (by decide))

theorem divisorOn_pos (interval : Interval) (grid : Int) : 0 < interval.divisorOn grid :=
  Nat.mul_pos (Nat.pow_pos two_pos) (Nat.pow_pos (by decide))

theorem divisorOn_div_scaleOn (interval : Interval) (grid : Int) :
    (interval.divisorOn grid : Rat) / interval.scaleOn grid = 10 ^ grid / 2 ^ interval.unit := by
  have two := powerOf_div two_pos interval.unit
  have ten := powerOf_div (by decide : 0 < 10) grid
  rw [divisorOn, scaleOn]
  push_cast at two ten ⊢
  rw [← two, ← ten]
  field_simp

theorem contains_of_isInside (inside : interval.isInside grid point = true) :
    interval.Contains (point * 10 ^ grid) := by
  have size : (0 : Rat) < interval.scaleOn grid := by exact_mod_cast interval.scaleOn_pos grid
  have place : (point : Rat) * 10 ^ grid / 2 ^ interval.unit =
      point * interval.divisorOn grid / interval.scaleOn grid := by
    rw [mul_div_assoc, ← divisorOn_div_scaleOn, mul_div_assoc]
  rw [isInside] at inside
  split at inside
  · next closed =>
    rw [Bool.and_eq_true, decide_eq_true_iff, decide_eq_true_iff] at inside
    obtain ⟨low, high⟩ := inside
    refine ⟨?_, ?_, .inl closed⟩
    · rw [place, le_div_iff₀ size]
      exact_mod_cast low
    · rw [place, div_le_iff₀ size]
      exact_mod_cast high
  · rw [Bool.and_eq_true, decide_eq_true_iff, decide_eq_true_iff] at inside
    have low : (interval.low : Rat) < point * interval.divisorOn grid / interval.scaleOn grid := by
      rw [lt_div_iff₀ size]
      exact_mod_cast inside.1
    have high :
        (point : Rat) * interval.divisorOn grid / interval.scaleOn grid < interval.high := by
      rw [div_lt_iff₀ size]
      exact_mod_cast inside.2
    rw [← place] at low high
    exact ⟨low.le, high.le, .inr ⟨low, high⟩⟩

/-- **A point that is found lies in the interval.** -/
theorem contains_of_gridPoint? (found : interval.gridPoint? tie grid = some point) :
    interval.Contains (point * 10 ^ grid) := by
  apply contains_of_isInside
  rw [gridPoint?_eq] at found
  split at found
  · next below above =>
    -- of the two points around the middle, the nearer one
    cases found
    rw [roundDiv]
    split
    · exact above
    · exact below
  · next below _ =>
    cases found
    exact below
  · next _ above =>
    cases found
    exact above
  · cases found

/-- A point is found on a grid that is finer than the interval is wide above its middle. -/
theorem isSome_gridPoint? (low : interval.low ≤ interval.middle)
    (fine : interval.middle * interval.scaleOn grid + interval.divisorOn grid <
      interval.high * interval.scaleOn grid) :
    (interval.gridPoint? tie grid).isSome = true := by
  have above : interval.isInside grid (interval.pointBelow grid + 1) = true := by
    have positive := interval.divisorOn_pos grid
    have front := Nat.mul_le_mul_right (interval.scaleOn grid) low
    have behind : interval.middle * interval.scaleOn grid <
        (interval.pointBelow grid + 1) * interval.divisorOn grid := by
      rw [Nat.mul_comm (_ + 1)]
      exact Nat.lt_mul_div_succ _ positive
    have within : (interval.pointBelow grid + 1) * interval.divisorOn grid ≤
        interval.middle * interval.scaleOn grid + interval.divisorOn grid := by
      rw [Nat.add_mul, Nat.one_mul]
      exact Nat.add_le_add_right (Nat.div_mul_le_self _ _) _
    rw [isInside]
    split
    · rw [Bool.and_eq_true, decide_eq_true_iff, decide_eq_true_iff]
      omega
    · rw [Bool.and_eq_true, decide_eq_true_iff, decide_eq_true_iff]
      omega
  rw [gridPoint?_eq, above]
  cases interval.isInside grid (interval.pointBelow grid) <;> rfl

/-! ## The search -/

/-- The search ends at a grid with a point, if it gets to one. -/
theorem gridPoint?_search {fuel steps : Nat} (early : steps < fuel)
    (some : (interval.gridPoint? tie (grid - steps)).isSome = true) :
    interval.gridPoint? tie (interval.search tie fuel grid).exponent =
      .some (interval.search tie fuel grid).digits := by
  induction fuel generalizing grid steps with
  | zero => cases early
  | succ fuel inductionHypothesis =>
    rw [search]
    cases found : interval.gridPoint? tie grid with
    | some point => exact found
    | none =>
      cases steps with
      | zero =>
        rw [Nat.cast_zero, sub_zero, found] at some
        cases some
      | succ steps =>
        refine inductionHypothesis (Nat.lt_of_succ_lt_succ early) ?_
        rw [sub_sub, add_comm 1, ← Nat.cast_succ]
        exact some

end Interval

/-- Twenty-four grids below the first one the grid is finer than half a unit of the last place. -/
theorem coarseGrid_fine (double : IsDouble significand exponent) :
    (10 : Rat) ^ (coarseGrid significand exponent - 24) < 2 ^ (exponent - 1) := by
  have few : significand.log2 < 53 := (Nat.log2_lt double.positive.ne').2 double.small
  have least := double.least
  have greatest := double.greatest
  rw [coarseGrid]
  apply ten_zpow_lt <;> omega

theorem divisorOn_lt (significand : Nat) {grid : Int}
    (fine : (10 : Rat) ^ grid < 2 ^ (exponent - 1)) :
    (Interval.around significand exponent).divisorOn grid <
      2 * (Interval.around significand exponent).scaleOn grid := by
  have ratio := (Interval.around significand exponent).divisorOn_div_scaleOn grid
  have size : (0 : Rat) < (Interval.around significand exponent).scaleOn grid := by
    exact_mod_cast (Interval.around significand exponent).scaleOn_pos grid
  have unit : (Interval.around significand exponent).unit = exponent - 2 := rfl
  have half : (2 : Rat) ^ (exponent - 1) = 2 * 2 ^ (exponent - 2) := by
    rw [← zpow_one_add₀ two_ne_zero]
    congr 1
    omega
  have narrow : (10 : Rat) ^ grid / 2 ^ (exponent - 2) < 2 := by
    rw [div_lt_iff₀ (two_zpow_pos _), ← half]
    exact fine
  rw [unit] at ratio
  rw [← ratio, div_lt_iff₀ size] at narrow
  exact_mod_cast narrow

/-- **The shortest decimal lies in the interval of the double.** -/
theorem contains_shortest (tie : Tie) (double : IsDouble significand exponent) :
    (Interval.around significand exponent).Contains
      ((shortest tie significand exponent).digits *
        10 ^ (shortest tie significand exponent).exponent) := by
  apply Interval.contains_of_gridPoint?
  refine Interval.gridPoint?_search (show 24 < 25 by decide) (Interval.isSome_gridPoint? ?_ ?_)
  · rw [Interval.around]
    dsimp only
    split <;> omega
  · have narrow := divisorOn_lt significand (coarseGrid_fine double)
    rw [Interval.around] at narrow ⊢
    dsimp only at narrow ⊢
    rw [Nat.add_mul]
    exact Nat.add_lt_add_left narrow _

end StoreBench.Decimal
