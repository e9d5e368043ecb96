import Mathlib.Algebra.Order.Field.Rat
import Mathlib.Order.Bounds.Basic
import Mathlib.Tactic.Linarith
import StoreBench.Sync.TokenBucket
import StoreBench.Total

/-!
Contract: a bucket of tokens delays each call by the least amount that its rate forces.

The balance of the bucket is one number, clipped at the capacity and otherwise as deep in debt as
the calls have left it.  What a delay has to cover is said by it exactly: the debt is paid off
once all tokens since the opening fit the rate, and the tokens of every window of calls fit the
rate and the capacity.  One call unrolls one step of that recurrence, so the closed form follows
by recursion on the calls.

Owns:
- `Taking` and `TokenBucket.waits`, calls in the order in which they get hold of the bucket;
- `TokenBucket.Keeps`, the limits that the calls up to one of them are to keep;
- the least delay that keeps them.

Does not own: rounding, since all arithmetic is exact.
-/

namespace StoreBench.Sync

/-- A call, of whichever thread. -/
structure Taking where
  /-- When it gets hold of the bucket. -/
  instant : Rat
  tokens : UInt64

/-- The tokens of the calls number `first` to `last`. -/
def tokensOf (takings : List Taking) (first last : Nat) : Nat :=
  total (((takings.take (last + 1)).drop first).map fun taking => taking.tokens.toNat)

namespace TokenBucket

def waits (bucket : TokenBucket) : List Taking → List Rat
  | [] => []
  | taking :: later =>
    let (wait, bucket) := bucket.consume taking.instant taking.tokens
    wait :: bucket.waits later

/-- The calls up to number `last` keep the limits if that one is done at the instant `done`. -/
structure Keeps (bucket : TokenBucket) (takings : List Taking) (last : Nat) (done : Rat) :
    Prop where
  since : tokensOf takings 0 last ≤ bucket.balance + bucket.rate * (done - bucket.refilledAt)
  window : ∀ {first taking}, first ≤ last → takings[first]? = some taking →
    tokensOf takings first last ≤ bucket.capacity + bucket.rate * (done - taking.instant)

variable {bucket : TokenBucket} {taking : Taking} {later : List Taking}

/-! ## One call -/

theorem tokensOf_zero : tokensOf (taking :: later) 0 0 = taking.tokens.toNat := by
  simp [tokensOf, total]

theorem tokensOf_zero_succ (last : Nat) :
    tokensOf (taking :: later) 0 (last + 1) = taking.tokens.toNat + tokensOf later 0 last := by
  simp [tokensOf, total]

theorem tokensOf_succ_succ (first last : Nat) :
    tokensOf (taking :: later) (first + 1) (last + 1) = tokensOf later first last := by
  simp [tokensOf]

/-- What is left after a call covers a demand exactly if the full bucket covers it together with
the tokens of the call, and so does the bucket as it was with what it has gained since. -/
theorem le_balance_consume_iff (inTime : bucket.refilledAt ≤ taking.instant) (demand : Rat) :
    demand ≤ (bucket.consume taking.instant taking.tokens).2.balance ↔
      taking.tokens.toNat + demand ≤
          bucket.balance + bucket.rate * (taking.instant - bucket.refilledAt) ∧
        taking.tokens.toNat + demand ≤ bucket.capacity := by
  simp only [consume, refill, if_pos inTime]
  split
  · next fits =>
    constructor
    · intro covered
      exact ⟨by linarith, by linarith⟩
    · rintro ⟨covered, -⟩
      linarith
  · next overflows =>
    rw [not_le] at overflows
    constructor
    · intro covered
      exact ⟨by linarith, by linarith⟩
    · rintro ⟨-, covered⟩
      linarith

/-- The first call keeps the limits if the delay pays off its debt. -/
theorem keeps_zero_iff (inTime : bucket.refilledAt ≤ taking.instant) (delay : Rat) :
    bucket.Keeps (taking :: later) 0 (taking.instant + delay) ↔
      -(bucket.rate * delay) ≤ (bucket.consume taking.instant taking.tokens).2.balance := by
  rw [le_balance_consume_iff inTime]
  constructor
  · intro keeps
    have since := keeps.since
    have window := keeps.window (Nat.le_refl 0) List.getElem?_cons_zero
    rw [tokensOf_zero] at since window
    exact ⟨by linarith, by linarith⟩
  · rintro ⟨sinceOpening, ownWindow⟩
    refine ⟨?_, ?_⟩
    · rw [tokensOf_zero]
      linarith
    · intro first other bound found
      obtain rfl : first = 0 := Nat.le_zero.1 bound
      cases found
      rw [tokensOf_zero]
      linarith

/-- A call hands the limits on to the calls after it: those of the windows that begin later stay,
and the two that begin no later become what is left of the bucket. -/
theorem keeps_succ_iff (inTime : bucket.refilledAt ≤ taking.instant) (last : Nat) (done : Rat) :
    bucket.Keeps (taking :: later) (last + 1) done ↔
      (bucket.consume taking.instant taking.tokens).2.Keeps later last done := by
  have left := le_balance_consume_iff inTime
    (tokensOf later 0 last - bucket.rate * (done - taking.instant))
  constructor
  · intro keeps
    have since := keeps.since
    have own := keeps.window (Nat.zero_le _) List.getElem?_cons_zero
    rw [tokensOf_zero_succ, Nat.cast_add] at since own
    refine ⟨?_, ?_⟩
    · have covered := left.2 ⟨by linarith, by linarith⟩
      exact sub_le_iff_le_add.1 covered
    · intro first other bound found
      have window := keeps.window (Nat.succ_le_succ bound) (List.getElem?_cons_succ.trans found)
      rw [tokensOf_succ_succ] at window
      exact window
  · intro keeps
    obtain ⟨sinceOpening, ownWindow⟩ := left.1 (sub_le_iff_le_add.2 keeps.since)
    refine ⟨?_, ?_⟩
    · rw [tokensOf_zero_succ, Nat.cast_add]
      linarith
    · intro first other bound found
      cases first with
      | zero =>
        -- the window of all calls is the one that the capacity of this call bounds
        cases found
        rw [tokensOf_zero_succ, Nat.cast_add]
        linarith
      | succ first =>
        rw [tokensOf_succ_succ]
        exact keeps.window (Nat.le_of_succ_le_succ bound) found

/-! ## All calls -/

/-- The wait of a call pays off its debt and is no longer than that. -/
theorem isLeast_wait (positive : 0 < bucket.rate) :
    IsLeast {delay | 0 ≤ delay ∧
        -(bucket.rate * delay) ≤ (bucket.consume taking.instant taking.tokens).2.balance}
      (bucket.consume taking.instant taking.tokens).1 := by
  have rateKept : (bucket.refill taking.instant).rate = bucket.rate := rfl
  simp only [consume, rateKept]
  generalize (bucket.refill taking.instant).balance - _ = balance
  split
  · next indebted =>
    constructor
    · refine ⟨div_nonneg (by linarith) positive.le, ?_⟩
      rw [mul_div_cancel₀ _ positive.ne', neg_neg]
    · rintro delay ⟨-, paid⟩
      rw [div_le_iff₀' positive]
      linarith
  · next clear =>
    constructor
    · refine ⟨le_refl 0, ?_⟩
      rw [mul_zero, neg_zero]
      exact not_lt.1 clear
    · rintro delay ⟨nonneg, -⟩
      exact nonneg

theorem isLeast_waits {takings : List Taking} (positive : 0 < bucket.rate)
    (ordered : (bucket.refilledAt :: takings.map Taking.instant).IsChain (· ≤ ·)) {last : Nat}
    (found : takings[last]? = some taking) :
    ∃ wait, (bucket.waits takings)[last]? = some wait ∧
      IsLeast {delay | 0 ≤ delay ∧ bucket.Keeps takings last (taking.instant + delay)} wait := by
  induction takings generalizing bucket last with
  | nil => cases found
  | cons first later inductionHypothesis =>
    obtain ⟨inTime, orderedLater⟩ := List.isChain_cons_cons.1 ordered
    cases last with
    | zero =>
      cases found
      refine ⟨_, rfl, ?_⟩
      simp only [keeps_zero_iff inTime]
      exact isLeast_wait positive
    | succ last =>
      have positiveLater : 0 < (bucket.consume first.instant first.tokens).2.rate := positive
      obtain ⟨wait, waited, least⟩ := inductionHypothesis positiveLater orderedLater found
      refine ⟨wait, waited, ?_⟩
      simp only [keeps_succ_iff inTime]
      exact least

theorem toNat_max_one (word : UInt64) : (max word 1).toNat = max word.toNat 1 := by
  show (if word ≤ 1 then (1 : UInt64) else word).toNat = max word.toNat 1
  have ordered : word ≤ 1 ↔ word.toNat ≤ 1 := UInt64.le_iff_toNat_le
  split
  · next small => exact (Nat.max_eq_right (ordered.1 small)).symm
  · next large => exact (Nat.max_eq_left (Nat.le_of_not_le (mt ordered.2 large))).symm

/-- **A bucket delays each call by the least amount that its contract forces.**  The calls get hold
of the bucket at ascending instants, none before the opening.  The wait of each is the least
delay after which all tokens since the opening are within the rate, and the tokens of every
window of calls that ends with it are within the rate and the burst. -/
theorem wait_least (rate burst : UInt64) (opening : Rat) (takings : List Taking)
    (ordered : (opening :: takings.map Taking.instant).IsChain (· ≤ ·))
    (last : Fin takings.length) :
    ∃ wait, ((empty rate burst opening).waits takings)[last.val]? = some wait ∧
      IsLeast {delay : Rat | 0 ≤ delay ∧
        tokensOf takings 0 last ≤
          (max rate.toNat 1 : Nat) * (takings[last].instant + delay - opening) ∧
        ∀ first : Fin takings.length, first ≤ last →
          tokensOf takings first last ≤ (max burst.toNat 1 : Nat) +
            (max rate.toNat 1 : Nat) * (takings[last].instant + delay - takings[first].instant)}
        wait := by
  let bucket := empty rate burst opening
  have rateEq : bucket.rate = (max rate.toNat 1 : Nat) :=
    congrArg (Nat.cast : Nat → Rat) (toNat_max_one rate)
  have capacityEq : bucket.capacity = (max burst.toNat 1 : Nat) :=
    congrArg (Nat.cast : Nat → Rat) (toNat_max_one burst)
  have positive : 0 < bucket.rate := by
    rw [rateEq]
    exact Nat.cast_pos.2 (Nat.le_max_right ..)
  obtain ⟨wait, waited, least⟩ :=
    isLeast_waits positive ordered (List.getElem?_eq_getElem last.isLt)
  refine ⟨wait, waited, ?_⟩
  have same (done : Rat) : bucket.Keeps takings last done ↔
      tokensOf takings 0 last ≤ (max rate.toNat 1 : Nat) * (done - opening) ∧
        ∀ first : Fin takings.length, first ≤ last →
          tokensOf takings first last ≤
            (max burst.toNat 1 : Nat) +
              (max rate.toNat 1 : Nat) * (done - takings[first].instant) := by
    rw [← rateEq, ← capacityEq]
    constructor
    · rintro ⟨since, window⟩
      refine ⟨by rwa [show bucket.balance = 0 from rfl, zero_add] at since, ?_⟩
      intro first bound
      exact window bound (List.getElem?_eq_getElem first.isLt)
    · rintro ⟨since, window⟩
      refine ⟨by rwa [show bucket.balance = 0 from rfl, zero_add], ?_⟩
      intro first taking bound found
      obtain ⟨inside, rfl⟩ := List.getElem?_eq_some_iff.1 found
      exact window ⟨first, inside⟩ bound
  simp only [same] at least
  exact least

/-- At three tokens a second and a burst of two, a call that falls into debt, one that finds the
debt of the first, and one that finds the bucket full again. -/
theorem wait_least_of_three_calls :
    let takings : List Taking := [⟨1 / 2, 3⟩, ⟨1 / 2, 1⟩, ⟨10, 4⟩]
    ((0 : Rat) :: takings.map Taking.instant).IsChain (· ≤ ·) ∧
      (empty 3 2 0).waits takings = [1 / 2, 5 / 6, 2 / 3] ∧
      IsLeast {delay : Rat | 0 ≤ delay ∧
        tokensOf takings 0 2 ≤ (max (3 : UInt64).toNat 1 : Nat) * (10 + delay - 0) ∧
        ∀ first : Fin 3, first ≤ 2 →
          tokensOf takings first 2 ≤ (max (2 : UInt64).toNat 1 : Nat) +
            (max (3 : UInt64).toNat 1 : Nat) * (10 + delay - takings[first].instant)} (2 / 3) := by
  intro takings
  have ordered : ((0 : Rat) :: takings.map Taking.instant).IsChain (· ≤ ·) := by decide +kernel
  have waits : (empty 3 2 0).waits takings = [1 / 2, 5 / 6, 2 / 3] := by decide +kernel
  obtain ⟨wait, waited, least⟩ := wait_least 3 2 0 takings ordered 2
  rw [waits] at waited
  cases waited
  exact ⟨ordered, waits, least⟩

end TokenBucket

end StoreBench.Sync
