/-!
Contract: systems of threads as labelled transition systems.

A system is a partial function `step : μ → σ → Option σ`.  A move `m : μ` names
the thread that acts and everything the outside world decides for it; the result
is `none` when that thread cannot act.  Every interleaving of the threads is then
a list of moves, and every statement about "any interleaving" ranges over `Reaches`.

Owns:
- reachability and the schedules that witness it;
- the loop that runs a system under a scheduler, the scheduler that gives every thread its
  turn, and the one that prefers a thread.

Does not own: fairness, and any particular system.
-/

namespace StoreBench

variable {σ μ : Type}

/-- The states that some sequence of enabled moves leads to. -/
inductive Reaches (step : μ → σ → Option σ) (start : σ) : σ → Prop
  | refl : Reaches step start start
  | tail {before after : σ} (path : Reaches step start before) (move : μ)
      (fires : step move before = some after) : Reaches step start after

namespace Reaches

variable {step : μ → σ → Option σ}

theorem single {before after : σ} (move : μ) (fires : step move before = some after) :
    Reaches step before after :=
  .tail .refl move fires

theorem trans {first second third : σ} (left : Reaches step first second)
    (right : Reaches step second third) : Reaches step first third := by
  induction right with
  | refl => exact left
  | tail _ move fires inductionHypothesis => exact .tail inductionHypothesis move fires

/-- What holds at the start and is kept by every enabled move holds everywhere. -/
theorem invariant {Inv : σ → Prop} {start state : σ} (path : Reaches step start state)
    (atStart : Inv start)
    (kept : ∀ move before after, Inv before → step move before = some after → Inv after) :
    Inv state := by
  induction path with
  | refl => exact atStart
  | tail _ move fires inductionHypothesis => exact kept move _ _ inductionHypothesis fires

end Reaches

/-- The state after a schedule, if each of its moves is enabled in turn. -/
def follow (step : μ → σ → Option σ) : List μ → σ → Option σ
  | [], state => some state
  | move :: rest, state => (step move state).bind (follow step rest)

/-- A schedule that can be followed leads to a reachable state. -/
theorem reaches_of_follow {step : μ → σ → Option σ} :
    ∀ {schedule : List μ} {start finish : σ},
      follow step schedule start = some finish → Reaches step start finish
  | [], _, _, followed => by
      cases followed
      exact .refl
  | move :: rest, start, finish, followed => by
      obtain ⟨next, fires, later⟩ := Option.bind_eq_some_iff.1 followed
      exact (Reaches.single move fires).trans (reaches_of_follow later)

/-- Runs the moves that a scheduler with a memory of its own picks, until it picks
none, picks one that is not enabled, or `fuel` moves have been made. -/
def drive {ρ : Type} (step : μ → σ → Option σ) (pick : ρ → σ → Option (μ × ρ)) :
    Nat → ρ → σ → σ × ρ
  | 0, memory, state => (state, memory)
  | fuel + 1, memory, state =>
    match pick memory state with
    | none => (state, memory)
    | some (move, memory') =>
      match step move state with
      | none => (state, memory)
      | some next => drive step pick fuel memory' next

/-- Whatever the scheduler does, a driven system stays inside its reachable states. -/
theorem reaches_drive {ρ : Type} (step : μ → σ → Option σ) (pick : ρ → σ → Option (μ × ρ)) :
    ∀ (fuel : Nat) (memory : ρ) (state : σ),
      Reaches step state (drive step pick fuel memory state).1
  | 0, _, _ => .refl
  | fuel + 1, memory, state => by
      unfold drive
      split
      · exact .refl
      · split
        · exact .refl
        · rename_i fires
          exact (Reaches.single _ fires).trans (reaches_drive step pick fuel _ _)

/-- The scheduler that gives threads `0 … threads - 1` their turns in order and passes over
those whose next move is not enabled.  Its memory is the thread whose turn it is. -/
def roundRobin (step : μ → σ → Option σ) (threads : Nat) (offer : Nat → σ → Option μ)
    (turn : Nat) (state : σ) : Option (μ × Nat) :=
  (List.range threads).findSome? fun offset =>
    let thread := (turn + offset) % threads
    (offer thread state).bind fun move =>
      if (step move state).isSome then some (move, thread + 1) else none

/-- The scheduler that prefers one thread: whenever its next move is enabled it is made, and else
the other scheduler picks among the other threads. -/
def preferring {ρ : Type} (step : μ → σ → Option σ) (preferred : σ → Option μ)
    (pick : ρ → σ → Option (μ × ρ)) (memory : ρ) (state : σ) : Option (μ × ρ) :=
  match (preferred state).filter fun move => (step move state).isSome with
  | some move => some (move, memory)
  | none => pick memory state

end StoreBench
