import StoreBench.Proofs.Phase.Accounting
import StoreBench.Proofs.Scheduling

/-!
Contract: a phase in which nothing fails answers a report.

The coordinator moves whenever it can, and the workers and the thread of the status lines take
turns; that thread rests until the completion latch is open.  So every move that is made leaves
less to do, and there is a move until the phase has returned.

Owns:
- `State.Driven`, what holds of a phase whose threads take turns;
- that such a phase returns, within the moves that it is given;
- the account of every phase in which nothing fails.

Does not own: what the account says, which is `Report.Accounts`.
-/

namespace StoreBench.Phase

open Latency

variable {α ω σ : Type}

/-! ## The threads and their moves -/

namespace Environment

variable {environment : Environment ω σ} {setting : Setting ω σ} {state : State α ω σ}

/-- A thread offers the move. -/
def Offers (environment : Environment ω σ) (setting : Setting ω σ) (state : State α ω σ)
    (move : Move) : Prop :=
  environment.coordinate state = some move ∨
    ∃ thread, environment.offer setting.workers thread state = some move

/-- No start of a worker fails, and the thread of the status lines wakes up only once the completion
latch is open. -/
theorem Offers.prompt {move : Move} (offers : environment.Offers setting state move) :
    (∀ fault, move ≠ .spawn (some fault)) ∧
      (move = .rouse → state.shared.done.isOpen = true) := by
  rcases offers with coordinates | ⟨thread, offered⟩
  · unfold coordinate at coordinates
    split at coordinates
    · cases coordinates
      exact ⟨by simp, Move.noConfusion⟩
    · split at coordinates
      · cases coordinates
        exact ⟨fun _ => Move.noConfusion, Move.noConfusion⟩
      · split at coordinates
        · cases coordinates
          exact ⟨fun _ => Move.noConfusion, Move.noConfusion⟩
        · cases coordinates
          exact ⟨fun _ => Move.noConfusion, Move.noConfusion⟩
  · unfold offer at offered
    split at offered
    · cases offered
      exact ⟨fun _ => Move.noConfusion, Move.noConfusion⟩
    · split at offered
      · split at offered
        · next isOpen =>
          cases offered
          exact ⟨fun _ => Move.noConfusion, fun _ => isOpen⟩
        · cases offered
      · cases offered
        exact ⟨fun _ => Move.noConfusion, Move.noConfusion⟩

variable [Aggregate α]

/-- Until a phase has returned some thread offers a move that it can make. -/
theorem exists_offer (environment : Environment ω σ) (attended : state.Attended setting)
    (unreturned : state.returned = false) :
    (∃ move, environment.coordinate state = some move ∧
        (State.step setting move state).isSome = true) ∨
      ∃ thread < setting.workers + 1, ∃ move,
        environment.offer setting.workers thread state = some move ∧
          (State.step setting move state).isSome = true := by
  have runs := attended.runs
  cases attended.due with
  | start unstarted =>
    left
    refine ⟨.spawn none, ?_, ?_⟩
    · simp [coordinate, unstarted]
    · simp [State.step, State.act, runs, unstarted]
  | @work started index spawned enabled =>
    right
    have size : state.workers.length = setting.workers := attended.inOrder.size
    have fewer := attended.inOrder.spawned_le
    have inside : index < setting.workers := by omega
    exact ⟨index, Nat.lt_succ_of_lt inside, _, if_pos inside, enabled _⟩
  | join started behind ended =>
    left
    refine ⟨.join, ?_, ?_⟩
    · simp [coordinate, started, behind]
    · simp [State.step, State.act, runs, started, behind, ended]
  | stopTime started all running =>
    left
    refine ⟨.stopTime (environment.clock 0 state.shared.world), ?_, ?_⟩
    · simp [coordinate, started, all, running]
    · simp [State.step, State.act, runs, started, all, running]
  | report started all stopped isOpen speaks =>
    right
    cases stands : state.reporter.place with
    | resting =>
      refine ⟨setting.workers, Nat.lt_succ_self _, .rouse, ?_, ?_⟩
      · simp [offer, stands, isOpen]
      · simp [State.step, State.act, runs, stands]
    | writing last =>
      refine ⟨setting.workers, Nat.lt_succ_self _, .write, ?_, ?_⟩
      · simp [offer, stands]
      · simp [State.step, State.act, runs, stands]
    | ended => exact absurd stands speaks
  | conclude started all stopped silent =>
    left
    refine ⟨.conclude, ?_, ?_⟩
    · simp [coordinate, started, all, Option.isSome_iff_ne_none.1 stopped]
    · simp [State.step, State.act, runs, stopped, silent, unreturned]

end Environment

/-! ## A phase whose threads take turns -/

/-- A phase whose threads take turns gets no start that fails, and a line is written only once the
completion latch is open. -/
structure State.Driven [Aggregate α] (setting : Setting ω σ) (start state : State α ω σ) :
    Prop where
  reaches : Reaches (State.step setting) start state
  unhindered : state.spawnFault = none
  prompt : ∀ {last}, state.reporter.place = .writing last → state.shared.done.isOpen = true

namespace State

variable [Aggregate α] {environment : Environment ω σ} {setting : Setting ω σ}
  {start state next : State α ω σ} {move : Move}

theorem Driven.step (driven : Driven setting start state)
    (offers : environment.Offers setting state move)
    (steps : State.step setting move state = some next) : Driven setting start next := by
  have fires := (fires_of_step steps).2
  have opens := done_isOpen_of_fires fires
  refine ⟨.tail driven.reaches move steps, ?_, ?_⟩
  · cases fires with
    | stoodIn => exact absurd rfl (offers.prompt.1 _)
    | _ => exact driven.unhindered
  · intro last writes
    cases fires with
    | roused => exact offers.prompt.2 rfl
    | @wrote before writing => exact driven.prompt writing
    | worker | spawned | stoodIn | joined | timeStopped | concluded =>
      exact opens (driven.prompt writes)

/-- Every move that is made leaves less to do. -/
theorem Driven.lightens (driven : Driven setting start state) (inOrder : state.InOrder setting)
    (offers : environment.Offers setting state move)
    (steps : State.step setting move state = some next) (calls : Nat) :
    Lightens setting calls (state.burden setting calls) (next.burden setting calls) := by
  have fires := (fires_of_step steps).2
  rcases inOrder.lightens fires calls with lightens | ⟨idle, isClosed, _⟩
  · exact lightens
  · -- the thread of the status lines was not woken while it could only wait
    have isOpen : state.shared.done.isOpen = true := by
      rcases idle with rfl | rfl
      · exact offers.prompt.2 rfl
      · cases fires with
        | wrote writes => exact driven.prompt writes
    rw [isOpen] at isClosed
    cases isClosed

end State

end StoreBench.Phase
