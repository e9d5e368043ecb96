import StoreBench.Proofs.Latency.Histories
import StoreBench.Proofs.Phase.Progress
import StoreBench.Proofs.Scheduling

/-!
Contract: the last status line of a phase counts every call that is filed.

A worker files its calls before it leaves, and it counts down the completion latch when it leaves.
The latch counts the workers that have not left, whether they fail or not.  So once the thread of
the status lines has found the latch open nothing is filed any more, and the line that it then
writes is made from the final meter.

Owns:
- `Sight`, what can be seen of a phase: calls that are filed, waits that end, and lines;
- `Reporter.Tells`, where the thread of the status lines stands after what was seen;
- that the last line is complete.

Does not own: when the thread writes the lines before the last one.
-/

namespace StoreBench.Phase

open Latency

variable {α ω σ : Type}

/-- What can be seen of a phase. -/
inductive Sight
  /-- A worker files a call. -/
  | filed (warmup : Bool) (slot : Slot) (elapsed : UInt64)
  /-- A wait of the thread of the status lines is over, and found the completion latch open or
  closed. -/
  | waited (isOpen : Bool)
  /-- A line with this message is written. -/
  | wrote (message : String)
  deriving DecidableEq, Repr

/-- What the meter takes in, if a call is filed. -/
def Sight.event? : Sight → Option Event
  | .filed warmup slot elapsed => some (if warmup then .warmup slot else .measured slot elapsed)
  | .waited _ | .wrote _ => none

/-- The events of the calls that are filed. -/
def filedAlong (history : List Sight) : List Event := history.filterMap Sight.event?

/-- The call that the worker is about to file. -/
def Worker.filing? (worker : Worker) : Option Sight :=
  match worker.place with
  | .serving task _ (.filing status elapsed warmup) =>
    some (.filed warmup (task.call.operation.slot status) elapsed)
  | _ => none

/-- What is seen of a move. -/
def State.sights [Aggregate α] (move : Move) (state : State α ω σ) : List Sight :=
  match move with
  | .worker index _ => (state.workers[index]?.bind Worker.filing?).toList
  | .rouse => [.waited state.shared.done.isOpen]
  | .write => [.wrote state.shared.meter.statusText]
  | .spawn _ | .join | .stopTime _ | .conclude => []

/-- What is seen along a schedule. -/
def State.sightsAlong [Aggregate α] (setting : Setting ω σ) (schedule : List Move)
    (state : State α ω σ) : List Sight :=
  noteAlong (State.step setting) State.sights schedule state

/-! ## Calls that are filed -/

theorem filedAlong_append (history more : List Sight) :
    filedAlong (history ++ more) = filedAlong history ++ filedAlong more :=
  List.filterMap_append

/-- Every call that is filed counts one more. -/
theorem total_filedAlong [Aggregate α] [Aggregate.Counts α] (meter : Meter α)
    (history : List Sight) :
    (meter.applyAll (filedAlong history)).measuredTotal +
        (meter.applyAll (filedAlong history)).warmupTotal =
      meter.measuredTotal + meter.warmupTotal + (filedAlong history).length := by
  induction history generalizing meter with
  | nil => rfl
  | cons sight later inductionHypothesis =>
    cases sight with
    | waited isOpen => exact inductionHypothesis meter
    | wrote message => exact inductionHypothesis meter
    | filed warmup slot elapsed =>
      have behind := inductionHypothesis (file warmup slot elapsed meter)
      have one : (file warmup slot elapsed meter).measuredTotal +
          (file warmup slot elapsed meter).warmupTotal =
            meter.measuredTotal + meter.warmupTotal + 1 := by
        cases warmup with
        | true => exact congrArg (meter.measuredTotal + ·) (meter.warmupTotal_recordWarmup slot)
        | false =>
          have measured := Meter.measuredTotal_record slot elapsed meter
          show (meter.record slot elapsed).measuredTotal + meter.warmupTotal = _
          omega
      have first : meter.applyAll (filedAlong (.filed warmup slot elapsed :: later)) =
          (file warmup slot elapsed meter).applyAll (filedAlong later) := by
        cases warmup <;> rfl
      have length : (filedAlong (.filed warmup slot elapsed :: later)).length =
          (filedAlong later).length + 1 := rfl
      rw [first, length, behind, one]
      omega

namespace Worker

variable {worker next : Worker}

/-- Whoever is about to file a call has not left. -/
theorem filing?_of_absent (absent : worker.presence = 0) : worker.filing? = none := by
  unfold presence at absent
  unfold filing?
  split
  · next stands =>
    rw [stands] at absent
    cases absent
  · rfl

theorem waited_notMem_filing (isOpen : Bool) : .waited isOpen ∉ worker.filing?.toList := by
  unfold filing?
  split <;> simp

/-- The meter takes in what the worker was about to file, and nothing else. -/
theorem Advance.meter_eq [Aggregate α] {setting : Setting ω σ} {index : Nat} {fate : Fate}
    {shared after : Shared α ω σ} (advance : worker.Advance setting index fate shared next after) :
    after.meter = shared.meter.applyAll (filedAlong worker.filing?.toList) := by
  unfold filing?
  cases advance with
  | @filed task later status elapsed warmup stands =>
    rw [stands]
    cases warmup <;> rfl
  | opened stands | openingFailed stands | reachedGate stands | wentOn stands
  | performedAll stands | arrived stands | passed stands | won stands | lost stands
  | started stands | throttled stands | planStopped stands | planned stands | clockRead stands
  | answered stands | callFailed stands | timed stands | numbered stands | settled stands
  | settlingStopped stands | overlooked stands | passedOn stands | closed stands
  | closingFailed stands | gaveUp stands | keptNothing stands | leftToExit stands | left stands
  | exited stands | exitedUnharmed stands =>
    rw [stands]
    rfl

end Worker

/-! ## The thread of the status lines -/

namespace Reporter

/-- Where the thread stands after what was seen.  It has written a line for each wait; only the last
wait found the latch open, and behind the line for this wait there is nothing. -/
def Tells [Aggregate α] (shared : Shared α ω σ) (history : List Sight) (reporter : Reporter α) :
    Prop :=
  match reporter.place with
  | .resting =>
    .waited true ∉ history ∧ reporter.lines = history.count (.waited false)
  | .writing false =>
    .waited true ∉ history ∧ reporter.lines + 1 = history.count (.waited false)
  | .writing true =>
    shared.done.isOpen = true ∧ ∃ earlier, history = earlier ++ [.waited true] ∧
      .waited true ∉ earlier ∧ reporter.lines = earlier.count (.waited false)
  | .ended =>
    shared.done.isOpen = true ∧ ∃ earlier,
      history = earlier ++ [.waited true, .wrote shared.meter.statusText] ∧
        .waited true ∉ earlier ∧ reporter.lines = earlier.count (.waited false) + 1

variable [Aggregate α] {shared after : Shared α ω σ} {history more : List Sight}
  {reporter : Reporter α}

/-- What others do before the latch is open changes nothing for the thread, provided that it is no
wait, and once the latch is open they may only leave the latch and the meter as they are. -/
theorem Tells.elsewhere (tells : reporter.Tells shared history)
    (unheard : ∀ isOpen, .waited isOpen ∉ more)
    (quiet : shared.done.isOpen = true →
      after.done.isOpen = true ∧ more = [] ∧ after.meter = shared.meter) :
    reporter.Tells after (history ++ more) := by
  have counted : (history ++ more).count (.waited false) = history.count (.waited false) := by
    rw [List.count_append, List.count_eq_zero_of_not_mem (unheard false), Nat.add_zero]
  have closed (unopened : .waited true ∉ history) : .waited true ∉ history ++ more := by
    rw [List.mem_append]
    exact fun seen => seen.elim unopened (unheard true)
  unfold Tells at tells ⊢
  cases stands : reporter.place with
  | resting =>
    simp only [stands] at tells ⊢
    exact ⟨closed tells.1, tells.2.trans counted.symm⟩
  | writing last =>
    cases last with
    | false =>
      simp only [stands] at tells ⊢
      exact ⟨closed tells.1, tells.2.trans counted.symm⟩
    | true =>
      simp only [stands] at tells ⊢
      obtain ⟨isOpen, rfl, _⟩ := quiet tells.1
      rw [List.append_nil]
      exact ⟨isOpen, tells.2⟩
  | ended =>
    simp only [stands] at tells ⊢
    obtain ⟨isOpen, rfl, same⟩ := quiet tells.1
    rw [List.append_nil, same]
    exact ⟨isOpen, tells.2⟩

end Reporter

/-! ## A phase -/

namespace State

/-- The latch counts the workers that have not left, the meter has taken in what was filed, and the
thread of the status lines stands where the waits and lines have brought it. -/
structure Watched [Aggregate α] (setting : Setting ω σ) (meter : Meter α) (history : List Sight)
    (state : State α ω σ) : Prop where
  inOrder : state.InOrder setting
  done : state.shared.done.count = total (state.parties.map Worker.presence)
  meter_eq : state.shared.meter = meter.applyAll (filedAlong history)
  tells : state.reporter.Tells state.shared history

variable [Aggregate α] {setting : Setting ω σ} {meter : Meter α} {history : List Sight}
  {state after : State α ω σ} {move : Move}

theorem watched_opening (reports : setting.reports = true) (world : σ) (work : ω)
    (meter : Meter α) (now : UInt64) :
    (opening setting world work meter now).Watched setting meter [] := by
  refine ⟨inOrder_opening setting world work meter now,
    done_opening setting world work meter now, rfl, ?_⟩
  have rests : (opening setting world work meter now).reporter = ⟨.resting, 0, 0, none⟩ := by
    rw [opening, reports]
    rfl
  rw [rests]
  exact ⟨List.not_mem_nil, rfl⟩

omit [Aggregate α] in
/-- While the latch is open no started worker is about to file a call. -/
theorem filing?_of_isOpen
    (done : state.shared.done.count = total (state.parties.map Worker.presence))
    (isOpen : state.shared.done.isOpen = true) {index : Nat} {worker : Worker}
    (spawned : index < state.spawned) (found : state.workers[index]? = some worker) :
    worker.filing? = none := by
  have party : worker ∈ state.parties := by
    apply List.mem_of_getElem?
    rw [getElem?_parties spawned, found]
  have weight : worker.presence ≤ total (state.parties.map Worker.presence) := le_total_map party
  rw [Sync.Latch.isOpen, beq_iff_eq] at isOpen
  rw [← done, isOpen] at weight
  exact Worker.filing?_of_absent (Nat.le_zero.1 weight)

theorem Watched.fires (watched : state.Watched setting meter history)
    (fires : state.Fires setting move after) :
    after.Watched setting meter (history ++ sights move state) := by
  have inOrder := watched.inOrder.fires fires
  have done := watched.inOrder.done_of_fires watched.done fires
  have opens := done_isOpen_of_fires fires
  have taken := watched.meter_eq
  have tells := watched.tells
  -- unless a call is filed the meter stays as it is
  have unfiled {more : List Sight} (nothing : filedAlong more = []) :
      state.shared.meter = meter.applyAll (filedAlong (history ++ more)) := by
    rw [filedAlong_append, nothing, List.append_nil, taken]
  cases fires with
  | @worker index fate worker next shared spawned found advance =>
    have seen : sights (.worker index fate) state = worker.filing?.toList := by
      rw [sights, found, Option.bind_some]
    have filed := advance.meter_eq
    rw [seen]
    refine ⟨inOrder, done, ?_, tells.elsewhere Worker.waited_notMem_filing fun isOpen => ?_⟩
    · show shared.meter = _
      rw [filed, taken, ← Meter.applyAll_append, filedAlong_append]
    · -- the worker has left, so it files nothing
      have nothing := filing?_of_isOpen watched.done isOpen spawned found
      rw [nothing] at filed ⊢
      exact ⟨opens isOpen, rfl, filed⟩
  | spawned | stoodIn | joined | timeStopped | concluded =>
    exact ⟨inOrder, done, unfiled rfl, tells.elsewhere (fun _ => List.not_mem_nil)
      fun isOpen => ⟨opens isOpen, rfl, rfl⟩⟩
  | roused rests =>
    refine ⟨inOrder, done, unfiled rfl, ?_⟩
    unfold Reporter.Tells at tells ⊢
    simp only [rests] at tells
    obtain ⟨unopened, counted⟩ := tells
    rw [sights]
    cases isOpen : state.shared.done.isOpen with
    | false =>
      show _ ∉ _ ∧ state.reporter.lines + 1 = _
      rw [List.mem_append, List.count_append, counted]
      exact ⟨fun seen => seen.elim unopened (by simp), rfl⟩
    | true => exact ⟨rfl, history, rfl, unopened, counted⟩
  | @wrote last writes =>
    refine ⟨inOrder, done, unfiled rfl, ?_⟩
    unfold Reporter.Tells at tells ⊢
    cases last with
    | false =>
      simp only [writes] at tells
      obtain ⟨unopened, counted⟩ := tells
      show _ ∉ _ ∧ state.reporter.lines + 1 = _
      rw [sights, List.mem_append, List.count_append, counted]
      exact ⟨fun seen => seen.elim unopened (by simp), rfl⟩
    | true =>
      simp only [writes] at tells
      obtain ⟨isOpen, earlier, rfl, unopened, counted⟩ := tells
      refine ⟨isOpen, earlier, ?_, unopened, congrArg (· + 1) counted⟩
      rw [sights, List.append_assoc]
      rfl

theorem Watched.of_follow (reports : setting.reports = true) {world : σ} {work : ω} {now : UInt64}
    {schedule : List Move}
    (followed : follow (step setting) schedule (opening setting world work meter now) =
      some state) :
    state.Watched setting meter
      ((opening setting world work meter now).sightsAlong setting schedule) :=
  noteAlong_invariant followed (watched_opening reports world work meter now)
    fun watched steps => watched.fires (fires_of_step steps).2

end State

/-! ## The last line -/

/-- **The last status line is complete.**  Take any phase with status lines: any numbers of workers,
of operations and of warm-up calls, a workload and stores that fail wherever they like, failures
that end the program or do not, and starts of workers that may fail as well.  However the threads
take their turns, if the thread of the status lines has come to its end, then the completion latch
is at zero.  Of the waits of the thread only the last found the latch open, it wrote one line
more than there were waits that found it closed, and behind its last line no call was filed.  So the
message of this line is that of the final meter, and its number of operations counts every call
that any worker filed. -/
theorem last_line_counts_every_call [Aggregate α] [Aggregate.Counts α] (setting : Setting ω σ)
    (reports : setting.reports = true) (world : σ) (work : ω) (meter : Meter α) (now : UInt64)
    {schedule : List Move} {state : State α ω σ}
    (followed : follow (State.step setting) schedule
      (State.opening setting world work meter now) = some state)
    (ended : state.reporter.place = .ended) :
    let history := (State.opening setting world work meter now).sightsAlong setting schedule
    state.shared.done.count = 0 ∧
    state.shared.meter = meter.applyAll (filedAlong history) ∧
    ∃ earlier message rest,
      history = earlier ++ [.waited true, .wrote message] ∧
      .waited true ∉ earlier ∧
      state.reporter.lines = 1 + earlier.count (.waited false) ∧
      message = state.shared.meter.statusText ∧
      message = toString (meter.measuredTotal + meter.warmupTotal + (filedAlong history).length) ++
        " operations;" ++ rest := by
  intro history
  have watched : state.Watched setting meter history := State.Watched.of_follow reports followed
  have tells := watched.tells
  unfold Reporter.Tells at tells
  simp only [ended] at tells
  obtain ⟨isOpen, earlier, whole, unopened, counted⟩ := tells
  obtain ⟨rest, text⟩ := state.shared.meter.statusText_eq
  refine ⟨beq_iff_eq.1 isOpen, watched.meter_eq, earlier, _, rest, whole, unopened,
    counted.trans (Nat.add_comm _ _), rfl, ?_⟩
  rw [text, watched.meter_eq, total_filedAlong]

/-- One worker cannot open its store and leaves at once; the other has filed one of its two calls
when the first line is written.  The last line counts both. -/
theorem last_line_counts_every_call_beside_failed_opening :
    let config := { Config.default with
      threads := 2, mix := { Mix.Options.default with operationCount := 4 } }
    let script := Script.reads [0]
    let setting := settingOf config .run false script.workload script.clients
    let start := State.opening setting [⟨0, 0⟩, ⟨0, 0⟩] (Progress.opening 2)
      (Meter.empty : Meter Summary) 0
    let schedule : List Move := [.spawn none, .spawn none] ++ Move.turns 0 3 ++ Move.turns 1 11 ++
      [.rouse, .write] ++ Move.turns 1 12 ++ [.rouse, .write]
    setting.reports = true ∧
    ∃ (state : State Summary Progress (List ScriptedStore)) (earlier : List Sight) (rest : String),
      follow (State.step setting) schedule start = some state ∧
      state.reporter.place = .ended ∧ state.reporter.lines = 2 ∧
      start.sightsAlong setting schedule =
        earlier ++ [.waited true, .wrote ("2 operations;" ++ rest)] := by
  intro config script setting start schedule
  have reports : setting.reports = true := rfl
  have ran : (follow (State.step setting) schedule start).any (fun state =>
      state.reporter.place == .ended && state.reporter.lines == 2) = true := by
    decide +kernel
  obtain ⟨state, followed, facts⟩ := (Option.any_eq_true _ _).1 ran
  rw [Bool.and_eq_true, beq_iff_eq, beq_iff_eq] at facts
  obtain ⟨ended, lines⟩ := facts
  have filed : (Meter.empty : Meter Summary).measuredTotal +
      (Meter.empty : Meter Summary).warmupTotal +
        (filedAlong (start.sightsAlong setting schedule)).length = 2 := by
    decide +kernel
  obtain ⟨_, _, earlier, message, rest, history, _, _, _, text⟩ :=
    last_line_counts_every_call setting reports _ _ _ _ followed ended
  have begins : toString 2 ++ " operations;" = "2 operations;" := by decide
  refine ⟨reports, state, earlier, rest, followed, ended, lines, ?_⟩
  rw [filed, begins] at text
  rw [← text]
  exact history

end StoreBench.Phase
