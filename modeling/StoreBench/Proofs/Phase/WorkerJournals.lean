import StoreBench.Proofs.Phase.Deeds
import StoreBench.Proofs.Phase.RoutineTraces

/-!
Contract: the steps of a worker in a phase are those of its routine.

A routine is written from its beginning to its end, and a phase takes the steps of its workers in
turns.  Whatever the others do in between, the actions of a worker and its outcome are those of its
routine, given the answers that the worker gets: what it has done and what it has left to do make
up its agenda until an answer is a stop, and then it departs as its routine does.

Owns:
- `Worker.action?` and the journal of a worker along a schedule;
- `Setting.routine`, the routine of a worker, and `Setting.agenda`, what it has to do;
- `Worker.Journaled`, which ties the journal of a worker to its agenda, and that every step of the
  worker keeps it.

Does not own: what an operation does, which is in `Proofs.Phase.UndisturbedSteps`.
-/

namespace StoreBench.Phase

open Latency

variable {α ω σ : Type}

/-! ## Agendas -/

namespace Setting

/-- What a worker has to do.  It may wait for the rate limiter in every iteration. -/
def duty (setting : Setting ω σ) (index : Nat) : Duty :=
  ⟨setting.operations.getD index 0, true, true, true⟩

/-- The routine of a worker. -/
def routine {m : Type → Type} [Monad m] (setting : Setting ω σ) (effects : Effects m)
    (index : Nat) : m (Except Stop UInt64) :=
  if setting.hasGate then warmupRoutine effects (setting.duty index) setting.warmup
  else plainRoutine effects (setting.duty index)

/-- Where a worker arrives at the gate. -/
def boundary (setting : Setting ω σ) (index : Nat) : Nat :=
  min setting.warmup.toNat (setting.operations.getD index 0).toNat

/-- What a worker has to do from an iteration on; it has its place at the gate, or it has none. -/
def ahead (setting : Setting ω σ) (index : Nat) (hasPlace : Bool) (number : Nat) : List Action :=
  let isWarmup := fun number => decide (number < setting.warmup.toNat)
  if hasPlace then
    (List.range' number (setting.boundary index - number)).flatMap
        ((setting.duty index).iteration setting.kind isWarmup) ++
      .arrive :: (setting.duty index).callsFrom setting.kind isWarmup (setting.boundary index)
  else (setting.duty index).callsFrom setting.kind isWarmup number

/-- What a worker has to do from its beginning on, until its store is closed. -/
def agenda (setting : Setting ω σ) (index : Nat) : List Action :=
  .init :: setting.ahead index setting.hasGate 0

variable {setting : Setting ω σ} {index number : Nat}

theorem stepOf_eq (setting : Setting ω σ) (number : Nat) :
    setting.stepOf number = setting.kind.step (number < setting.warmup.toNat) := by
  rw [stepOf]
  cases setting.kind <;> rfl

/-- The next iteration, which is not behind the boundary if the worker still has its place. -/
theorem ahead_succ {hasPlace : Bool} (unfinished : number < (setting.operations.getD index 0).toNat)
    (early : hasPlace = true → number < setting.warmup.toNat) :
    setting.ahead index hasPlace number =
      .throttle :: .operate (setting.stepOf number) ::
        setting.ahead index hasPlace (number + 1) := by
  have succ {last : Nat} (less : number < last) :
      List.range' number (last - number) =
        number :: List.range' (number + 1) (last - (number + 1)) := by
    obtain ⟨more, rfl⟩ := Nat.exists_eq_add_of_lt less
    rw [show number + more + 1 - number = more + 1 by omega, List.range'_succ]
    congr 2
    omega
  rw [setting.stepOf_eq]
  cases hasPlace with
  | true =>
    have before : number < setting.boundary index := Nat.lt_min.2 ⟨early rfl, unfinished⟩
    simp only [ahead, if_true]
    rw [succ before]
    rfl
  | false =>
    simp only [ahead, Bool.false_eq_true, if_false, Duty.callsFrom]
    rw [show (setting.duty index).operations = setting.operations.getD index 0 from rfl,
      succ unfinished]
    rfl

theorem ahead_boundary (setting : Setting ω σ) (index : Nat) :
    setting.ahead index true (setting.boundary index) =
      .arrive :: setting.ahead index false (setting.boundary index) := by
  simp [ahead]

theorem ahead_of_le (finished : (setting.operations.getD index 0).toNat ≤ number) :
    setting.ahead index false number = [.cleanup] := by
  simp only [ahead, Bool.false_eq_true, if_false, Duty.callsFrom]
  rw [show (setting.duty index).operations = setting.operations.getD index 0 from rfl,
    Nat.sub_eq_zero_of_le finished]
  rfl

end Setting

/-! ## One worker -/

/-- The answers that a history tells of: one deed for each. -/
def answersOf (deeds : List Deed) (number : Nat) : Except Stop Unit :=
  match deeds[number]? with
  | some (.stopped reason) => .error reason
  | _ => .ok ()

theorem answersOf_of_unstopped {deeds : List Deed} (unstopped : ∀ reason, .stopped reason ∉ deeds)
    (number : Nat) : answersOf deeds number = .ok () := by
  rw [answersOf]
  split
  · next reason found => exact absurd (List.mem_of_getElem? found) (unstopped reason)
  · rfl

theorem answersOf_append {deeds : List Deed} (more : List Deed) {number : Nat}
    (within : number < deeds.length) :
    answersOf (deeds ++ more) number = answersOf deeds number := by
  rw [answersOf, List.getElem?_append_left within, answersOf]

theorem answersOf_stopped (deeds : List Deed) (reason : Stop) :
    answersOf (deeds ++ [.stopped reason]) deeds.length = .error reason := by
  rw [answersOf, List.getElem?_concat_length]

namespace Worker

/-- The action that the worker is through with in its next step, or at the gate the one that it
begins. -/
def action? (setting : Setting ω σ) (index : Nat) (fate : Fate) (shared : Shared α ω σ)
    (worker : Worker) : Option Action :=
  match worker.place with
  | .opening => some .init
  | .arriving => some .arrive
  | .throttling => some .throttle
  | .planning | .serving .. =>
    (worker.deed? setting index fate shared).map fun _ => .operate (setting.stepOf worker.iteration)
  | .closing => some .cleanup
  | .leavingGate => if worker.hasPlace then some .release else none
  | .leaving => some .countDown
  | .looping | .waiting | .claiming | .starting | .exiting | .ended => none

/-- What the worker has left to do before it departs, unless it is stopped. -/
def rest (setting : Setting ω σ) (index : Nat) (worker : Worker) : List Action :=
  match worker.place with
  | .opening => .init :: setting.ahead index worker.hasPlace worker.iteration
  | .looping | .waiting | .claiming | .starting =>
    setting.ahead index worker.hasPlace worker.iteration
  | .arriving => .arrive :: setting.ahead index false worker.iteration
  | .throttling =>
    .throttle :: .operate (setting.stepOf worker.iteration) ::
      setting.ahead index worker.hasPlace (worker.iteration + 1)
  | .planning | .serving .. =>
    .operate (setting.stepOf worker.iteration) ::
      setting.ahead index worker.hasPlace (worker.iteration + 1)
  | .closing => [.cleanup]
  | .leavingGate | .leaving | .exiting | .ended => []

/-- What a worker has done since its routine was over but for the departure; `body` is what it did
before. -/
def departure (setting : Setting ω σ) (body : List Action) (worker : Worker) : List Action :=
  let release := if setting.hasGate && decide (.arrive ∉ body) then [.release] else []
  match worker.place with
  | .leaving => release
  | .exiting | .ended => release ++ [.countDown]
  | _ => []

/-- The journals that a worker with this history can have. -/
inductive Journaled (setting : Setting ω σ) (index : Nat) (deeds : List Deed) (worker : Worker) :
    List Action → Prop
  | running {journal : List Action} (routine : worker.outcome = none)
      (whole : journal ++ worker.rest setting index = setting.agenda index)
      (answered : asked journal = deeds.length)
      (hasPlace : worker.hasPlace = (setting.hasGate && decide (.arrive ∉ journal))) :
      Journaled setting index deeds worker journal
  | departing {body : List Action} {result : Except Stop Unit}
      (carried : carryOut (answersOf deeds) (setting.agenda index) [] = (result, body))
      (outcome : worker.outcome =
        some (result.map fun _ => setting.operations.getD index 0))
      (hasPlace : worker.place = .leavingGate →
        worker.hasPlace = (setting.hasGate && decide (.arrive ∉ body))) :
      Journaled setting index deeds worker (body ++ worker.departure setting body)

variable {setting : Setting ω σ} {index : Nat} {worker next : Worker} {deeds : List Deed}
  {journal : List Action}

/-- A worker is on its departure exactly if its routine has ended. -/
theorem Fits.departs_iff {warmup operations : Nat} {isOpen : Bool}
    (fits : worker.Fits warmup operations isOpen) :
    worker.outcome ≠ none ↔
      worker.place = .leavingGate ∨ worker.place = .leaving ∨ worker.place = .exiting ∨
        worker.place = .ended := by
  have some_of_failed (failed : worker.Failed) : worker.outcome ≠ none := by
    obtain ⟨reason, outcome⟩ := failed
    rw [outcome]
    exact Option.some_ne_none _
  unfold Fits at fits
  cases stands : worker.place with
  | leavingGate | leaving | exiting | ended =>
    rw [stands] at fits
    exact iff_of_true (fits.elim (fun stopped => some_of_failed stopped.1) And.left) (by simp)
  | opening | looping | arriving | waiting | claiming | starting | throttling | planning
  | serving | closing =>
    rw [stands] at fits
    exact iff_of_false (not_not_intro fits.1) (by simp)

theorem asked_action? (setting : Setting ω σ) (index : Nat) (fate : Fate) (shared : Shared α ω σ)
    (worker : Worker) :
    asked (worker.action? setting index fate shared).toList =
      (worker.deed? setting index fate shared).toList.length := by
  unfold action?
  cases stands : worker.place with
  | opening =>
    simp only [deed?, stands]
    split <;> rfl
  | closing =>
    simp only [deed?, stands]
    split <;> rfl
  | planning | serving =>
    simp only
    cases worker.deed? setting index fate shared <;> rfl
  | leavingGate =>
    simp only [deed?, stands]
    split <;> rfl
  | _ =>
    simp only [deed?, stands]
    rfl

theorem hasPlace_proceed (worker : Worker) (tasks : List Mix.Task) :
    (worker.proceed tasks).hasPlace = worker.hasPlace := by
  cases tasks with
  | nil => rfl
  | cons task later => rfl

/-- A routine that is stopped has carried out its agenda up to the action that was answered so. -/
theorem journaled_stop (unstopped : ∀ reason, .stopped reason ∉ deeds) {action : Action}
    {later : List Action} (whole : journal ++ action :: later = setting.agenda index)
    (asks : action.asks = true) (answered : asked journal = deeds.length)
    (hasPlace : worker.hasPlace = (setting.hasGate && decide (.arrive ∉ journal ++ [action])))
    (reason : Stop) :
    (worker.stop reason).Journaled setting index (deeds ++ [.stopped reason])
      (journal ++ [action]) := by
  have before : ∀ number < asked journal,
      answersOf (deeds ++ [.stopped reason]) number = .ok () := by
    intro number within
    rw [answered] at within
    rw [answersOf_append _ within, answersOf_of_unstopped unstopped]
  have last : answersOf (deeds ++ [.stopped reason]) (asked journal) = .error reason := by
    rw [answered, answersOf_stopped]
  have carried := carryOut_of_stopped later asks before last
  rw [whole] at carried
  have departs : (worker.stop reason).Journaled setting index (deeds ++ [.stopped reason])
      (journal ++ [action] ++ []) := .departing carried rfl fun _ => hasPlace
  rwa [List.append_nil] at departs

/-- A routine that is not stopped has carried out its agenda. -/
theorem journaled_close (unstopped : ∀ reason, .stopped reason ∉ deeds)
    (whole : journal ++ [.cleanup] = setting.agenda index)
    (hasPlace : worker.hasPlace = (setting.hasGate && decide (.arrive ∉ journal ++ [.cleanup]))) :
    (worker.finish (.ok (setting.operations.getD index 0))).Journaled setting index
      (deeds ++ [.closed]) (journal ++ [.cleanup]) := by
  have carried : carryOut (answersOf (deeds ++ [.closed])) (setting.agenda index) [] =
      (.ok (), journal ++ [.cleanup]) := by
    rw [whole]
    refine carryOut_of_answered fun number _ => answersOf_of_unstopped ?_ number
    intro reason member
    rcases List.mem_append.1 member with old | new
    · exact unstopped reason old
    · cases List.mem_singleton.1 new
  have departs : (worker.finish (.ok (setting.operations.getD index 0))).Journaled setting index
      (deeds ++ [.closed]) (journal ++ [.cleanup] ++ []) := .departing carried rfl fun _ => hasPlace
  rwa [List.append_nil] at departs

/-- Within an iteration the operation is left to do, and it is over when no calls are left. -/
theorem rest_proceed (setting : Setting ω σ) (index : Nat) (worker : Worker)
    (tasks : List Mix.Task) :
    .operate (setting.stepOf worker.iteration) ::
        setting.ahead index worker.hasPlace (worker.iteration + 1) =
      ((deedOf worker.iteration (.tasks tasks)).map fun _ =>
          Action.operate (setting.stepOf worker.iteration)).toList ++
        (worker.proceed tasks).rest setting index := by
  cases tasks <;> rfl

section
variable [Aggregate α] {fate : Fate} {shared after : Shared α ω σ}

/-- As long as its routine is not over, a step of a worker does the next of what is left to do, or
nothing of it. -/
theorem Advance.rest_eq (advance : worker.Advance setting index fate shared next after)
    (fits : worker.Fits setting.warmup.toNat (setting.operations.getD index 0).toNat
      shared.gate.isOpen)
    (routine : next.outcome = none) :
    worker.rest setting index =
      (worker.action? setting index fate shared).toList ++ next.rest setting index := by
  unfold rest action?
  cases advance with
  | planned stands plan =>
    simp only [stands, deed?, plan]
    exact rest_proceed setting index worker _
  | settled stands settles | overlooked stands settles =>
    simp only [stands, deed?, settles]
    exact rest_proceed setting index worker _
  | reachedGate stands hasPlace due =>
    have boundary : worker.iteration = setting.boundary index := by
      unfold Fits at fits
      rw [stands] at fits
      obtain ⟨_, ahead | beyond⟩ := fits
      · have within := ahead.2
        rw [Setting.boundary]
        omega
      · rw [beyond.1] at hasPlace
        cases hasPlace
    simp only [stands, goTo, hasPlace, boundary, setting.ahead_boundary]
    rfl
  | wentOn stands unfinished early =>
    have before : worker.hasPlace = true → worker.iteration < setting.warmup.toNat := by
      intro hasPlace
      unfold Fits at fits
      rw [stands] at fits
      obtain ⟨_, ahead | beyond⟩ := fits
      · exact Nat.lt_of_le_of_ne ahead.2.1 (early hasPlace)
      · rw [beyond.1] at hasPlace
        cases hasPlace
    simp only [stands, goTo, Setting.ahead_succ unfinished before]
    rfl
  | performedAll stands hasPlace finished =>
    simp only [stands, goTo, hasPlace, Setting.ahead_of_le finished]
    rfl
  | openingFailed | planStopped | settlingStopped | passedOn | closed | closingFailed =>
    cases routine
  | gaveUp stands | keptNothing stands | leftToExit stands | left stands | exited stands
  | exitedUnharmed stands => exact absurd routine (fits.departs_iff.2 (by simp [stands]))
  | opened stands | arrived stands | passed stands | won stands | lost stands | started stands
  | throttled stands =>
    simp only [stands]
    rfl
  | clockRead stands | answered stands | callFailed stands | timed stands | numbered stands
  | filed stands =>
    simp only [stands, deed?]
    rfl

/-- A routine ends with a step that is answered with a stop, or with the closing of the store. -/
theorem Advance.stops_or_closes (advance : worker.Advance setting index fate shared next after)
    (routine : worker.outcome = none) (past : next.outcome ≠ none) :
    (∃ reason action later, next = worker.stop reason ∧
        worker.deed? setting index fate shared = some (.stopped reason) ∧
        worker.action? setting index fate shared = some action ∧ action.asks = true ∧
        worker.rest setting index = action :: later) ∨
      worker.place = .closing ∧ next = worker.finish (.ok (setting.operations.getD index 0)) ∧
        worker.deed? setting index fate shared = some .closed := by
  cases advance with
  | openingFailed stands answer | closingFailed stands answer =>
    refine .inl ⟨_, _, _, rfl, ?_, by simp only [action?, stands]; rfl, rfl,
      by simp only [rest, stands]; rfl⟩
    simp only [deed?, stands, answer]
  | planStopped stands plan =>
    refine .inl ⟨_, _, _, rfl, ?_, ?_, rfl, by simp only [rest, stands]; rfl⟩
    · simp only [deed?, stands, plan, deedOf]
    · simp only [action?, deed?, stands, plan, deedOf]
      rfl
  | settlingStopped stands settles | passedOn stands settles =>
    refine .inl ⟨_, _, _, rfl, ?_, ?_, rfl, by simp only [rest, stands]; rfl⟩
    · simp only [deed?, stands, settles, deedOf]
    · simp only [action?, deed?, stands, settles, deedOf]
      rfl
  | closed stands answer =>
    refine .inr ⟨stands, rfl, ?_⟩
    simp only [deed?, stands, answer]
  | @planned tasks | @settled _ _ tasks | @overlooked _ _ tasks =>
    cases tasks <;> exact absurd routine past
  | _ => exact absurd routine past

/-- A worker whose routine is over does no more than give up its place, if it still has it, and
count down. -/
theorem Advance.departure_eq (advance : worker.Advance setting index fate shared next after)
    (fits : worker.Fits setting.warmup.toNat (setting.operations.getD index 0).toNat
      shared.gate.isOpen)
    (past : worker.outcome ≠ none) {body : List Action}
    (hasPlace : worker.place = .leavingGate →
      worker.hasPlace = (setting.hasGate && decide (.arrive ∉ body))) :
    worker.deed? setting index fate shared = none ∧ next.outcome = worker.outcome ∧
      next.place ≠ .leavingGate ∧
      next.departure setting body =
        worker.departure setting body ++ (worker.action? setting index fate shared).toList := by
  have departs := fits.departs_iff.1 past
  cases advance with
  | gaveUp stands has | keptNothing stands has =>
    have release := hasPlace stands
    rw [has] at release
    refine ⟨by simp only [deed?, stands], rfl, Place.noConfusion, ?_⟩
    simp only [departure, action?, goTo, stands, has, ← release]
    rfl
  | leftToExit stands | left stands =>
    refine ⟨by simp only [deed?, stands], rfl, Place.noConfusion, ?_⟩
    simp only [departure, action?, goTo, stands]
    rfl
  | exited stands | exitedUnharmed stands =>
    refine ⟨by simp only [deed?, stands], rfl, Place.noConfusion, ?_⟩
    simp only [departure, action?, goTo, stands]
    exact (List.append_nil _).symm
  | opened stands | openingFailed stands | reachedGate stands | wentOn stands | performedAll stands
  | arrived stands | passed stands | won stands | lost stands | started stands | throttled stands
  | planStopped stands | planned stands | clockRead stands | answered stands | callFailed stands
  | timed stands | numbered stands | filed stands | settled stands | settlingStopped stands
  | overlooked stands | passedOn stands | closed stands | closingFailed stands =>
    simp [stands] at departs

/-- Only the arrival at the gate uses up the place there, as long as the routine is not over. -/
theorem Advance.hasPlace_eq (advance : worker.Advance setting index fate shared next after)
    (fits : worker.Fits setting.warmup.toNat (setting.operations.getD index 0).toNat
      shared.gate.isOpen)
    (routine : worker.outcome = none) :
    next.hasPlace =
      (worker.hasPlace &&
        decide (.arrive ∉ (worker.action? setting index fate shared).toList)) := by
  have stays (others : worker.action? setting index fate shared ≠ some .arrive) :
      worker.hasPlace = (worker.hasPlace &&
        decide (.arrive ∉ (worker.action? setting index fate shared).toList)) := by
    have absent : .arrive ∉ (worker.action? setting index fate shared).toList :=
      fun member => others (Option.mem_toList.1 member)
    rw [decide_eq_true absent, Bool.and_true]
  cases advance with
  | arrived stands => simp [action?, stands]
  | planned stands | settled stands | overlooked stands =>
    exact (hasPlace_proceed worker _).trans (stays (by simp [action?, stands]))
  | gaveUp stands => exact absurd routine (fits.departs_iff.2 (by simp [stands]))
  | _ stands => exact stays (by simp [action?, stands])

/-- Every step of a worker keeps its journal and its agenda together. -/
theorem Advance.journaled (advance : worker.Advance setting index fate shared next after)
    (fits : worker.Fits setting.warmup.toNat (setting.operations.getD index 0).toNat
      shared.gate.isOpen)
    (did : worker.Did (setting.operations.getD index 0) deeds)
    (journaled : worker.Journaled setting index deeds journal) :
    next.Journaled setting index (deeds ++ (worker.deed? setting index fate shared).toList)
      (journal ++ (worker.action? setting index fate shared).toList) := by
  cases journaled with
  | @departing body result carried outcome hasPlace =>
    have past : worker.outcome ≠ none := by simp [outcome]
    obtain ⟨noDeed, kept, gone, departs⟩ := advance.departure_eq fits past hasPlace
    rw [noDeed, Option.toList_none, List.append_nil, List.append_assoc, ← departs]
    exact .departing carried (kept.trans outcome) fun stands => absurd stands gone
  | running routine whole answered hasPlace =>
    have unstopped : ∀ reason, .stopped reason ∉ deeds := by
      intro reason member
      rw [did.stopped_mem_iff.1 member] at routine
      cases routine
    have places := advance.hasPlace_eq fits routine
    have unused : (decide (.arrive ∉ journal) &&
        decide (.arrive ∉ (worker.action? setting index fate shared).toList)) =
          decide (.arrive ∉ journal ++ (worker.action? setting index fate shared).toList) := by
      simp only [List.mem_append, not_or, Bool.decide_and]
    rw [hasPlace, Bool.and_assoc, unused] at places
    by_cases past : next.outcome = none
    · have rest := advance.rest_eq fits past
      refine .running past ?_ ?_ places
      · rw [List.append_assoc, ← rest, whole]
      · rw [asked_append, List.length_append, answered, asked_action?]
    rcases advance.stops_or_closes routine past with
      ⟨reason, action, later, rfl, deed, acts, asks, rest⟩ | ⟨stands, rfl, deed⟩
    · rw [rest] at whole
      rw [acts, Option.toList_some] at places ⊢
      rw [deed, Option.toList_some]
      exact journaled_stop unstopped whole asks answered places reason
    · have last : worker.rest setting index = [.cleanup] := by simp only [Worker.rest, stands]
      have acts : worker.action? setting index fate shared = some .cleanup := by
        simp only [action?, stands]
      rw [last] at whole
      rw [acts, Option.toList_some] at places ⊢
      rw [deed, Option.toList_some]
      exact journaled_close unstopped whole places

end

theorem journaled_fresh (setting : Setting ω σ) (index : Nat) :
    (fresh setting.hasGate).Journaled setting index [] [] :=
  .running rfl rfl rfl (Bool.and_true _).symm

end Worker

/-! ## Whole routines -/

namespace Setting

variable {setting : Setting ω σ}

theorem agenda_of_gate (gate : setting.hasGate = true) (index : Nat) :
    let duty := setting.duty index
    let boundary := min setting.warmup.toNat duty.operations.toNat
    duty.callsBefore setting.kind (· < setting.warmup.toNat) boundary ++
        .arrive :: duty.callsFrom setting.kind (· < setting.warmup.toNat) boundary =
      setting.agenda index := by
  intro duty boundary
  rw [agenda, gate, Duty.callsBefore, List.range_eq_range']
  rfl

/-- Without a warm-up there is no arrival, and no iteration is in the warm-up. -/
theorem agenda_of_no_gate (gate : setting.hasGate = false) (index : Nat) :
    (setting.duty index).calls setting.kind (fun _ => false) = setting.agenda index := by
  have cold : setting.warmup.toNat = 0 := by
    rw [hasGate, decide_eq_false_iff_not, UInt64.lt_iff_toNat_lt] at gate
    exact Nat.eq_zero_of_not_pos gate
  have never : (fun number => decide (number < setting.warmup.toNat)) = fun _ => false := by
    funext number
    rw [cold]
    rfl
  rw [agenda, gate, ahead, never,
    ← (setting.duty index).callsBefore_append_callsFrom setting.kind _ (Nat.zero_le _)]
  rfl

theorem run_routine (setting : Setting ω σ) (answers : Nat → Except Stop Unit) (index : Nat) :
    (setting.routine (journaling setting.kind answers) index).run [] =
      let (result, body) := carryOut answers (setting.agenda index) []
      (result.map fun _ => setting.operations.getD index 0,
        body ++ ((if setting.hasGate && decide (.arrive ∉ body) then [.release] else []) ++
          [.countDown])) := by
  rw [routine]
  cases gate : setting.hasGate with
  | true =>
    rw [if_pos rfl, run_warmupRoutine, agenda_of_gate gate]
    rcases carryOut answers (setting.agenda index) [] with ⟨result, body⟩
    by_cases unused : .arrive ∉ body
    · simp [unused, duty]
    · simp [unused, duty]
  | false =>
    rw [if_neg Bool.false_ne_true, run_plainRoutine, agenda_of_no_gate gate]
    rfl

end Setting

/-! ## All workers -/

namespace State

variable [Aggregate α] {setting : Setting ω σ} {index : Nat}

omit [Aggregate α] in
/-- What a move adds to the journal of a worker. -/
def actions (setting : Setting ω σ) (index : Nat) (move : Move) (state : State α ω σ) :
    List Action :=
  match move with
  | .worker other fate =>
    if other = index then
      (state.workers[index]?.bind (Worker.action? setting index fate state.shared)).toList
    else []
  | _ => []

/-- The journal of a worker along a schedule. -/
def journalAlong (setting : Setting ω σ) (index : Nat) (moves : List Move) (state : State α ω σ) :
    List Action :=
  noteAlong (step setting) (actions setting index) moves state

/-- Every worker has the journal that its history tells of, along this schedule. -/
structure Journaled (setting : Setting ω σ) (start : State α ω σ) (moves : List Move)
    (state : State α ω σ) : Prop where
  followed : follow (step setting) moves start = some state
  journals : ∀ {index : Nat} {worker : Worker}, state.workers[index]? = some worker →
    worker.Journaled setting index (deedsOf index (start.deedsAlong setting moves))
      (start.journalAlong setting index moves)

theorem Journaled.step {world : σ} {work : ω} {meter : Meter α} {now : UInt64} {moves : List Move}
    {before after : State α ω σ} {move : Move}
    (journaled : Journaled setting (opening setting world work meter now) moves before)
    (steps : State.step setting move before = some after) :
    Journaled setting (opening setting world work meter now) (moves ++ [move]) after := by
  have recorded := Recorded.of_follow journaled.followed
  refine ⟨?_, fun {index worker} got => ?_⟩
  · rw [follow_append journaled.followed, follow, steps]
    rfl
  · rw [deedsAlong, journalAlong, noteAlong_concat journaled.followed,
      noteAlong_concat journaled.followed, deedsOf_append]
    cases (fires_of_step steps).2 with
    | @worker other fate party next shared spawned inside advance =>
      simp only [deeds, actions]
      rcases of_getElem?_set got with ⟨rfl, rfl⟩ | ⟨different, got⟩
      · rw [inside, Option.bind_some, Option.bind_some, deedsOf_map_self, if_pos rfl]
        exact advance.journaled (recorded.inOrder.fits inside) (recorded.did inside)
          (journaled.journals inside)
      · rw [deedsOf_map_of_ne different, if_neg different, List.append_nil, List.append_nil]
        exact journaled.journals got
    | spawned | stoodIn | joined | timeStopped | concluded | roused | wrote =>
      simp only [deeds, actions, deedsOf, List.filter_nil, List.map_nil, List.append_nil]
      exact journaled.journals got

theorem Journaled.of_follow {world : σ} {work : ω} {meter : Meter α} {now : UInt64}
    {moves : List Move} {state : State α ω σ}
    (followed : follow (State.step setting) moves (opening setting world work meter now) =
      some state) :
    Journaled setting (opening setting world work meter now) moves state := by
  refine follow_invariant followed ⟨rfl, fun {index worker} got => ?_⟩ Journaled.step
  rw [worker_opening (List.mem_of_getElem? got)]
  exact Worker.journaled_fresh setting index

end State

/-- **A worker in a phase does what its routine does.**  Take any schedule of a phase and a worker
that has ended behind it.  Given the answers that its history tells of, the routine of the worker
has the same outcome, and it takes the same actions in the same order. -/
theorem run_routine_of_ended [Aggregate α] (setting : Setting ω σ) (world : σ) (work : ω)
    (meter : Meter α) (now : UInt64) {moves : List Move} {state : State α ω σ}
    (followed : follow (State.step setting) moves (State.opening setting world work meter now) =
      some state)
    {index : Nat} {worker : Worker} (found : state.workers[index]? = some worker)
    (ended : worker.place = .ended) :
    let start : State α ω σ := State.opening setting world work meter now
    let answers := answersOf (deedsOf index (start.deedsAlong setting moves))
    ∃ result, worker.outcome = some result ∧
      (setting.routine (journaling setting.kind answers) index).run [] =
        (result, start.journalAlong setting index moves) := by
  intro start answers
  have fits := (State.Recorded.of_follow followed).inOrder.fits found
  have journaled : worker.Journaled setting index (deedsOf index (start.deedsAlong setting moves))
      (start.journalAlong setting index moves) :=
    (State.Journaled.of_follow followed).journals found
  generalize start.journalAlong setting index moves = journal at journaled ⊢
  cases journaled with
  | running routine => exact absurd routine (fits.departs_iff.2 (by simp [ended]))
  | departing carried outcome =>
    refine ⟨_, outcome, ?_⟩
    rw [setting.run_routine, carried, Worker.departure, ended]

end StoreBench.Phase
