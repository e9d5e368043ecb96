import StoreBench.Proofs.Phase.Results
import StoreBench.Proofs.Store.Lifecycle

/-!
Contract: how many hold the store in a phase and after it.

A worker holds the store from the entry of its history that says that it opened the store to the one
that says that it closed it.  If it is stopped in between, it keeps hold for good.

Owns:
- `holdsStore` and `leavesOpen`, what a history says about the hold on the store;
- `State.Leasing`, which ties the holders to the histories;
- the number of holders, at every moment and once the phase has returned.

Does not own: which opening the holders work on.
-/

namespace StoreBench.Store.MemoryWorld

/-- The clients of a store that `opener` opens, as the stores of the workers of a phase. -/
def backendOf (opener : Nat → Except Failure Unit) : Clients MemoryWorld where
  init := init opener
  cleanup := cleanup
  call := call

theorem initializedCount_eq (world : MemoryWorld) :
    world.initializedCount =
      (List.range world.clients.length).countP fun index => (world.openingOf index).isSome := by
  have listed : world.clients.map (·.opening.isSome) =
      (List.range world.clients.length).map fun index => (world.openingOf index).isSome := by
    apply List.ext_getElem (by simp)
    intro index inside _
    rw [List.length_map] at inside
    simp [openingOf, List.getElem?_eq_getElem inside]
  have counted := congrArg (List.countP id) listed
  rw [List.countP_map, List.countP_map] at counted
  exact counted

/-- What one request of client number `index` leaves: the holders are in order, and nobody else's
hold has changed. -/
structure Keeps (held index : Nat) (holds : Bool) (before after : MemoryWorld) : Prop where
  leased : after.Leased held
  size : after.clients.length = before.clients.length
  own : (after.openingOf index).isSome = holds
  others : ∀ other ≠ index, (after.openingOf other).isSome = (before.openingOf other).isSome

namespace Leased

variable {held index : Nat} {world : MemoryWorld}

/-- A client that opens the store holds it from then on, and one that cannot does not. -/
theorem keeps_init (leased : world.Leased held) (inside : index < world.clients.length)
    (blank : (world.openingOf index).isSome = false) (opener : Nat → Except Failure Unit) :
    Keeps held index (world.init opener index).1.isOk world (world.init opener index).2 := by
  have none : world.openingOf index = none := by simpa using blank
  rcases leased.init_of_uninitialized inside none opener with
    ⟨after, done, kept, size⟩ | ⟨fault, _, _, failed, kept⟩
  · have holds := isSome_openingOf_init inside done
    rw [done]
    refine ⟨kept, size, (holds index).2 (.inl rfl), fun other different => ?_⟩
    rw [Bool.eq_iff_iff, holds other]
    simp [different]
  · rw [failed]
    exact ⟨kept, rfl, blank, fun _ _ => rfl⟩

theorem keeps_cleanup (leased : world.Leased held) (holds : (world.openingOf index).isSome) :
    (world.cleanup index).1 = .ok () ∧ Keeps held index false world (world.cleanup index).2 := by
  obtain ⟨opening, known⟩ := Option.isSome_iff_exists.1 holds
  obtain ⟨after, done, kept, size⟩ := leased.cleanup_of_initialized known
  have left := isSome_openingOf_cleanup done
  rw [done]
  refine ⟨rfl, kept, size, ?_, fun other different => ?_⟩
  · simpa using left index
  · rw [Bool.eq_iff_iff, left other]
    simp [different]

theorem keeps_call (leased : world.Leased held) (index : Nat) (call : Call) :
    Keeps held index (world.openingOf index).isSome world
      (MemoryWorld.call index call world).2 := by
  have clients := (call_keeps index call world).2
  refine ⟨leased.call index call, congrArg List.length clients, ?_, fun other _ => ?_⟩
  · rw [openingOf, clients, openingOf]
  · rw [openingOf, clients, openingOf]

theorem keeps_nothing (leased : world.Leased held) :
    Keeps held index (world.openingOf index).isSome world world :=
  ⟨leased, rfl, rfl, fun _ _ => rfl⟩

end Leased

end StoreBench.Store.MemoryWorld

namespace StoreBench.Phase

open Latency Store

variable {α ω : Type}

/-! ## Histories -/

/-- Whether a worker of this history holds the store: it has opened it and not closed it. -/
def holdsStore (deeds : List Deed) : Bool :=
  deeds.contains .opened && !deeds.contains .closed

/-- Whether this is the history of a worker that was stopped after it had opened its store. -/
def leavesOpen (deeds : List Deed) : Bool :=
  deeds.contains .opened && deeds.any fun deed => deed matches .stopped _

theorem holdsStore_append {deeds : List Deed} {deed : Deed} (opens : deed ≠ .opened)
    (closes : deed ≠ .closed) : holdsStore (deeds ++ [deed]) = holdsStore deeds := by
  simp [holdsStore, opens.symm, closes.symm]

/-- Whoever goes on or is stopped within an iteration neither opens the store nor closes it. -/
theorem holdsStore_deedOf (deeds : List Deed) (iteration : Nat) (plan : Mix.Plan) :
    holdsStore (deeds ++ (Worker.deedOf iteration plan).toList) = holdsStore deeds := by
  cases plan with
  | stop reason => exact holdsStore_append Deed.noConfusion Deed.noConfusion
  | tasks tasks =>
    rw [Worker.deedOf]
    split
    · exact holdsStore_append Deed.noConfusion Deed.noConfusion
    · rw [Option.toList_none, List.append_nil]

@[simp]
theorem holdsStore_upTo (iteration : Nat) : holdsStore (Deed.upTo iteration) = true := by
  simp [holdsStore, Deed.upTo]

/-- Once its routine is over, a worker holds the store exactly if it was stopped too late. -/
theorem Worker.Did.holdsStore_eq {operations : UInt64} {worker : Worker} {deeds : List Deed}
    (did : worker.Did operations deeds) (past : worker.outcome ≠ none) :
    holdsStore deeds = leavesOpen deeds := by
  cases did with
  | nothing _ routine | begun _ routine => exact absurd routine past
  | all => simp [holdsStore, leavesOpen, Deed.upTo]
  | refused => rfl
  | stopped => simp [holdsStore, leavesOpen, Deed.upTo]

/-! ## One worker -/

/-- A step changes the holders as the history of its worker says. -/
theorem Worker.Advance.keeps [Aggregate α] {setting : Setting ω MemoryWorld} {index held : Nat}
    {fate : Fate} {worker next : Worker} {shared after : Shared α ω MemoryWorld}
    {opener : Nat → Except Failure Unit} {deeds : List Deed} {warmup : Nat} {isOpen : Bool}
    (advance : worker.Advance setting index fate shared next after)
    (inMemory : setting.clients = MemoryWorld.backendOf opener)
    (fits : worker.Fits warmup (setting.operations.getD index 0).toNat isOpen)
    (did : worker.Did (setting.operations.getD index 0) deeds)
    (leased : shared.world.Leased held) (inside : index < shared.world.clients.length)
    (holds : (shared.world.openingOf index).isSome = holdsStore deeds) :
    MemoryWorld.Keeps held index
      (holdsStore (deeds ++ (worker.deed? setting index fate shared).toList)) shared.world
      after.world := by
  have kept : MemoryWorld.Keeps held index (holdsStore deeds) shared.world shared.world :=
    holds ▸ leased.keeps_nothing
  have called {call : Call} {reply : Reply} {world : MemoryWorld}
      (answer : setting.clients.call index call shared.world = (reply, world)) :
      MemoryWorld.Keeps held index (holdsStore deeds) shared.world world := by
    have calls := leased.keeps_call index call
    rw [inMemory] at answer
    rwa [holds, show MemoryWorld.call index call shared.world = _ from answer] at calls
  have blank (stands : worker.place = .opening) :
      deeds = [] ∧ (shared.world.openingOf index).isSome = false := by
    obtain ⟨_, rfl⟩ := did.of_opening stands (fits.routine (.inl stands))
    exact ⟨rfl, holds⟩
  have whole (stands : worker.place = .closing) :
      deeds = Deed.upTo worker.iteration ∧ (shared.world.openingOf index).isSome = true := by
    have routine := fits.routine (.inr (.inr (.inl stands)))
    have begun := did.of_begun (by simp [stands]) routine
    rw [begun, holdsStore_upTo] at holds
    exact ⟨begun, holds⟩
  cases advance with
  | opened stands answer =>
    obtain ⟨rfl, unused⟩ := blank stands
    have joins := leased.keeps_init inside unused opener
    simp only [deed?, stands, answer]
    rw [inMemory] at answer
    rw [show shared.world.init opener index = _ from answer] at joins
    exact joins
  | openingFailed stands answer =>
    obtain ⟨rfl, unused⟩ := blank stands
    have joins := leased.keeps_init inside unused opener
    simp only [deed?, stands, answer]
    rw [inMemory] at answer
    rw [show shared.world.init opener index = _ from answer] at joins
    exact joins
  | closed stands answer =>
    obtain ⟨rfl, uses⟩ := whole stands
    obtain ⟨_, parts⟩ := leased.keeps_cleanup uses
    simp only [deed?, stands, answer]
    rw [inMemory] at answer
    rw [show shared.world.cleanup index = _ from answer] at parts
    have gone : holdsStore (Deed.upTo worker.iteration ++ [.closed]) = false := by
      simp [holdsStore]
    rw [Option.toList_some, gone]
    exact parts
  | closingFailed stands answer =>
    obtain ⟨_, uses⟩ := whole stands
    have succeeds := (leased.keeps_cleanup uses).1
    rw [inMemory] at answer
    rw [show shared.world.cleanup index = _ from answer] at succeeds
    cases succeeds
  | answered stands answer | callFailed stands answer =>
    simp only [deed?, stands, Option.toList_none, List.append_nil]
    exact called answer
  | planStopped stands | planned stands | settled stands | settlingStopped stands
  | overlooked stands | passedOn stands =>
    simp only [deed?, stands]
    rw [holdsStore_deedOf]
    exact kept
  | clockRead stands | timed stands | numbered stands | filed stands
  | reachedGate stands | wentOn stands | performedAll stands | arrived stands | passed stands
  | won stands | lost stands | started stands | throttled stands | gaveUp stands
  | keptNothing stands | leftToExit stands | left stands | exited stands
  | exitedUnharmed stands =>
    have none : worker.deed? setting index fate shared = none := by simp [deed?, stands]
    rw [none, Option.toList_none, List.append_nil]
    exact kept

/-! ## All workers -/

namespace State

variable [Aggregate α] {setting : Setting ω MemoryWorld} {state after : State α ω MemoryWorld}
  {held : Nat} {log : List (Nat × Deed)} {move : Move} {opener : Nat → Except Failure Unit}

/-- The initialized clients are those of the workers that hold the store by their histories; all
other holders are outsiders. -/
structure Leasing (setting : Setting ω MemoryWorld) (held : Nat) (log : List (Nat × Deed))
    (state : State α ω MemoryWorld) : Prop where
  recorded : state.Recorded setting log
  size : state.shared.world.clients.length = setting.workers
  leased : state.shared.world.Leased held
  holds : ∀ index, (state.shared.world.openingOf index).isSome = holdsStore (deedsOf index log)

theorem Leasing.fires (leasing : state.Leasing setting held log)
    (inMemory : setting.clients = MemoryWorld.backendOf opener)
    (fires : state.Fires setting move after) :
    after.Leasing setting held (log ++ state.deeds setting move) := by
  have recorded := leasing.recorded.fires fires
  cases fires with
  | @worker index fate worker next shared spawned found advance =>
    have inOrder := leasing.recorded.inOrder
    have inside : index < state.shared.world.clients.length := by
      rw [leasing.size]
      exact inOrder.lt_workers found
    have keeps := advance.keeps inMemory (inOrder.fits found) (leasing.recorded.did found)
      leasing.leased inside (leasing.holds index)
    refine ⟨recorded, keeps.size.trans leasing.size, keeps.leased, fun other => ?_⟩
    rw [deeds, found, Option.bind_some, deedsOf_append]
    by_cases own : other = index
    · subst own
      rw [deedsOf_map_self]
      exact keeps.own
    · rw [deedsOf_map_of_ne (Ne.symm own), List.append_nil]
      exact (keeps.others other own).trans (leasing.holds other)
  | spawned | stoodIn | joined | timeStopped | concluded | roused | wrote =>
    simp only [deeds, List.append_nil] at recorded ⊢
    exact ⟨recorded, leasing.size, leasing.leased, leasing.holds⟩

theorem Leasing.of_follow (inMemory : setting.clients = MemoryWorld.backendOf opener)
    {world : MemoryWorld} (leased : world.Leased held)
    (size : world.clients.length = setting.workers)
    (blank : ∀ client ∈ world.clients, client.opening = none) {work : ω} {meter : Meter α}
    {now : UInt64} {moves : List Move} (followed : follow (step setting) moves
      (opening setting world work meter now) = some state) :
    state.Leasing setting held
      ((opening setting world work meter now).deedsAlong setting moves) := by
  refine noteAlong_invariant followed ?_
    fun leasing steps => leasing.fires inMemory (fires_of_step steps).2
  refine ⟨recorded_opening setting world work meter now, size, leased, fun index => ?_⟩
  have none : world.openingOf index = none := MemoryWorld.openingOf_eq_none blank index
  show (world.openingOf index).isSome = _
  rw [none]
  rfl

omit [Aggregate α] in
/-- The holders are the outsiders and the workers that hold the store by their histories. -/
theorem Leasing.holders_eq (leasing : state.Leasing setting held log) :
    state.shared.world.shared.lease.holders =
      held + (List.range setting.workers).countP fun index => holdsStore (deedsOf index log) := by
  rw [leasing.leased.count, MemoryWorld.initializedCount_eq, leasing.size]
  simp only [leasing.holds]

end State

/-- **Who holds the store after a phase.**  Take any phase on a store in memory: any number of
workers, a workload that is stopped wherever it likes, and an opener that may fail as well.  Before
the phase the store is in order, and its holders are outsiders.  In every schedule and at every
moment the holders are the outsiders and the workers that have opened the store and not closed it,
and the store is open exactly if there are any.  Once the phase has returned, and every worker could
be started, the holders are more than before by the workers that were stopped after they had opened
the store.  A phase that answers a report leaves as many as there were, so the store is open exactly
if somebody else holds it. -/
theorem holders_after_phase [Aggregate α] (setting : Setting ω MemoryWorld)
    (opener : Nat → Except Failure Unit) (inMemory : setting.clients = MemoryWorld.backendOf opener)
    {world : MemoryWorld} (leased : world.Leased world.shared.lease.holders)
    (size : world.clients.length = setting.workers)
    (blank : ∀ client ∈ world.clients, client.opening = none) (work : ω) (meter : Meter α)
    (now : UInt64) {moves : List Move} {state : State α ω MemoryWorld}
    (followed : follow (State.step setting) moves (State.opening setting world work meter now) =
      some state) :
    let before := world.shared.lease.holders
    let lease := state.shared.world.shared.lease
    let log := (State.opening setting world work meter now).deedsAlong setting moves
    (lease.holders = before +
        (List.range setting.workers).countP (fun index => holdsStore (deedsOf index log)) ∧
      (lease.isOpen = true ↔ 0 < lease.holders)) ∧
    (state.returned = true → state.spawnFault = none →
      lease.holders = before +
        (List.range setting.workers).countP (fun index => leavesOpen (deedsOf index log))) ∧
    ∀ report, state.report? setting = some (.ok report) →
      lease.holders = before ∧ (lease.isOpen = true ↔ 0 < before) := by
  intro before lease log
  have leasing : state.Leasing setting before log := .of_follow inMemory leased size blank followed
  have coordinated := State.Coordinated.of_reaches (reaches_of_follow followed)
  have holders := leasing.holders_eq
  have worker {index : Nat} (inside : index < setting.workers) :
      ∃ worker, state.workers[index]? = some worker := by
    rw [Setting.workers, ← leasing.recorded.inOrder.size] at inside
    exact ⟨_, List.getElem?_eq_getElem inside⟩
  refine ⟨⟨holders, leasing.leased.opened⟩, ?_, ?_⟩
  · intro returned unhindered
    refine holders.trans (congrArg (before + ·) (List.countP_congr fun index listed => ?_))
    obtain ⟨member, found⟩ := worker (List.mem_range.1 listed)
    have stands := coordinated.all_ended unhindered returned found
    have past := (leasing.recorded.inOrder.fits found).outcome_ne_none stands
    rw [(leasing.recorded.did found).holdsStore_eq past]
  · intro report answered
    have nobody : (List.range setting.workers).countP
        (fun index => holdsStore (deedsOf index log)) = 0 := by
      apply List.countP_eq_zero.2
      intro index listed
      obtain ⟨member, found⟩ := worker (List.mem_range.1 listed)
      have ended := (coordinated.performed answered).2 member (List.mem_of_getElem? found)
      rcases leasing.recorded.ended found ended.1 with ⟨_, whole⟩ | ⟨reason, failed, _⟩
      · simp [whole, holdsStore]
      · obtain ⟨_, result, outcome⟩ := ended
        rw [outcome] at failed
        cases failed
    have same : lease.holders = before := by
      rw [nobody] at holders
      exact holders
    exact ⟨same, by rw [← same]; exact leasing.leased.opened⟩

/-- The opener fails for the first of three workers.  The second one opens the store and closes it,
and the third one opens it again and breaks off: it is the one that is left. -/
theorem holders_after_phase_of_reopened_store :
    let config := { Config.default with
      threads := 3, mix := { Mix.Options.default with operationCount := 3 } }
    let script := { Script.reads [] with upsets := [⟨2, 0, .panicked⟩] }
    let opener : Nat → Except Failure Unit := fun opens =>
      if opens = 0 then .error (.store (.custom "no space")) else .ok ()
    let setting := settingOf config .run false script.workload (MemoryWorld.backendOf opener)
    let world : MemoryWorld := .opening (List.replicate 3 ⟨.single, true, none⟩)
    let start : State Summary Progress MemoryWorld :=
      State.opening setting world (Progress.opening 3) Meter.empty 0
    world.Leased world.shared.lease.holders ∧ world.clients.length = setting.workers ∧
    (∀ client ∈ world.clients, client.opening = none) ∧
    ∃ moves state, follow (State.step setting) moves start = some state ∧
      state.spawnFault = none ∧ state.returned = true ∧
      state.shared.world.shared.lease.opens = 3 ∧ state.shared.world.shared.lease.holders = 1 ∧
      state.shared.world.shared.lease.isOpen = true := by
  intro config script opener setting world start
  let moves : List Move :=
    List.replicate 3 (.spawn none) ++ Move.turns 0 3 ++ Move.turns 1 14 ++ Move.turns 2 6 ++
      List.replicate 3 .join ++ [.stopTime 0, .rouse, .write, .conclude]
  have ran : (follow (State.step setting) moves start).any (fun state =>
      state.spawnFault.isNone && state.returned &&
        state.shared.world.shared.lease.opens == 3) = true := by
    decide +kernel
  obtain ⟨state, followed, facts⟩ := (Option.any_eq_true _ _).1 ran
  simp only [Bool.and_eq_true, Option.isNone_iff_eq_none, beq_iff_eq] at facts
  obtain ⟨⟨unhindered, returned⟩, opens⟩ := facts
  have blank : ∀ client ∈ world.clients, client.opening = none := by decide
  have leased : world.Leased world.shared.lease.holders := .ofOpening blank
  have left : (List.range setting.workers).countP
      (fun index => leavesOpen (deedsOf index (start.deedsAlong setting moves))) = 1 := by
    decide +kernel
  obtain ⟨⟨_, isOpen⟩, after, _⟩ :=
    holders_after_phase setting opener rfl leased rfl blank (Progress.opening 3) Meter.empty 0
      followed
  have holders := after returned unhindered
  rw [left] at holders
  exact ⟨leased, rfl, blank, moves, state, followed, unhindered, returned, opens, holders,
    isOpen.2 (holders ▸ Nat.one_pos)⟩

end StoreBench.Phase
