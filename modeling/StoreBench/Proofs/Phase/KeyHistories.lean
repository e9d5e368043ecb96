import StoreBench.Proofs.Phase.Results
import StoreBench.Proofs.Phase.StoredKeys

/-!
Contract: the keys that a phase of the standard workload leaves in the store.

The workers are given tasks along a schedule, and the inserts among these are for the keys drawn
so far.  A phase that answers a report has lost nothing on its way: all its workers have performed
their operations, so no key is under way any more.

Owns:
- `State.tasksAlong`, the tasks that are given along a schedule;
- `State.Supplied`, the invariant of a phase with the tasks given so far;
- the keys behind a report.

Does not own: which keys stand in line before a phase, and what a report says about the workers.
-/

namespace StoreBench.Phase

open Latency Store
open Mix (Transactions)

variable {α ω σ : Type} [Aggregate α]

namespace State

/-! ## Histories -/

/-- The tasks that a worker is given in a move. -/
def given (setting : Setting ω σ) (move : Move) (state : State α ω σ) : List Mix.Task :=
  match move with
  | .worker index fate =>
    state.workers[index]?.elim [] (Worker.given setting index fate.choices state.shared.work)
  | _ => []

/-- The tasks that the workers are given along a schedule, in order. -/
def tasksAlong (setting : Setting ω σ) : List Move → State α ω σ → List Mix.Task
  | [], _ => []
  | move :: rest, state =>
    state.given setting move ++ (step setting move state).elim [] (tasksAlong setting rest)

theorem tasksAlong_eq (setting : Setting ω σ) (moves : List Move) (state : State α ω σ) :
    state.tasksAlong setting moves = noteAlong (step setting) (given setting) moves state := by
  induction moves generalizing state with
  | nil => rfl
  | cons move rest inductionHypothesis =>
    rw [tasksAlong, noteAlong]
    congr 2
    exact funext inductionHypothesis

end State

/-- The workload and the store before a phase. -/
structure Supply.Ready {setting : Setting Transactions MemoryWorld} (supply : Supply setting)
    (store : OrderedStore setting.workers) (work : Transactions) (world : MemoryWorld) : Prop where
  options : work.options = supply.options
  draws : work.Draws setting.kind supply.order 0
  represents : Represents supply.decodes world store
  held : 0 < store.held
  keys : (store.contents supply.options.table).keys = supply.before

namespace State

variable {setting : Setting Transactions MemoryWorld} {supply : Supply setting}
  {state after : State α Transactions MemoryWorld} {tasks : List Mix.Task} {move : Move}

/-- A worker that has ended well has performed its operations, and as long as nothing has failed,
the keys drawn are for the inserts among the tasks and stand in the store or are on their way. -/
structure Supplied (supply : Supply setting) (tasks : List Mix.Task)
    (state : State α Transactions MemoryWorld) : Prop where
  inOrder : state.InOrder setting
  performed : ∀ {index : Nat} {worker : Worker} {result : UInt64},
    state.workers[index]? = some worker → worker.outcome = some (.ok result) →
    worker.iteration = (setting.operations.getD index 0).toNat
  stocked : state.Unharmed → ∃ drawn stored store, supply.Feeds 0 tasks drawn ∧
    Stocked supply drawn stored store state.workers state.shared.work state.shared.world

omit [Aggregate α] in
theorem InOrder.plans_le (inOrder : state.InOrder setting) :
    total (state.workers.map Worker.plans) ≤ total (setting.operations.map UInt64.toNat) := by
  refine total_map_le_total (by rw [inOrder.size, List.length_map])
    fun {position _} found => ?_
  have share := (inOrder.fits found).plans_le
  rw [← List.getD_map _ _ UInt64.toNat] at share
  exact share

omit [Aggregate α] in
theorem supplied_opening {store : OrderedStore setting.workers} {work : Transactions}
    {world : MemoryWorld} (ready : supply.Ready store work world) (meter : Meter α)
    (now : UInt64) : (opening setting world work meter now).Supplied supply [] := by
  have fresh : ∀ worker ∈ (opening setting world work meter now).workers,
      worker = .fresh setting.hasGate := fun _ member => worker_opening member
  have idle : ((opening setting world work meter now).workers.map Worker.pending).flatten = [] := by
    apply List.flatMap_eq_nil_iff.2
    intro worker member
    rw [fresh worker member]
    rfl
  have blank : total ((opening setting world work meter now).workers.map Worker.plans) = 0 := by
    apply total_map_eq_zero
    intro worker member
    rw [fresh worker member]
    rfl
  refine ⟨inOrder_opening setting world work meter now, ?_, fun _ => ?_⟩
  · intro index worker result found outcome
    rw [fresh worker (List.mem_of_getElem? found)] at outcome
    cases outcome
  · refine ⟨0, [], store, Supply.feeds_nothing rfl, ready.options, ready.draws, Nat.zero_le _,
      fun _ => blank.symm, ?_, ready.represents, ready.held, ?_, ?_⟩
    · intro worker member task later stage serving
      rw [fresh worker member] at serving
      cases serving
    · rw [ready.keys, List.toFinset_nil, Finset.union_empty]
    · rw [idle]
      exact .refl _

/-- Every move keeps the keys together, and the tasks that it gives come on top. -/
theorem Supplied.fires (supplied : state.Supplied supply tasks)
    (fires : state.Fires setting move after) :
    after.Supplied supply (tasks ++ state.given setting move) := by
  have inOrder := supplied.inOrder.fires fires
  have enough := supply.enough
  have plans := inOrder.plans_le
  have before : after.Unharmed → state.Unharmed := supplied.inOrder.unharmed_of_fires fires
  cases fires with
  | @worker index fate worker next shared spawned found advance =>
    have inside := supplied.inOrder.lt_workers found
    refine ⟨inOrder, ?_, fun unharmed => ?_⟩
    · intro other member result got outcome
      rcases of_getElem?_set got with ⟨rfl, rfl⟩ | ⟨_, got⟩
      · exact advance.performed (supplied.inOrder.fits found)
          (fun outcome => supplied.performed found outcome) outcome
      · exact supplied.performed got outcome
    · obtain ⟨drawn, stored, store, feeds, stocked⟩ := supplied.stocked (before unharmed)
      have unfailed : ¬ next.Failed := by
        have placed := List.getElem?_set_self (a := next) (List.getElem?_eq_some_iff.1 found).1
        exact unharmed.2 next (List.mem_of_getElem? placed)
      obtain ⟨later, stored, store, given, kept⟩ :=
        stocked.advance inside found advance unfailed (enough ▸ plans)
      refine ⟨later, stored, store, feeds.append ?_, kept⟩
      rw [State.given, found]
      exact given
  | stoodIn => exact ⟨inOrder, supplied.performed, fun unharmed => nomatch unharmed.1⟩
  | spawned | joined | timeStopped | concluded | roused | wrote =>
    simp only [State.given, List.append_nil]
    exact ⟨inOrder, supplied.performed, fun unharmed => supplied.stocked (before unharmed)⟩

theorem Supplied.of_follow {store : OrderedStore setting.workers} {work : Transactions}
    {world : MemoryWorld} (ready : supply.Ready store work world) {meter : Meter α} {now : UInt64}
    {moves : List Move} (followed : follow (step setting) moves
      (opening setting world work meter now) = some state) :
    state.Supplied supply ((opening setting world work meter now).tasksAlong setting moves) := by
  rw [tasksAlong_eq]
  exact noteAlong_invariant followed (supplied_opening ready meter now)
    fun supplied steps => supplied.fires (fires_of_step steps).2

end State

/-- The keys of the table behind a phase that answers a report: those that were there before and
those that were drawn, which are all there are in a load phase, and for the inserts that the
workers were given. -/
theorem keys_of_report {setting : Setting Transactions MemoryWorld} (supply : Supply setting)
    {store : OrderedStore setting.workers} {work : Transactions} {world : MemoryWorld}
    (ready : supply.Ready store work world) {meter : Meter α} {now : UInt64} {moves : List Move}
    {state : State α Transactions MemoryWorld}
    (followed : follow (State.step setting) moves (State.opening setting world work meter now) =
      some state) {report : Report} (answered : state.report? setting = some (.ok report)) :
    ∃ drawn holders contents, state.shared.work.options = supply.options ∧ 0 < holders ∧
      state.shared.world.shared.Holds holders contents ∧
      (contents supply.options.table).keys =
        supply.before ∪ ((supply.order.take drawn).map Keys.recordKey).toFinset ∧
      (setting.kind = .load → drawn = supply.order.length) ∧
      supply.Feeds 0 ((State.opening setting world work meter now).tasksAlong setting moves)
        drawn := by
  have supplied := State.Supplied.of_follow ready followed
  have coordinated := State.Coordinated.of_reaches (reaches_of_follow followed)
  obtain ⟨unharmed, ended⟩ := coordinated.performed answered
  obtain ⟨drawn, stored, store, feeds, stocked⟩ := supplied.stocked unharmed
  -- nothing is under way, so what is stored is what was drawn
  have idle : (state.workers.map Worker.pending).flatten = [] := by
    apply List.flatMap_eq_nil_iff.2
    intro worker member
    rw [Worker.pending, (ended worker member).1]
  have same := stocked.pending
  rw [idle, List.append_nil] at same
  have plans : state.workers.map Worker.plans = setting.operations.map UInt64.toNat := by
    apply List.ext_getElem
    · rw [List.length_map, List.length_map, supplied.inOrder.size]
    · intro index inWorkers inOperations
      rw [List.length_map] at inWorkers inOperations
      obtain ⟨stands, result, outcome⟩ := ended _ (List.getElem_mem inWorkers)
      have iterations := supplied.performed (List.getElem?_eq_getElem inWorkers) outcome
      rw [List.getElem_map, List.getElem_map, Worker.plans, stands, iterations,
        List.getD_eq_getElem _ _ inOperations]
  refine ⟨drawn, _, _, stocked.options, Nat.add_pos_left stocked.held _, stocked.represents.holds,
    ?_, ?_, feeds⟩
  · rw [stocked.keys, List.toFinset_eq_of_perm _ _ same]
  · intro load
    rw [stocked.all load, plans, supply.enough]

/-! ## Keys of later phases -/

/-- A load phase takes nothing from the keys of the transactions. -/
theorem pool_of_load {setting : Setting Transactions MemoryWorld} (load : setting.kind = .load)
    (standard : setting.workload = Transactions.workload) {work : Transactions}
    {world : MemoryWorld} {meter : Meter α} {now : UInt64}
    {state : State α Transactions MemoryWorld}
    (reaches : Reaches (State.step setting) (State.opening setting world work meter now) state) :
    state.shared.work.insertKeys.pool = work.insertKeys.pool := by
  induction reaches with
  | refl => rfl
  | tail path move steps inductionHypothesis =>
    refine Eq.trans ?_ inductionHypothesis
    cases (State.fires_of_step steps).2 with
    | worker spawned found advance =>
      cases advance with
      | planStopped stands plan | planned stands plan =>
        rw [standard, Setting.stepOf, load] at plan
        exact congrArg (·.2.insertKeys.pool) plan.symm
      | settled stands settles =>
        rw [standard, Transactions.workload_settle_ok rfl] at settles
        cases settles
        exact (Transactions.settle_eq ..).1
      | settlingStopped stands settles =>
        rw [standard, Transactions.workload_settle_ok rfl] at settles
        cases settles
      | overlooked stands settles =>
        rw [standard, Transactions.workload_settle_error rfl] at settles
        cases settles
      | passedOn stands settles =>
        rw [standard, Transactions.workload_settle_error rfl] at settles
        cases settles
        rfl
      | _ => rfl
    | _ => rfl

end StoreBench.Phase
