import StoreBench.Proofs.Mix.KeyDraws
import StoreBench.Proofs.Mix.SingleCalls
import StoreBench.Proofs.Phase.Positions

/-!
Contract: the keys that a phase of the standard workload stores, step by step.

A key that is drawn is on its way with one worker until the insert that it was drawn for is
answered; then it is stored.  As long as nothing has failed, the keys that are stored and those
that are on their way are the ones drawn so far, each once.  A worker draws at most one key in
each iteration, and there are as many keys as iterations, so no draw comes too late.

Owns:
- `Worker.plans` and `Worker.pending`, the steps that a worker has begun and the key that it has
  under way;
- `Supply`, the keys that stand in line for a phase, and the inserts that they are for;
- `Stocked`, which ties the keys of the store to those drawn, and that every step keeps it.

Does not own: runs of a phase, and what is in the store before it.
-/

namespace StoreBench.Phase

open Latency Store
open Mix (Transactions)

variable {α : Type}

/-! ## One worker -/

/-- The key under which a call stores a row. -/
def added : Call → List String
  | .insert _ key _ => [key]
  | _ => []

theorem added_of_keepsKeys {call : Call} (keeps : call.KeepsKeys) : added call = [] := by
  cases call with
  | insert table key row => cases keeps
  | _ => rfl

namespace Worker

/-- The number of steps that the worker has asked the workload for. -/
def plans (worker : Worker) : Nat :=
  match worker.place with
  | .serving .. => worker.iteration + 1
  | _ => worker.iteration

/-- The key that the worker is about to store a row under, or has just failed to. -/
def pending (worker : Worker) : List String :=
  match worker.place with
  | .serving task _ .calling | .serving task _ (.underway _) | .serving task _ (.failed _) =>
    added task.call
  | _ => []

/-- The tasks that the worker is given in its next step. -/
def given {ω σ : Type} (setting : Setting ω σ) (index : Nat) (choices : Mix.Choices) (work : ω)
    (worker : Worker) : List Mix.Task :=
  match worker.place with
  | .planning =>
    match (setting.workload.plan index (setting.stepOf worker.iteration) choices work).1 with
    | .tasks tasks => tasks
    | .stop _ => []
  | _ => []

/-- The worker makes a single call, which stores a row in the table or leaves the keys alone. -/
def MakesOne (table : String) (worker : Worker) : Prop :=
  ∀ {task later stage}, worker.place = .serving task later stage →
    later = [] ∧ (task.call.KeepsKeys ∨ ∃ key row, task.call = .insert table key row)

variable {worker : Worker} {warmup operations : Nat} {isOpen : Bool}

theorem makesOne_of_ne (table : String)
    (idle : ∀ task later stage, worker.place ≠ .serving task later stage) :
    worker.MakesOne table :=
  fun stands => absurd stands (idle _ _ _)

theorem Fits.plans_le (fits : worker.Fits warmup operations isOpen) :
    worker.plans ≤ operations := by
  unfold Fits at fits
  unfold plans
  cases stands : worker.place <;> simp only [stands, Ahead, Beyond] at fits ⊢ <;> grind

theorem given_eq_nil {ω σ : Type} (setting : Setting ω σ) (index : Nat) (choices : Mix.Choices)
    (work : ω) (elsewhere : worker.place ≠ .planning) :
    worker.given setting index choices work = [] := by
  rw [given]
  split
  · next planning => exact absurd planning elsewhere
  · rfl

section
variable [Aggregate α] {setting : Setting Transactions MemoryWorld} {index : Nat} {fate : Fate}
  {next : Worker} {shared after : Shared α Transactions MemoryWorld}

/-- A worker whose routine ends well has performed all its operations. -/
theorem Advance.performed (advance : worker.Advance setting index fate shared next after)
    (fits : worker.Fits warmup (setting.operations.getD index 0).toNat isOpen)
    (performed : ∀ {result}, worker.outcome = some (.ok result) →
      worker.iteration = (setting.operations.getD index 0).toNat) {result : UInt64}
    (outcome : next.outcome = some (.ok result)) :
    next.iteration = (setting.operations.getD index 0).toNat := by
  unfold Fits at fits
  cases advance with
  | openingFailed | planStopped | settlingStopped | passedOn | closingFailed => cases outcome
  | @planned tasks work stands | @settled _ _ tasks _ _ stands | @overlooked _ _ tasks _ _ stands =>
    rw [stands] at fits
    cases tasks <;> simp only [proceed, goTo, fits.1] at outcome <;> cases outcome
  | closed stands =>
    rw [stands] at fits
    exact fits.2.1
  | _ => exact performed outcome

end

end Worker

/-! ## All workers -/

/-- What is fixed of the keys of a phase of the standard workload. -/
structure Supply (setting : Setting Transactions MemoryWorld) where
  options : Mix.Options
  /-- The keys in the order in which they are drawn. -/
  order : List UInt64
  /-- Which clients decode what they read. -/
  decodes : Fin setting.workers → Bool
  /-- The keys that the table has at first. -/
  before : Finset String
  workload : setting.workload = Transactions.workload
  clients : setting.clients = MemoryWorld.backend
  noDeletes : setting.kind = .run → (options.deleteProportion == 0.0) = true
  enough : order.length = total (setting.operations.map UInt64.toNat)
  small : order.length < UInt64.size

/-- The inserts among the tasks are for the keys behind the first `drawn`, up to the first `later`,
one for one. -/
def Supply.Feeds {setting : Setting Transactions MemoryWorld} (supply : Supply setting)
    (drawn : Nat) (tasks : List Mix.Task) (later : Nat) : Prop :=
  ∃ keys, supply.order.take later = supply.order.take drawn ++ keys ∧
    List.Forall₂ (Transactions.Inserts setting.kind supply.options.table) keys (Mix.inserts tasks)

namespace Supply

variable {setting : Setting Transactions MemoryWorld} {supply : Supply setting}
  {drawn middle later : Nat} {tasks others : List Mix.Task}

theorem feeds_nothing (none : Mix.inserts tasks = []) : supply.Feeds drawn tasks drawn := by
  refine ⟨[], (List.append_nil _).symm, ?_⟩
  rw [none]
  exact .nil

theorem Feeds.append (first : supply.Feeds drawn tasks middle)
    (second : supply.Feeds middle others later) : supply.Feeds drawn (tasks ++ others) later := by
  obtain ⟨early, upToMiddle, earlyInserts⟩ := first
  obtain ⟨late, upToLater, lateInserts⟩ := second
  refine ⟨early ++ late, by rw [upToLater, upToMiddle, List.append_assoc], ?_⟩
  rw [Mix.inserts_append]
  exact List.rel_append earlyInserts lateInserts

theorem feeds_insert {key : UInt64} (next : supply.order[drawn]? = some key) (row : Row) :
    supply.Feeds drawn
      [⟨.insert supply.options.table (Keys.recordKey key) row,
        Transactions.noted setting.kind key⟩] (drawn + 1) := by
  refine ⟨[key], ?_, .cons ⟨row, rfl⟩ .nil⟩
  rw [List.take_add_one, next]
  rfl

end Supply

/-- The keys of the table and those of the workers, beside the keys that were drawn; `stored` are
those that were stored during the phase. -/
structure Stocked {setting : Setting Transactions MemoryWorld} (supply : Supply setting)
    (drawn : Nat) (stored : List String) (store : OrderedStore setting.workers)
    (workers : List Worker) (work : Transactions) (world : MemoryWorld) : Prop where
  options : work.options = supply.options
  draws : work.Draws setting.kind supply.order drawn
  few : drawn ≤ total (workers.map Worker.plans)
  all : setting.kind = .load → drawn = total (workers.map Worker.plans)
  makesOne : ∀ worker ∈ workers, worker.MakesOne supply.options.table
  represents : Represents supply.decodes world store
  held : 0 < store.held
  keys : (store.contents supply.options.table).keys = supply.before ∪ stored.toFinset
  pending : (stored ++ (workers.map Worker.pending).flatten).Perm
    ((supply.order.take drawn).map Keys.recordKey)

namespace Stocked

variable {setting : Setting Transactions MemoryWorld} {supply : Supply setting} {drawn : Nat}
  {stored : List String} {store others : OrderedStore setting.workers} {workers : List Worker}
  {work after : Transactions} {world later : MemoryWorld} {index : Nat} {worker next : Worker}

theorem makesOne_set (stocked : Stocked supply drawn stored store workers work world)
    (makesOne : next.MakesOne supply.options.table) :
    ∀ worker ∈ workers.set index next, worker.MakesOne supply.options.table := by
  intro other member
  rcases List.mem_or_eq_of_mem_set member with old | rfl
  · exact stocked.makesOne other old
  · exact makesOne

/-- A step that neither draws a key nor stores one. -/
theorem quiet (stocked : Stocked supply drawn stored store workers work world)
    (found : workers[index]? = some worker) (plans : worker.plans ≤ next.plans)
    (loads : setting.kind = .load → next.plans = worker.plans)
    (pending : next.pending = worker.pending) (makesOne : next.MakesOne supply.options.table)
    (draws : after.Draws setting.kind supply.order drawn) (same : after.options = supply.options)
    (follows : Represents.Follows supply.decodes store later others)
    (keys : (others.contents supply.options.table).keys =
      (store.contents supply.options.table).keys) :
    Stocked supply drawn stored others (workers.set index next) after later := by
  have sum := total_map_set Worker.plans found next
  have few := stocked.few
  refine ⟨same, draws, ?_, ?_, stocked.makesOne_set makesOne, follows.1, ?_, ?_, ?_⟩
  · omega
  · intro load
    have all := stocked.all load
    have equal := loads load
    omega
  · rw [follows.2]
    exact stocked.held
  · rw [keys, stocked.keys]
  · rw [map_set_of_eq found pending]
    exact stocked.pending

/-- A worker draws a key for an insert. -/
theorem draw (stocked : Stocked supply drawn stored store workers work world)
    (found : workers[index]? = some worker) (plans : next.plans = worker.plans + 1)
    {key : UInt64} (nextKey : supply.order[drawn]? = some key) (idle : worker.pending = [])
    (pending : next.pending = [Keys.recordKey key]) (makesOne : next.MakesOne supply.options.table)
    (draws : after.Draws setting.kind supply.order (drawn + 1))
    (same : after.options = supply.options) :
    Stocked supply (drawn + 1) stored store (workers.set index next) after world := by
  have sum := total_map_set Worker.plans found next
  have few := stocked.few
  have under := flatten_map_set Worker.pending found next
  rw [idle, pending, List.append_nil] at under
  refine ⟨same, draws, ?_, ?_, stocked.makesOne_set makesOne, stocked.represents, stocked.held,
    stocked.keys, ?_⟩
  · omega
  · intro load
    have all := stocked.all load
    omega
  · rw [List.take_add_one, nextKey, List.map_append]
    refine (under.append_left stored).trans ?_
    rw [← List.append_assoc]
    exact stocked.pending.append_right _

/-- The insert of a worker is answered, and its key is stored. -/
theorem store_key (stocked : Stocked supply drawn stored store workers work world)
    (found : workers[index]? = some worker) (plans : next.plans = worker.plans) {key : String}
    (due : worker.pending = [key])
    (pending : next.pending = []) (makesOne : next.MakesOne supply.options.table)
    (follows : Represents.Follows supply.decodes store later others)
    (keys : (others.contents supply.options.table).keys =
      insert key (store.contents supply.options.table).keys) :
    Stocked supply drawn (stored ++ [key]) others
      (workers.set index next) work later := by
  have sum := total_map_set Worker.plans found next
  have few := stocked.few
  have under := flatten_map_set Worker.pending found next
  rw [due, pending, List.append_nil] at under
  refine ⟨stocked.options, stocked.draws, ?_, ?_, stocked.makesOne_set makesOne, follows.1, ?_,
    ?_, ?_⟩
  · omega
  · intro load
    have all := stocked.all load
    omega
  · rw [follows.2]
    exact stocked.held
  · rw [keys, stocked.keys]
    ext other
    simp only [Finset.mem_insert, Finset.mem_union, List.mem_toFinset, List.mem_append,
      List.mem_singleton]
    tauto
  · rw [List.append_assoc]
    refine (List.Perm.append_left stored ?_).trans stocked.pending
    exact List.perm_append_comm.trans under

theorem untouched (stocked : Stocked supply drawn stored store workers work world)
    (found : workers[index]? = some worker) (plans : next.plans = worker.plans)
    (pending : next.pending = worker.pending) (makesOne : next.MakesOne supply.options.table)
    (follows : Represents.Follows supply.decodes store later others)
    (kept : others.contents = store.contents) :
    Stocked supply drawn stored others (workers.set index next) work later :=
  stocked.quiet found (Nat.le_of_eq plans.symm) (fun _ => plans) pending makesOne stocked.draws
    stocked.options follows (by rw [kept])

/-- A step that does nothing about keys. -/
theorem pass (stocked : Stocked supply drawn stored store workers work world)
    (found : workers[index]? = some worker) (plans : next.plans = worker.plans)
    (pending : next.pending = worker.pending) (makesOne : next.MakesOne supply.options.table) :
    Stocked supply drawn stored store (workers.set index next) work world :=
  stocked.untouched found plans pending makesOne ⟨stocked.represents, rfl⟩ rfl

theorem asks (stocked : Stocked supply drawn stored store workers work world)
    (left : drawn < supply.order.length) (index iteration : Nat) (choices : Mix.Choices) :
    Transactions.Asks setting.kind supply.order drawn work
      (setting.workload.plan index (setting.stepOf iteration) choices work).1
      (setting.workload.plan index (setting.stepOf iteration) choices work).2 := by
  have draws := stocked.draws
  have noDeletes := supply.noDeletes
  rw [← stocked.options] at noDeletes
  rw [supply.workload, Setting.stepOf]
  cases kind : setting.kind with
  | load =>
    rw [kind] at draws
    exact Transactions.asks_planLoad draws left supply.small choices
  | run =>
    rw [kind] at draws
    exact Transactions.asks_planTransaction draws left supply.small (noDeletes kind) choices

/-- A worker asks for its next step: it draws a key, or makes a call that leaves the keys alone. -/
theorem planned (stocked : Stocked supply drawn stored store workers work world)
    (found : workers[index]? = some worker) (stands : worker.place = .planning)
    {choices : Mix.Choices} {tasks : List Mix.Task}
    (plan : setting.workload.plan index (setting.stepOf worker.iteration) choices work =
      (.tasks tasks, after))
    (bounded : total ((workers.set index (worker.proceed tasks)).map Worker.plans) ≤
      supply.order.length) :
    ∃ later, supply.Feeds drawn tasks later ∧
      Stocked supply later stored store (workers.set index (worker.proceed tasks)) after world := by
  obtain ⟨task, rfl⟩ : ∃ task, tasks = [task] := by
    rw [supply.workload] at plan
    exact Transactions.workload_oneCall.eq_singleton plan
  have plans : (worker.proceed [task]).plans = worker.plans + 1 := by
    simp [Worker.plans, Worker.proceed, Worker.goTo, stands]
  have idle : worker.pending = [] := by simp [Worker.pending, stands]
  have under : (worker.proceed [task]).pending = added task.call := rfl
  have left : drawn < supply.order.length := by
    have sum := total_map_set Worker.plans found (worker.proceed [task])
    have few := stocked.few
    omega
  have asks := stocked.asks left index worker.iteration choices
  rw [plan] at asks
  cases asks with
  | insert next draws options =>
    refine ⟨drawn + 1, ?_, stocked.draw found plans next idle under ?_ draws
      (options.trans stocked.options)⟩
    · rw [stocked.options]
      exact Supply.feeds_insert next _
    · intro task later stage serving
      cases serving
      rw [stocked.options]
      exact ⟨rfl, .inr ⟨_, _, rfl⟩⟩
  | other running keeps =>
    refine ⟨drawn, Supply.feeds_nothing (Mix.inserts_of_keepsKeys keeps), stocked.quiet found
      (by omega) ?_ ?_ ?_ stocked.draws stocked.options ⟨stocked.represents, rfl⟩ rfl⟩
    · intro load
      rw [running] at load
      cases load
    · rw [under, idle, added_of_keepsKeys keeps]
    · intro task later stage serving
      cases serving
      exact ⟨rfl, .inl keeps⟩

section
variable {task : Mix.Task} {rest : List Mix.Task} {before : UInt64} {reply : Reply}

/-- A worker that hears of its call is still in the step that the call belongs to. -/
theorem plans_hear (reply : Reply)
    (stands : worker.place = .serving task rest (.underway before))
    (stage : CallStage) :
    ((worker.hear reply).goTo (.serving task rest stage)).plans = worker.plans := by
  simp [Worker.plans, Worker.goTo, Worker.hear, stands]

theorem makesOne_hear (stocked : Stocked supply drawn stored store workers work world)
    (reply : Reply) (found : workers[index]? = some worker)
    (stands : worker.place = .serving task rest (.underway before)) (stage : CallStage) :
    ((worker.hear reply).goTo (.serving task rest stage)).MakesOne supply.options.table := by
  intro other later stage serving
  cases serving
  exact stocked.makesOne worker (List.mem_of_getElem? found) stands

/-- The call of a worker is answered with a status. -/
theorem answered (stocked : Stocked supply drawn stored store workers work world)
    (inside : index < setting.workers) (found : workers[index]? = some worker)
    (stands : worker.place = .serving task rest (.underway before))
    (answer : setting.clients.call index task.call world = (reply, later)) {status : Status}
    (outcome : reply.outcome = .ok status) :
    ∃ stored store, Stocked supply drawn stored store
      (workers.set index ((worker.hear reply).goTo (.serving task rest (.returned before status))))
      work later := by
  have plans := plans_hear reply stands (.returned before status)
  have under : worker.pending = added task.call := by simp [Worker.pending, stands]
  have goesOn : ((worker.hear reply).goTo (.serving task rest (.returned before status))).MakesOne
      supply.options.table := stocked.makesOne_hear reply found stands _
  rw [supply.clients] at answer
  have succeeds : (MemoryWorld.backend.call index task.call world).1.outcome = .ok status := by
    rw [answer]
    exact outcome
  obtain ⟨others, follows, kept, added⟩ :=
    stocked.represents.call_follows inside task.call succeeds
  rw [answer] at follows
  obtain ⟨_, keeps | ⟨key, row, insert⟩⟩ :=
    stocked.makesOne worker (List.mem_of_getElem? found) stands
  · rw [added_of_keepsKeys keeps] at under
    exact ⟨stored, others, stocked.quiet found (Nat.le_of_eq plans.symm) (fun _ => plans)
      under.symm goesOn stocked.draws stocked.options follows (kept keeps _)⟩
  · have keys := added insert supply.options.table
    rw [if_pos rfl] at keys
    rw [insert] at under
    exact ⟨stored ++ [key], others, stocked.store_key found plans under rfl goesOn follows keys⟩

/-- The call of a worker fails, and its key is not stored. -/
theorem failed (stocked : Stocked supply drawn stored store workers work world)
    (inside : index < setting.workers) (found : workers[index]? = some worker)
    (stands : worker.place = .serving task rest (.underway before))
    (answer : setting.clients.call index task.call world = (reply, later)) {fault : Failure}
    (outcome : reply.outcome = .error fault) :
    ∃ store, Stocked supply drawn stored store
      (workers.set index ((worker.hear reply).goTo (.serving task rest (.failed fault)))) work
      later := by
  have plans := plans_hear reply stands (.failed fault)
  have pending : ((worker.hear reply).goTo (.serving task rest (.failed fault))).pending =
      worker.pending := by
    simp [Worker.pending, Worker.goTo, stands]
  rw [supply.clients] at answer
  have fails : (MemoryWorld.backend.call index task.call world).1.outcome = .error fault := by
    rw [answer]
    exact outcome
  obtain ⟨others, follows, kept⟩ := stocked.represents.call_fails inside task.call fails
  rw [answer] at follows
  exact ⟨others, stocked.quiet found (Nat.le_of_eq plans.symm) (fun _ => plans) pending
    (stocked.makesOne_hear reply found stands _) stocked.draws stocked.options follows (kept _)⟩

end

/-- The workload takes note of a status. -/
theorem settled (stocked : Stocked supply drawn stored store workers work world)
    (found : workers[index]? = some worker) {task : Mix.Task} {rest tasks : List Mix.Task}
    {status : Status} (stands : worker.place = .serving task rest (.settling status))
    (settles : setting.workload.settle index task rest (worker.results.reply (.ok status)) work =
      (.tasks tasks, after)) :
    Stocked supply drawn stored store (workers.set index (worker.proceed tasks)) after world := by
  rw [supply.workload, Transactions.workload_settle_ok rfl] at settles
  cases settles
  obtain ⟨rfl, _⟩ := stocked.makesOne worker (List.mem_of_getElem? found) stands
  have plans : (worker.proceed []).plans = worker.plans := by
    simp [Worker.plans, Worker.proceed, stands]
  obtain ⟨draws, options⟩ := Transactions.draws_settle stocked.draws task status
  have pending : (worker.proceed []).pending = worker.pending := by
    simp [Worker.pending, Worker.proceed, stands]
  have makesOne : (worker.proceed []).MakesOne supply.options.table :=
    Worker.makesOne_of_ne _ (by simp [Worker.proceed])
  exact stocked.quiet found (Nat.le_of_eq plans.symm) (fun _ => plans) pending makesOne draws
    (options.trans stocked.options) ⟨stocked.represents, rfl⟩ rfl

section
variable [Aggregate α] {fate : Fate} {shared following : Shared α Transactions MemoryWorld}

/-- A worker that does not ask for its next step draws no key. -/
theorem elsewhere (stocked : Stocked supply drawn stored store workers shared.work shared.world)
    (inside : index < setting.workers) (found : workers[index]? = some worker)
    (advance : worker.Advance setting index fate shared next following)
    (unharmed : ¬ next.Failed) (elsewhere : worker.place ≠ .planning) :
    ∃ stored store, Stocked supply drawn stored store (workers.set index next) following.work
      following.world := by
  cases advance with
  | openingFailed | planStopped | settlingStopped | passedOn | closingFailed =>
    exact absurd ⟨_, rfl⟩ unharmed
  | planned stands => exact absurd stands elsewhere
  | answered stands answer outcome => exact stocked.answered inside found stands answer outcome
  | callFailed stands answer outcome =>
    exact ⟨stored, stocked.failed inside found stands answer outcome⟩
  | settled stands settles => exact ⟨stored, store, stocked.settled found stands settles⟩
  | overlooked stands settles =>
    rw [supply.workload, Transactions.workload_settle_error rfl] at settles
    cases settles
  | opened stands answer =>
    rw [supply.clients] at answer
    obtain ⟨others, follows, kept⟩ := stocked.represents.init_follows inside
    rw [answer] at follows
    refine ⟨stored, others, stocked.untouched found ?_ ?_ ?_ follows kept⟩
    · simp [Worker.plans, Worker.goTo, stands]
    · simp [Worker.pending, Worker.goTo, stands]
    · exact Worker.makesOne_of_ne _ (by simp [Worker.goTo])
  | closed stands answer =>
    rw [supply.clients] at answer
    obtain ⟨others, follows, kept⟩ := stocked.represents.cleanup_follows inside stocked.held
    rw [answer] at follows
    refine ⟨stored, others, stocked.untouched found ?_ ?_ ?_ follows kept⟩
    · simp [Worker.plans, Worker.finish, stands]
    · simp [Worker.pending, Worker.finish, stands]
    · exact Worker.makesOne_of_ne _ (by simp [Worker.finish])
  | clockRead stands | timed stands | numbered stands | filed stands =>
    refine ⟨stored, store, stocked.pass found ?_ ?_ ?_⟩
    · simp [Worker.plans, Worker.goTo, stands]
    · simp [Worker.pending, Worker.goTo, stands]
    · intro task later stage serving
      cases serving
      exact stocked.makesOne worker (List.mem_of_getElem? found) stands
  | reachedGate stands | wentOn stands | performedAll stands | arrived stands | passed stands
  | won stands | lost stands | started stands | throttled stands | gaveUp stands
  | keptNothing stands | leftToExit stands | left stands | exited stands
  | exitedUnharmed stands =>
    refine ⟨stored, store, stocked.pass found ?_ ?_ ?_⟩
    · simp [Worker.plans, Worker.goTo, stands]
    · simp [Worker.pending, Worker.goTo, stands]
    · exact Worker.makesOne_of_ne _ (by simp [Worker.goTo])

/-- Every step of a worker that does not fail keeps the keys of the store and those drawn
together, and the keys that it draws are for the inserts that it is given. -/
theorem advance (stocked : Stocked supply drawn stored store workers shared.work shared.world)
    (inside : index < setting.workers) (found : workers[index]? = some worker)
    (advance : worker.Advance setting index fate shared next following)
    (unharmed : ¬ next.Failed)
    (bounded : total ((workers.set index next).map Worker.plans) ≤ supply.order.length) :
    ∃ later stored store,
      supply.Feeds drawn (worker.given setting index fate.choices shared.work) later ∧
        Stocked supply later stored store (workers.set index next) following.work
          following.world := by
  by_cases planning : worker.place = .planning
  · cases advance with
    | planStopped => exact absurd ⟨_, rfl⟩ unharmed
    | planned stands plan =>
      obtain ⟨later, feeds, kept⟩ := stocked.planned found stands plan bounded
      refine ⟨later, stored, store, ?_, kept⟩
      simp only [Worker.given, planning, plan]
      exact feeds
    | _ stands => exact Place.noConfusion (stands.symm.trans planning)
  · obtain ⟨stored, store, kept⟩ := stocked.elsewhere inside found advance unharmed planning
    refine ⟨drawn, stored, store, Supply.feeds_nothing ?_, kept⟩
    rw [Worker.given_eq_nil _ _ _ _ planning]
    rfl

end

end Stocked

end StoreBench.Phase
