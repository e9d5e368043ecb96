import StoreBench.Proofs.Latency.Tallies
import StoreBench.Proofs.Mix.CallAnswers
import StoreBench.Proofs.Phase.Deeds

/-!
Contract: how the data calls of a phase of the standard workload are answered, one after the other.

A worker that makes a call has opened its store and not closed it, so its client is initialized.
Between the answer to a call and its filing only the log of answered calls grows, so what excused
the answer still excuses it.

Owns:
- `State.callsAlong`, the calls of a schedule with their outcomes;
- `Engaged`, which ties the workers to the store and to the log;
- `State.Replied`, the invariant of a phase with its log and its meter.

Does not own: the rows that are there before a phase.
-/

namespace StoreBench

open Latency Store
open Mix (CallLog Tended Transactions)

variable {options : Mix.Options} {keys : String → Prop} {log : CallLog}

/-! ## Filed calls -/

/-- Failed calls are filed only for reads and updates, and only behind a delete. -/
def Latency.Meter.Spares {α : Type} [Aggregate α] (table : String) (log : CallLog)
    (meter : Meter α) : Prop :=
  ∀ operation : Operation,
    (operation = .read ∨ operation = .update → ∀ key, (.delete table key, .ok .ok) ∉ log) →
      meter.Silent ⟨operation, true⟩

namespace Latency.Meter.Spares

variable {α : Type} [Aggregate α] {table : String} {meter : Meter α}

theorem append (spares : meter.Spares table log) (later : CallLog) :
    meter.Spares table (log ++ later) := by
  intro operation quiet
  exact spares operation fun fails key deleted =>
    quiet fails key (List.mem_append_left _ deleted)

theorem file (spares : meter.Spares table log) {call : Call} {status : Status}
    (allows : log.Allows table call (.ok status)) (warmup : Bool) (elapsed : UInt64) :
    (Phase.file warmup (call.operation.slot status) elapsed meter).Spares table log := by
  intro operation quiet
  have different : (⟨operation, true⟩ : Slot) ≠ call.operation.slot status := by
    intro same
    cases allows with
    | succeeds => cases same
    | readsNothing deleted =>
      cases same
      exact quiet (.inl rfl) _ deleted
    | updatesNothing deleted =>
      cases same
      exact quiet (.inr rfl) _ deleted
  cases warmup with
  | true => exact (spares operation quiet).recordWarmup different
  | false => exact (spares operation quiet).record different elapsed

end Latency.Meter.Spares

namespace Phase

variable {α ω σ : Type}

/-! ## One worker -/

/-- The status that the call was answered with, once it was. -/
def CallStage.status? : CallStage → Option Status
  | .calling | .underway _ | .failed _ => none
  | .returned _ status | .timed status _ | .filing status _ _ | .settling status => some status

namespace Worker

/-- The worker has opened its store, and its routine goes on. -/
def IsActive (worker : Worker) : Prop := worker.place ≠ .opening ∧ worker.outcome = none

/-- The worker makes a single call, which is admitted, and its answer is one that the log allows. -/
def AsksWell (options : Mix.Options) (keys : String → Prop) (log : CallLog) (worker : Worker) :
    Prop :=
  ∀ task later stage, worker.place = .serving task later stage →
    later = [] ∧ options.Admits keys task.call ∧
      ∀ status, stage.status? = some status → log.Allows options.table task.call (.ok status)

/-- The data call that the worker makes in its next step, with its outcome. -/
def call? (setting : Setting ω σ) (index : Nat) (world : σ) (worker : Worker) :
    Option (Call × Except Failure Status) :=
  match worker.place with
  | .serving task _ (.underway _) =>
    some (task.call, (setting.clients.call index task.call world).1.outcome)
  | _ => none

variable {worker : Worker}

theorem Fits.isActive {warmup operations : Nat} {isOpen : Bool}
    (fits : worker.Fits warmup operations isOpen) {task : Mix.Task} {later : List Mix.Task}
    {stage : CallStage} (stands : worker.place = .serving task later stage) : worker.IsActive :=
  ⟨by simp [stands], fits.routine (by simp [stands])⟩

theorem asksWell_of_ne (idle : ∀ task later stage, worker.place ≠ .serving task later stage) :
    worker.AsksWell options keys log :=
  fun _ _ _ stands => absurd stands (idle _ _ _)

theorem AsksWell.append (asks : worker.AsksWell options keys log) (later : CallLog) :
    worker.AsksWell options keys (log ++ later) := by
  intro task others stage stands
  obtain ⟨single, admits, allows⟩ := asks task others stage stands
  exact ⟨single, admits, fun status known => (allows status known).append later⟩

theorem call?_eq_none {setting : Setting ω σ} {index : Nat} {world : σ}
    (elsewhere : ∀ task later before, worker.place ≠ .serving task later (.underway before)) :
    worker.call? setting index world = none := by
  rw [call?]
  split
  · next stands => exact absurd stands (elsewhere _ _ _)
  · rfl

/-- The call goes on. -/
theorem AsksWell.goTo (asks : worker.AsksWell options keys log) {task : Mix.Task}
    {later : List Mix.Task} {before after : CallStage}
    (stands : worker.place = .serving task later before) (same : after.status? = before.status?) :
    (worker.goTo (.serving task later after)).AsksWell options keys log := by
  intro other others stage serving
  cases serving
  rw [same]
  exact asks _ _ _ stands

end Worker

/-! ## All workers -/

/-- A phase of the standard workload on a store in memory that can hold its values.  What a run
phase reads, updates and deletes are initial records. -/
structure Setting.IsStandard (setting : Setting Transactions MemoryWorld) (options : Mix.Options)
    (keys : String → Prop) : Prop where
  clients : setting.clients = MemoryWorld.backend
  workload : setting.workload = Transactions.workload
  known : setting.kind = .run → keys = options.IsRecord
  short : options.fieldLength.toNat < lengthBound

/-- The active workers are initialized, and ask for what they may ask for; the store has the rows
of the workload. -/
structure Engaged {clients : Nat} (options : Mix.Options) (keys : String → Prop)
    (decodes : Fin clients → Bool) (log : CallLog) (workers : List Worker) (work : Transactions)
    (world : MemoryWorld) (store : OrderedStore clients) : Prop where
  same : work.options = options
  tended : Tended options keys log decodes world store
  initialized : ∀ {index : Nat} {worker : Worker}, workers[index]? = some worker →
    worker.IsActive → ∃ client ∈ store.initialized, client.val = index
  asks : ∀ worker ∈ workers, worker.AsksWell options keys log

namespace Engaged

variable {setting : Setting Transactions MemoryWorld} {decodes : Fin setting.workers → Bool}
  {workers : List Worker} {work after : Transactions} {world later : MemoryWorld}
  {store others : OrderedStore setting.workers} {index : Nat} {worker next : Worker}

theorem step (engaged : Engaged options keys decodes log workers work world store)
    {answered : CallLog} (same : after.options = work.options)
    (tended : Tended options keys (log ++ answered) decodes later others)
    (stay : ∀ client ∈ store.initialized, index ≠ client.val → client ∈ others.initialized)
    (active : next.IsActive → ∃ client ∈ others.initialized, client.val = index)
    (asks : next.AsksWell options keys (log ++ answered)) :
    Engaged options keys decodes (log ++ answered) (workers.set index next) after later others := by
  refine ⟨same.trans engaged.same, tended, ?_, ?_⟩
  · intro other member found goesOn
    rcases of_getElem?_set found with ⟨rfl, rfl⟩ | ⟨different, old⟩
    · exact active goesOn
    · obtain ⟨client, initialized, rfl⟩ := engaged.initialized old goesOn
      exact ⟨client, stay client initialized different, rfl⟩
  · intro member inside
    rcases List.mem_or_eq_of_mem_set inside with old | rfl
    · exact (engaged.asks member old).append answered
    · exact asks

theorem pass (engaged : Engaged options keys decodes log workers work world store)
    (found : workers[index]? = some worker) (same : after.options = work.options)
    (active : next.IsActive → worker.IsActive) (asks : next.AsksWell options keys log) :
    Engaged options keys decodes (log ++ []) (workers.set index next) after world store := by
  rw [← List.append_nil log] at asks
  refine engaged.step same ?_ (fun _ member _ => member)
    (fun goesOn => engaged.initialized found (active goesOn)) asks
  rw [List.append_nil]
  exact engaged.tended

/-- A worker that opens its store, or fails to. -/
theorem opens (engaged : Engaged options keys decodes log workers work world store)
    (client : Fin setting.workers) {result : Except Failure Unit}
    (answer : MemoryWorld.backend.init client world = (result, later))
    (asks : next.AsksWell options keys log) :
    Engaged options keys decodes (log ++ []) (workers.set client next) work later
      (store.answer decodes (.init client)).2 := by
  have tended := engaged.tended.init client
  rw [answer, ← List.append_nil log] at tended
  rw [← List.append_nil log] at asks
  refine engaged.step rfl tended ?_ (fun _ => ⟨client, ?_, rfl⟩) asks
  · intro other member _
    rw [OrderedStore.initialized_init]
    exact Finset.mem_insert_of_mem member
  · rw [OrderedStore.initialized_init]
    exact Finset.mem_insert_self ..

/-- A worker that closes its store, and so is active no more. -/
theorem closes (engaged : Engaged options keys decodes log workers work world store)
    (client : Fin setting.workers) {result : Except Failure Unit}
    (answer : MemoryWorld.backend.cleanup client world = (result, later))
    (rests : ¬ next.IsActive) (asks : next.AsksWell options keys log) :
    Engaged options keys decodes (log ++ []) (workers.set client next) work later
      (store.answer decodes (.cleanup client)).2 := by
  have tended := engaged.tended.cleanup client
  rw [answer, ← List.append_nil log] at tended
  rw [← List.append_nil log] at asks
  refine engaged.step rfl tended ?_ (fun active => absurd active rests) asks
  intro other member different
  rw [OrderedStore.initialized_cleanup]
  exact Finset.mem_erase.2 ⟨fun same => different (congrArg Fin.val same.symm), member⟩

section
variable {warmup : Nat} {isOpen : Bool} {task : Mix.Task} {rest : List Mix.Task}

/-- What the call of a worker is answered, and what it leaves. -/
theorem answers (engaged : Engaged options keys decodes log workers work world store)
    (standard : setting.IsStandard options keys) (found : workers[index]? = some worker)
    (fits : worker.Fits warmup (setting.operations.getD index 0).toNat isOpen) {stage : CallStage}
    (stands : worker.place = .serving task rest stage) :
    ∃ client : Fin setting.workers, client.val = index ∧ client ∈ store.initialized ∧
      let answer := setting.clients.call index task.call world
      log.Allows options.table task.call answer.1.outcome ∧
        Tended options keys (log ++ [(task.call, answer.1.outcome)]) decodes answer.2
          (store.serve (decodes client) task.call).2 := by
  obtain ⟨client, member, rfl⟩ := engaged.initialized found (fits.isActive stands)
  have admits := (engaged.asks worker (List.mem_of_getElem? found) _ _ _ stands).2.1
  rw [standard.clients]
  exact ⟨client, rfl, member, engaged.tended.call standard.short member admits⟩

/-- The call of a worker is answered with a status, and goes into the log. -/
theorem answered (engaged : Engaged options keys decodes log workers work world store)
    (standard : setting.IsStandard options keys) (found : workers[index]? = some worker)
    (fits : worker.Fits warmup (setting.operations.getD index 0).toNat isOpen) {before : UInt64}
    (stands : worker.place = .serving task rest (.underway before)) {reply : Reply}
    (answer : setting.clients.call index task.call world = (reply, later)) :
    ∃ status others, reply.outcome = .ok status ∧
      Engaged options keys decodes (log ++ [(task.call, reply.outcome)])
        (workers.set index
          ((worker.hear reply).goTo (.serving task rest (.returned before status))))
        work later others := by
  obtain ⟨client, rfl, member, allows, tended⟩ := engaged.answers standard found fits stands
  rw [answer] at allows tended
  obtain ⟨status, outcome⟩ := allows.exists_status
  refine ⟨status, _, outcome, engaged.step rfl tended ?_ (fun _ => ⟨client, ?_, rfl⟩) ?_⟩
  · intro other initialized _
    rwa [OrderedStore.serve_initialized]
  · rwa [OrderedStore.serve_initialized]
  · intro other others stage serving
    cases serving
    obtain ⟨single, admits, _⟩ :=
      engaged.asks worker (List.mem_of_getElem? found) task rest _ stands
    refine ⟨single, admits, fun _ known => ?_⟩
    cases known
    rw [outcome] at allows ⊢
    exact allows.append _

end

theorem plans (engaged : Engaged options keys decodes log workers work world store)
    (standard : setting.IsStandard options keys) (index iteration : Nat) (choices : Mix.Choices) :
    work.Plans keys (setting.workload.plan index (setting.stepOf iteration) choices work).1
      (setting.workload.plan index (setting.stepOf iteration) choices work).2 := by
  rw [standard.workload, Setting.stepOf]
  cases kind : setting.kind with
  | load => exact Transactions.plans_planLoad keys choices work
  | run =>
    rw [standard.known kind, ← engaged.same]
    exact Transactions.plans_planTransaction choices work

section
variable [Aggregate α] {fate : Fate} {shared following : Shared α Transactions MemoryWorld}
  {warmup : Nat} {isOpen : Bool}

/-- Every step of a worker leaves the workers engaged, with the call that it makes in the log. -/
theorem advance (engaged : Engaged options keys decodes log workers shared.work shared.world store)
    (standard : setting.IsStandard options keys) (inside : index < setting.workers)
    (found : workers[index]? = some worker)
    (fits : worker.Fits warmup (setting.operations.getD index 0).toNat isOpen)
    (advance : worker.Advance setting index fate shared next following) :
    ∃ others, Engaged options keys decodes
      (log ++ (worker.call? setting index shared.world).toList) (workers.set index next)
      following.work following.world others := by
  have asks := engaged.asks worker (List.mem_of_getElem? found)
  have inMemory := standard.clients
  cases advance with
  | opened stands answer | openingFailed stands answer =>
    rw [inMemory] at answer
    rw [Worker.call?_eq_none (by simp [stands])]
    exact ⟨_, engaged.opens ⟨index, inside⟩ answer
      (Worker.asksWell_of_ne (by simp [Worker.goTo, Worker.stop, Worker.finish]))⟩
  | closed stands answer | closingFailed stands answer =>
    rw [inMemory] at answer
    rw [Worker.call?_eq_none (by simp [stands])]
    exact ⟨_, engaged.closes ⟨index, inside⟩ answer (by simp [Worker.IsActive, Worker.stop,
      Worker.finish]) (Worker.asksWell_of_ne (by simp [Worker.stop, Worker.finish]))⟩
  | planStopped stands plan =>
    rw [Worker.call?_eq_none (by simp [stands])]
    have plans := engaged.plans standard index worker.iteration fate.choices
    rw [plan] at plans
    cases plans
    exact ⟨_, engaged.pass found rfl (by simp [Worker.IsActive, Worker.stop, Worker.finish])
      (Worker.asksWell_of_ne (by simp [Worker.stop, Worker.finish]))⟩
  | planned stands plan =>
    rw [Worker.call?_eq_none (by simp [stands])]
    have plans := engaged.plans standard index worker.iteration fate.choices
    rw [plan] at plans
    cases plans with
    | calls admits same =>
      refine ⟨_, engaged.pass found same (fun active => ⟨by simp [stands], active.2⟩) ?_⟩
      intro task later stage serving
      cases serving
      rw [engaged.same] at admits
      exact ⟨rfl, admits, by simp [CallStage.status?]⟩
  | answered stands answer outcome =>
    obtain ⟨status, others, known, goesOn⟩ := engaged.answered standard found fits stands answer
    cases outcome.symm.trans known
    simp only [Worker.call?, stands, answer]
    exact ⟨others, goesOn⟩
  | callFailed stands answer outcome =>
    obtain ⟨status, _, known, _⟩ := engaged.answered standard found fits stands answer
    cases outcome.symm.trans known
  | @settled task later tasks status work stands settles =>
    rw [Worker.call?_eq_none (by simp [stands])]
    rw [standard.workload, Transactions.workload_settle_ok rfl] at settles
    cases settles
    obtain ⟨rfl, _⟩ := asks _ _ _ stands
    have same := (Transactions.settle_eq task status shared.work).2.2
    exact ⟨_, engaged.pass found same (fun active => ⟨by simp [stands], active.2⟩)
      (Worker.asksWell_of_ne (by simp [Worker.proceed]))⟩
  | settlingStopped stands settles =>
    rw [standard.workload, Transactions.workload_settle_ok rfl] at settles
    cases settles
  | overlooked stands settles =>
    rw [standard.workload, Transactions.workload_settle_error rfl] at settles
    cases settles
  | passedOn stands settles =>
    rw [Worker.call?_eq_none (by simp [stands])]
    rw [standard.workload, Transactions.workload_settle_error rfl] at settles
    cases settles
    exact ⟨_, engaged.pass found rfl (by simp [Worker.IsActive, Worker.stop, Worker.finish])
      (Worker.asksWell_of_ne (by simp [Worker.stop, Worker.finish]))⟩
  | clockRead stands | timed stands | numbered stands | filed stands =>
    rw [Worker.call?_eq_none (by simp [stands])]
    exact ⟨_, engaged.pass found rfl (fun active => ⟨by simp [stands], active.2⟩)
      (asks.goTo stands rfl)⟩
  | reachedGate stands | wentOn stands | performedAll stands | arrived stands | passed stands
  | won stands | lost stands | started stands | throttled stands | gaveUp stands
  | keptNothing stands | leftToExit stands | left stands | exited stands
  | exitedUnharmed stands =>
    rw [Worker.call?_eq_none (by simp [stands])]
    exact ⟨_, engaged.pass found rfl (fun active => ⟨by simp [stands], active.2⟩)
      (Worker.asksWell_of_ne (by simp [Worker.goTo]))⟩

end

/-- The call that a worker makes was admitted, and its outcome is one that the log allows. -/
theorem allows_call? (engaged : Engaged options keys decodes log workers work world store)
    (standard : setting.IsStandard options keys) (found : workers[index]? = some worker)
    {warmup : Nat} {isOpen : Bool}
    (fits : worker.Fits warmup (setting.operations.getD index 0).toNat isOpen) {call : Call}
    {outcome : Except Failure Status}
    (calls : worker.call? setting index world = some (call, outcome)) :
    options.Admits keys call ∧ log.Allows options.table call outcome := by
  rw [Worker.call?] at calls
  split at calls
  · next task later before stands =>
    cases calls
    obtain ⟨_, _, _, allows, _⟩ := engaged.answers standard found fits stands
    exact ⟨(engaged.asks worker (List.mem_of_getElem? found) _ _ _ stands).2.1, allows⟩
  · cases calls

end Engaged

/-- A worker files its call as the log allows. -/
theorem Worker.Advance.spares [Aggregate α] {setting : Setting Transactions MemoryWorld}
    {index : Nat} {fate : Fate} {worker next : Worker}
    {shared following : Shared α Transactions MemoryWorld}
    (advance : worker.Advance setting index fate shared next following)
    (asks : worker.AsksWell options keys log) (spares : shared.meter.Spares options.table log) :
    following.meter.Spares options.table log := by
  cases advance with
  | filed stands => exact spares.file ((asks _ _ _ stands).2.2 _ rfl) _ _
  | _ => exact spares

/-! ## Phases -/

namespace State

/-- The data calls that a move makes, with their outcomes. -/
def calls (setting : Setting ω σ) (move : Move) (state : State α ω σ) : CallLog :=
  match move with
  | .worker index _ =>
    (state.workers[index]?.bind (Worker.call? setting index state.shared.world)).toList
  | _ => []

/-- The data calls of all workers along a schedule, with their outcomes, in order. -/
def callsAlong [Aggregate α] (setting : Setting ω σ) (moves : List Move) (state : State α ω σ) :
    CallLog :=
  noteAlong (step setting) (calls setting) moves state

variable [Aggregate α] {setting : Setting Transactions MemoryWorld}
  {decodes : Fin setting.workers → Bool} {state after : State α Transactions MemoryWorld}
  {move : Move}

/-- The workers are engaged, and all answers and all that is filed are as the log allows. -/
structure Replied (options : Mix.Options) (keys : String → Prop)
    (decodes : Fin setting.workers → Bool) (log : CallLog)
    (state : State α Transactions MemoryWorld) : Prop where
  inOrder : state.InOrder setting
  engaged : ∃ store : OrderedStore setting.workers, Engaged options keys decodes log state.workers
    state.shared.work state.shared.world store
  sound : log.Sound options keys
  spares : state.shared.meter.Spares options.table log

theorem Replied.fires (replied : state.Replied options keys decodes log)
    (standard : setting.IsStandard options keys) (fires : state.Fires setting move after) :
    after.Replied options keys decodes (log ++ state.calls setting move) := by
  have inOrder := replied.inOrder.fires fires
  cases fires with
  | @worker index fate worker next shared spawned found advance =>
    obtain ⟨store, engaged⟩ := replied.engaged
    have fits := replied.inOrder.fits found
    have made : state.calls setting (.worker index fate) =
        (worker.call? setting index state.shared.world).toList := by
      rw [calls, found, Option.bind_some]
    rw [made]
    refine ⟨inOrder, ?_, ?_, ?_⟩
    · exact engaged.advance standard (replied.inOrder.lt_workers found) found fits advance
    · exact replied.sound.append fun _ _ => engaged.allows_call? standard found fits
    · have asks := engaged.asks worker (List.mem_of_getElem? found)
      exact (advance.spares asks replied.spares).append _
  | spawned | stoodIn | joined | timeStopped | concluded | roused | wrote =>
    simp only [calls, List.append_nil]
    exact ⟨inOrder, replied.engaged, replied.sound, replied.spares⟩

theorem replied_opening {work : Transactions} (same : work.options = options)
    {world : MemoryWorld} {store : OrderedStore setting.workers}
    (tended : Tended options keys [] decodes world store) {meter : Meter α}
    (silent : ∀ slot, meter.Silent slot) (now : UInt64) :
    (opening setting world work meter now).Replied options keys decodes [] := by
  have fresh : ∀ worker ∈ (opening setting world work meter now).workers,
      worker = .fresh setting.hasGate := fun _ member => worker_opening member
  refine ⟨inOrder_opening setting world work meter now, ⟨store, same, tended, ?_, ?_⟩, .nil,
    fun _ _ => silent _⟩
  · intro index worker found active
    rw [fresh worker (List.mem_of_getElem? found)] at active
    exact absurd rfl active.1
  · intro worker member
    rw [fresh worker member]
    exact Worker.asksWell_of_ne (by simp [Worker.fresh])

theorem Replied.of_follow (standard : setting.IsStandard options keys) {work : Transactions}
    (same : work.options = options) {world : MemoryWorld} {store : OrderedStore setting.workers}
    (tended : Tended options keys [] decodes world store) {meter : Meter α}
    (silent : ∀ slot, meter.Silent slot) {now : UInt64} {moves : List Move}
    (followed : follow (step setting) moves (opening setting world work meter now) = some state) :
    state.Replied options keys decodes
      ((opening setting world work meter now).callsAlong setting moves) :=
  noteAlong_invariant followed (replied_opening same tended silent now)
    fun replied steps => replied.fires standard (fires_of_step steps).2

end State

end Phase

end StoreBench
