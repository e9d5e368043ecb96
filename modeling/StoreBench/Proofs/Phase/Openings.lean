import StoreBench.Mix.Transactions
import StoreBench.Proofs.Outcome
import StoreBench.Proofs.Phase.Positions
import StoreBench.Proofs.Store.Lifecycle

/-!
Contract: which stores the workers of a phase work on, if nobody else holds one.

A worker holds the store from its opening to its closing.  All that hold it hold the same one,
but a worker that closes before another opens may be the last holder, and then the other gets
an empty store.  A warm-up rules this out: nobody passes the gate before all have opened.

Owns:
- `Worker.UsesStore`, the workers that hold the store;
- `State.Housed`, the invariant that ties the clients to the workers;
- the openings of a phase, with a warm-up and without.

Does not own: phases within a session, whose store an outsider holds.
-/

namespace StoreBench.Store.MemoryWorld

variable {index : Nat} {world : MemoryWorld}

/-- Client number `index` has become a holder of the store, which was open or is opened for it. -/
structure Joined (index : Nat) (before after : MemoryWorld) : Prop where
  leased : after.Leased 0
  size : after.clients.length = before.clients.length
  initialized : ∀ other,
    (after.openingOf other).isSome ↔ other = index ∨ (before.openingOf other).isSome
  opens : before.shared.lease.handle.isSome ∧
      after.shared.lease.handle = before.shared.lease.handle ∧
      after.shared.lease.opens = before.shared.lease.opens ∨
    before.shared.lease.handle = none ∧
      after.shared.lease.handle = some before.shared.lease.opens ∧
      after.shared.lease.opens = before.shared.lease.opens + 1

/-- Client number `index` has let go of the store, which stays open or is closed. -/
structure Parted (index : Nat) (before after : MemoryWorld) : Prop where
  leased : after.Leased 0
  size : after.clients.length = before.clients.length
  initialized : ∀ other,
    (after.openingOf other).isSome ↔ other ≠ index ∧ (before.openingOf other).isSome
  opens : after.shared.lease.opens = before.shared.lease.opens
  closes : after.shared.lease.handle = before.shared.lease.handle ∨
    after.shared.lease.handle = none

theorem Leased.joined (leased : world.Leased 0) (inside : index < world.clients.length)
    (blank : world.openingOf index = none) :
    ∃ after, backend.init index world = (.ok (), after) ∧ Joined index world after := by
  obtain ⟨kept, size⟩ := leased.init inside alwaysOpens
  have form (opening : Nat) (shared : SharedMemory)
      (acquired : world.shared.acquire alwaysOpens = (.ok opening, shared)) :
      world.init alwaysOpens index =
        (.ok (), MemoryWorld.setOpening { world with shared } index (some opening)) := by
    rw [MemoryWorld.init, blank, acquired]
  rcases world.shared.acquire_cases alwaysOpens with
    ⟨opening, handle, acquired⟩ | ⟨fault, _, failed, _⟩ | ⟨handle, _, acquired⟩
  · have done := form _ _ acquired
    rw [done] at kept size
    have isOpen : world.shared.lease.handle.isSome := by
      rw [handle]
      rfl
    exact ⟨_, done, kept, size, isSome_openingOf_init inside done, .inl ⟨isOpen, rfl, rfl⟩⟩
  · cases failed
  · have done := form _ _ acquired
    rw [done] at kept size
    exact ⟨_, done, kept, size, isSome_openingOf_init inside done, .inr ⟨handle, rfl, rfl⟩⟩

theorem Leased.parted (leased : world.Leased 0) (initialized : (world.openingOf index).isSome) :
    ∃ after, backend.cleanup index world = (.ok (), after) ∧ Parted index world after := by
  obtain ⟨opening, holds⟩ := Option.isSome_iff_exists.1 initialized
  obtain ⟨after, done, kept, size⟩ := leased.cleanup_of_initialized holds
  obtain ⟨opens, closes⟩ := world.shared.lease.release_keeps
  have form : after =
      MemoryWorld.setOpening { world with shared := world.shared.release.2 } index none := by
    rw [MemoryWorld.cleanup, holds] at done
    exact (congrArg Prod.snd done).symm
  exact ⟨after, done, kept, size, isSome_openingOf_cleanup done, by rw [form]; exact opens,
    by rw [form]; exact closes⟩

end StoreBench.Store.MemoryWorld

namespace StoreBench.Phase

open Latency Store

variable {α ω : Type}

/-! ## One worker -/

namespace Worker

/-- The worker has opened its store and not closed it; one that was stopped never closes it. -/
def UsesStore (worker : Worker) : Prop :=
  worker.place ≠ .opening ∧ ∀ operations, worker.outcome ≠ some (.ok operations)

/-- Whether the worker has opened its store, as a number. -/
def begun (worker : Worker) : Nat := if worker.place = .opening then 0 else 1

variable {worker : Worker} {warmup operations : Nat} {isOpen : Bool}

/-- While the gate is closed nobody has closed its store. -/
theorem Fits.usesStore (fits : worker.Fits warmup operations isOpen) (isClosed : isOpen ≠ true)
    (opened : worker.place ≠ .opening) : worker.UsesStore := by
  refine ⟨opened, fun operations performed => ?_⟩
  unfold Fits at fits
  cases stands : worker.place <;> simp only [stands, Failed, Beyond, performed] at fits opened <;>
    grind

/-- What a step of worker number `index` does to a store in memory. -/
inductive StoreStep (index : Nat) (worker next : Worker) (before after : MemoryWorld) : Prop
  | opens (stands : worker.place = .opening) (unused : ¬ worker.UsesStore)
      (begins : next.place ≠ .opening) (uses : next.UsesStore)
      (joined : MemoryWorld.Joined index before after)
  | closes (stands : worker.place = .closing) (stays : next.place ≠ .opening)
      (unused : ¬ next.UsesStore) (parted : MemoryWorld.Parted index before after)
  | passes (opened : worker.place ≠ .opening) (stays : next.place ≠ .opening)
      (same : next.UsesStore ↔ worker.UsesStore)
      (lease : after.shared.lease = before.shared.lease) (clients : after.clients = before.clients)

section
variable [Aggregate α] {setting : Setting ω MemoryWorld} {index : Nat} {fate : Fate}
  {next : Worker} {shared after : Shared α ω MemoryWorld}

theorem usesStore_proceed (tasks : List Mix.Task) (opened : worker.place ≠ .opening) :
    (worker.proceed tasks).place ≠ .opening ∧
      ((worker.proceed tasks).UsesStore ↔ worker.UsesStore) := by
  cases tasks <;> simp [proceed, goTo, UsesStore, opened]

/-- A worker opens its store, closes it, or leaves the lease and the clients alone. -/
theorem Advance.storeStep (advance : worker.Advance setting index fate shared next after)
    (inMemory : setting.clients = MemoryWorld.backend)
    (fits : worker.Fits warmup operations isOpen) (leased : shared.world.Leased 0)
    (inside : index < shared.world.clients.length)
    (uses : (shared.world.openingOf index).isSome ↔ worker.UsesStore) :
    StoreStep index worker next shared.world after.world := by
  unfold Fits at fits
  have blank (stands : worker.place = .opening) : shared.world.openingOf index = none := by
    have unused : ¬ worker.UsesStore := fun uses => uses.1 stands
    rwa [← uses, Option.not_isSome_iff_eq_none] at unused
  have initialized (stands : worker.place = .closing) (routine : worker.outcome = none) :
      (shared.world.openingOf index).isSome :=
    uses.2 ⟨by simp [stands], by simp [routine]⟩
  -- apart from openings and closings only data calls touch the world
  have called (call : Call) (reply : Reply) (world : MemoryWorld)
      (answer : setting.clients.call index call shared.world = (reply, world)) :
      world.shared.lease = shared.world.shared.lease ∧ world.clients = shared.world.clients := by
    rw [inMemory] at answer
    have kept := MemoryWorld.call_keeps index call shared.world
    rw [show MemoryWorld.call index call shared.world = (reply, world) from answer] at kept
    exact kept
  cases advance with
  | opened stands answer =>
    rw [stands] at fits
    obtain ⟨_, opens, joined⟩ := leased.joined inside (blank stands)
    rw [inMemory, opens] at answer
    cases answer
    exact .opens stands (by simp [UsesStore, stands]) (by simp [goTo])
      (by simp [UsesStore, goTo, fits.1]) joined
  | openingFailed stands answer =>
    obtain ⟨_, opens, _⟩ := leased.joined inside (blank stands)
    rw [inMemory, opens] at answer
    cases answer
  | closed stands answer =>
    rw [stands] at fits
    obtain ⟨_, closes, parted⟩ := leased.parted (initialized stands fits.1)
    rw [inMemory, closes] at answer
    cases answer
    exact .closes stands (by simp [finish]) (by simp [UsesStore, finish]) parted
  | closingFailed stands answer =>
    rw [stands] at fits
    obtain ⟨_, closes, _⟩ := leased.parted (initialized stands fits.1)
    rw [inMemory, closes] at answer
    cases answer
  | planned stands | settled stands | overlooked stands =>
    have elsewhere : worker.place ≠ .opening := by simp [stands]
    obtain ⟨stays, same⟩ := usesStore_proceed _ elsewhere
    exact .passes elsewhere stays same rfl rfl
  | answered stands answer | callFailed stands answer =>
    obtain ⟨lease, clients⟩ := called _ _ _ answer
    exact .passes (by simp [stands]) (by simp [goTo]) (by simp [UsesStore, goTo, hear, stands])
      lease clients
  | planStopped stands | settlingStopped stands | passedOn stands =>
    rw [stands] at fits
    exact .passes (by simp [stands]) (by simp [stop, finish])
      (by simp [UsesStore, stop, finish, stands, fits.1]) rfl rfl
  | reachedGate stands | wentOn stands | performedAll stands | arrived stands | passed stands
  | won stands | lost stands | started stands | throttled stands | clockRead stands
  | timed stands | numbered stands | filed stands | gaveUp stands | keptNothing stands
  | leftToExit stands | left stands | exited stands | exitedUnharmed stands =>
    exact .passes (by simp [stands]) (by simp [goTo]) (by simp [UsesStore, goTo, stands]) rfl rfl

end

end Worker

/-! ## All workers -/

namespace State

/-- The initialized clients are those of the workers that use the store.  `first` is the number of
the first opening of the phase. -/
structure Housed (setting : Setting ω MemoryWorld) (first : Nat) (state : State α ω MemoryWorld) :
    Prop where
  inOrder : state.InOrder setting
  size : state.shared.world.clients.length = state.workers.length
  leased : state.shared.world.Leased 0
  uses : ∀ {index} {worker : Worker}, state.workers[index]? = some worker →
    ((state.shared.world.openingOf index).isSome ↔ worker.UsesStore)
  awaited : ∀ worker ∈ state.workers, worker.place = .opening →
    worker.hasPlace = setting.hasGate
  later : first ≤ state.shared.world.shared.lease.opens
  recent : ∀ {opening}, state.shared.world.shared.lease.handle = some opening → first ≤ opening
  opened : ∀ worker ∈ state.workers, worker.place ≠ .opening →
    first < state.shared.world.shared.lease.opens
  atMost : state.shared.world.shared.lease.opens ≤ first + total (state.workers.map Worker.begun)
  once : setting.hasGate = true → state.shared.world.shared.lease.opens ≤ first + 1

variable {setting : Setting ω MemoryWorld} {first : Nat} {state : State α ω MemoryWorld}

theorem mem_workers_of_mem_parties {worker : Worker} (party : worker ∈ state.parties) :
    worker ∈ state.workers := by
  rw [parties] at party
  split at party
  · exact List.mem_of_mem_take party
  · exact party

/-- Who uses the store has the one that is open now. -/
theorem Housed.handle (housed : state.Housed setting first) {index : Nat} {worker : Worker}
    (found : state.workers[index]? = some worker) (uses : worker.UsesStore) :
    ∃ opening, state.shared.world.openingOf index = some opening ∧
      state.shared.world.shared.lease.handle = some opening := by
  obtain ⟨opening, holds⟩ := Option.isSome_iff_exists.1 ((housed.uses found).2 uses)
  exact ⟨opening, holds, housed.leased.current holds⟩

/-- The store is closed only if nobody uses it. -/
theorem Housed.not_usesStore (housed : state.Housed setting first)
    (shut : state.shared.world.shared.lease.handle = none) :
    ∀ worker ∈ state.workers, ¬ worker.UsesStore := by
  intro worker member uses
  obtain ⟨index, found⟩ := List.getElem?_of_mem member
  obtain ⟨opening, _, handle⟩ := housed.handle found uses
  rw [shut] at handle
  cases handle

theorem housed_opening (setting : Setting ω MemoryWorld) {world : MemoryWorld}
    (unheld : world.Leased 0) (blank : ∀ client ∈ world.clients, client.opening = none)
    (size : world.clients.length = setting.workers) (work : ω) (meter : Meter α) (now : UInt64) :
    (opening setting world work meter now).Housed setting world.shared.lease.opens := by
  have inOrder := inOrder_opening setting world work meter now
  have shut := unheld.shut blank
  refine ⟨inOrder, size.trans inOrder.size.symm, unheld, ?_, ?_, Nat.le_refl _, ?_, ?_, ?_, ?_⟩
  · intro index worker found
    rw [worker_opening (List.mem_of_getElem? found)]
    show (world.openingOf index).isSome ↔ _
    simp [MemoryWorld.openingOf_eq_none blank, Worker.UsesStore, Worker.fresh]
  · intro worker member _
    rw [worker_opening member]
    rfl
  · intro opening handle
    rw [show world.shared.lease.handle = some opening from handle] at shut
    cases shut
  · intro worker member begun
    rw [worker_opening member] at begun
    exact absurd rfl begun
  · exact Nat.le_add_right _ _
  · exact fun _ => Nat.le_succ _

variable {index : Nat} {worker next : Worker} {shared : Shared α ω MemoryWorld}

/-- A worker opens the store for the first time if it finds it closed before the gate opens. -/
theorem Housed.unbegun (housed : state.Housed setting first) (gate : setting.hasGate = true)
    (spawned : index < state.spawned) (found : state.workers[index]? = some worker)
    (stands : worker.place = .opening) (shut : state.shared.world.shared.lease.handle = none) :
    total (state.workers.map Worker.begun) = 0 := by
  have party : worker ∈ state.parties := by
    rw [← getElem?_parties spawned] at found
    exact List.mem_of_getElem? found
  have isClosed : state.shared.gate.isOpen ≠ true := by
    intro isOpen
    have away := housed.inOrder.hasPlace_eq_false isOpen party
    rw [housed.awaited worker (List.mem_of_getElem? found) stands, gate] at away
    cases away
  apply total_map_eq_zero
  intro other member
  apply Classical.byContradiction
  intro begun
  have opened : other.place ≠ .opening := fun waits => begun (if_pos waits)
  obtain ⟨position, got⟩ := List.getElem?_of_mem member
  exact housed.not_usesStore shut other member
    ((housed.inOrder.fits got).usesStore isClosed opened)

/-- What has to be shown of a step of one worker, which has opened its store afterwards. -/
theorem Housed.set (housed : state.Housed setting first)
    (inOrder : ({ state with workers := state.workers.set index next, shared } :
      State α ω MemoryWorld).InOrder setting)
    (stays : next.place ≠ .opening) (leased : shared.world.Leased 0)
    (size : shared.world.clients.length = state.shared.world.clients.length)
    (uses : (shared.world.openingOf index).isSome ↔ next.UsesStore)
    (others : ∀ other, other ≠ index →
      ((shared.world.openingOf other).isSome ↔ (state.shared.world.openingOf other).isSome))
    (recent : ∀ {opening}, shared.world.shared.lease.handle = some opening → first ≤ opening)
    (called : first < shared.world.shared.lease.opens)
    (atMost : shared.world.shared.lease.opens ≤
      first + total ((state.workers.set index next).map Worker.begun))
    (once : setting.hasGate = true → shared.world.shared.lease.opens ≤ first + 1) :
    ({ state with workers := state.workers.set index next, shared } :
      State α ω MemoryWorld).Housed setting first := by
  refine ⟨inOrder, ?_, leased, ?_, ?_, Nat.le_of_lt called, recent, fun _ _ _ => called, atMost,
    once⟩
  · rw [List.length_set]
    exact size.trans housed.size
  · intro other member got
    rcases of_getElem?_set got with ⟨rfl, rfl⟩ | ⟨apart, got⟩
    · exact uses
    · exact (others other (Ne.symm apart)).trans (housed.uses got)
  · intro other member waits
    rcases List.mem_or_eq_of_mem_set member with old | rfl
    · exact housed.awaited other old waits
    · exact absurd waits stays

/-! ### What a step of a worker keeps -/

section
variable (housed : state.Housed setting first)
  (inOrder : ({ state with workers := state.workers.set index next, shared } :
    State α ω MemoryWorld).InOrder setting)
include housed inOrder

theorem Housed.joined (spawned : index < state.spawned)
    (found : state.workers[index]? = some worker) (stands : worker.place = .opening)
    (begins : next.place ≠ .opening) (uses : next.UsesStore)
    (joined : MemoryWorld.Joined index state.shared.world shared.world) :
    ({ state with workers := state.workers.set index next, shared } :
      State α ω MemoryWorld).Housed setting first := by
  have begun := total_map_set Worker.begun found next
  have before : worker.begun = 0 := if_pos stands
  have after : next.begun = 1 := if_neg begins
  have atMost := housed.atMost
  have own : (shared.world.openingOf index).isSome ↔ next.UsesStore := by
    simp [joined.initialized, uses]
  have others (other : Nat) (apart : other ≠ index) :
      (shared.world.openingOf other).isSome ↔
        (state.shared.world.openingOf other).isSome := by
    simp [joined.initialized, apart]
  rcases joined.opens with ⟨isOpen, known, calls⟩ | ⟨shut, anew, calls⟩
  · obtain ⟨opening, current⟩ := Option.isSome_iff_exists.1 isOpen
    refine housed.set inOrder begins joined.leased joined.size own others ?_ ?_ ?_ ?_
    · rw [known]
      exact housed.recent
    · rw [calls]
      exact Nat.lt_of_le_of_lt (housed.recent current) (housed.leased.numbered current)
    · omega
    · rw [calls]
      exact housed.once
  · have later := housed.later
    refine housed.set inOrder begins joined.leased joined.size own others ?_ ?_ ?_ ?_
    · rw [anew]
      rintro _ ⟨⟩
      exact later
    · omega
    · omega
    · intro gate
      have nobody := housed.unbegun gate spawned found stands shut
      omega

theorem Housed.parted (found : state.workers[index]? = some worker)
    (stands : worker.place = .closing) (stays : next.place ≠ .opening)
    (unused : ¬ next.UsesStore)
    (parted : MemoryWorld.Parted index state.shared.world shared.world) :
    ({ state with workers := state.workers.set index next, shared } :
      State α ω MemoryWorld).Housed setting first := by
  have begun := total_map_set Worker.begun found next
  have opened : worker.place ≠ .opening := by simp [stands]
  have before : worker.begun = 1 := if_neg opened
  have after : next.begun = 1 := if_neg stays
  have atMost := housed.atMost
  have calls := parted.opens
  refine housed.set inOrder stays parted.leased parted.size ?_ ?_ ?_ ?_ ?_ ?_
  · simp [parted.initialized, unused]
  · intro other apart
    simp [parted.initialized, apart]
  · intro opening current
    rcases parted.closes with known | shut
    · exact housed.recent (known ▸ current)
    · rw [shut] at current
      cases current
  · rw [calls]
    exact housed.opened worker (List.mem_of_getElem? found) opened
  · omega
  · rw [calls]
    exact housed.once

theorem Housed.passed (found : state.workers[index]? = some worker)
    (opened : worker.place ≠ .opening) (stays : next.place ≠ .opening)
    (same : next.UsesStore ↔ worker.UsesStore)
    (lease : shared.world.shared.lease = state.shared.world.shared.lease)
    (clients : shared.world.clients = state.shared.world.clients) :
    ({ state with workers := state.workers.set index next, shared } :
      State α ω MemoryWorld).Housed setting first := by
  have begun := total_map_set Worker.begun found next
  have before : worker.begun = 1 := if_neg opened
  have after : next.begun = 1 := if_neg stays
  have atMost := housed.atMost
  have holding (other : Nat) :
      shared.world.openingOf other = state.shared.world.openingOf other := by
    rw [MemoryWorld.openingOf, clients, MemoryWorld.openingOf]
  refine housed.set inOrder stays (housed.leased.congr lease clients) (by rw [clients]) ?_
    (fun other _ => by rw [holding]) ?_ ?_ ?_ ?_
  · rw [holding, housed.uses found]
    exact same.symm
  · rw [lease]
    exact housed.recent
  · rw [lease]
    exact housed.opened worker (List.mem_of_getElem? found) opened
  · rw [lease]
    omega
  · rw [lease]
    exact housed.once

end

section
variable [Aggregate α] {fate : Fate} {move : Move} {after : State α ω MemoryWorld}

theorem Housed.storeStep (housed : state.Housed setting first)
    (inMemory : setting.clients = MemoryWorld.backend)
    (found : state.workers[index]? = some worker)
    (advance : worker.Advance setting index fate state.shared next shared) :
    Worker.StoreStep index worker next state.shared.world shared.world := by
  have inside : index < state.shared.world.clients.length := by
    rw [housed.size]
    exact (List.getElem?_eq_some_iff.1 found).1
  exact advance.storeStep inMemory (housed.inOrder.fits found) housed.leased inside
    (housed.uses found)

/-- Every move keeps the clients and the workers together. -/
theorem Housed.fires (housed : state.Housed setting first)
    (inMemory : setting.clients = MemoryWorld.backend)
    (fires : state.Fires setting move after) : after.Housed setting first := by
  have inOrder := housed.inOrder.fires fires
  cases fires with
  | worker spawned found advance =>
    cases housed.storeStep inMemory found advance with
    | opens stands _ begins uses joined =>
      exact housed.joined inOrder spawned found stands begins uses joined
    | closes stands stays unused parted =>
      exact housed.parted inOrder found stands stays unused parted
    | passes opened stays same lease clients =>
      exact housed.passed inOrder found opened stays same lease clients
  | spawned | stoodIn | joined | timeStopped | concluded | roused | wrote =>
    exact ⟨inOrder, housed.size, housed.leased, housed.uses, housed.awaited, housed.later,
      housed.recent, housed.opened, housed.atMost, housed.once⟩

theorem Housed.of_reaches (inMemory : setting.clients = MemoryWorld.backend)
    {world : MemoryWorld} (unheld : world.Leased 0)
    (blank : ∀ client ∈ world.clients, client.opening = none)
    (size : world.clients.length = setting.workers) {work : ω} {meter : Meter α} {now : UInt64}
    (reaches : Reaches (step setting) (opening setting world work meter now) state) :
    state.Housed setting world.shared.lease.opens :=
  reaches.invariant (housed_opening setting unheld blank size work meter now)
    fun _ _ _ housed steps => housed.fires inMemory (fires_of_step steps).2

/-- The opener is called for a worker that finds nobody using the store. -/
theorem Housed.opens_of_fires (housed : state.Housed setting first)
    (inMemory : setting.clients = MemoryWorld.backend) (fires : state.Fires setting move after) :
    after.shared.world.shared.lease.opens = state.shared.world.shared.lease.opens ∨
      ∃ (index : Nat) (worker : Worker), state.workers[index]? = some worker ∧
        worker.place = .opening ∧ ∀ other ∈ state.workers, ¬ other.UsesStore := by
  cases fires with
  | @worker index fate worker next shared spawned found advance =>
    cases housed.storeStep inMemory found advance with
    | opens stands _ _ _ joined =>
      rcases joined.opens with ⟨_, _, calls⟩ | ⟨shut, _, _⟩
      · exact .inl calls
      · exact .inr ⟨index, worker, found, stands, housed.not_usesStore shut⟩
    | closes _ _ _ parted => exact .inl parted.opens
    | passes _ _ _ lease => exact .inl (congrArg Lease.opens lease)
  | _ => exact .inl rfl

/-- An open store stays, unless the last that uses it closes it. -/
theorem Housed.handle_of_fires (housed : state.Housed setting first)
    (inMemory : setting.clients = MemoryWorld.backend) (fires : state.Fires setting move after)
    {opening : Nat} (current : state.shared.world.shared.lease.handle = some opening) :
    after.shared.world.shared.lease.handle = some opening ∨
      ∀ other ∈ after.workers, ¬ other.UsesStore := by
  have next := housed.fires inMemory fires
  cases fires with
  | @worker index fate worker next shared spawned found advance =>
    cases housed.storeStep inMemory found advance with
    | opens _ _ _ _ joined =>
      rcases joined.opens with ⟨_, known, _⟩ | ⟨shut, _, _⟩
      · exact .inl (known.trans current)
      · rw [shut] at current
        cases current
    | closes _ _ _ parted =>
      rcases parted.closes with known | shut
      · exact .inl (known.trans current)
      · exact .inr (next.not_usesStore shut)
    | passes _ _ _ lease => exact .inl ((congrArg Lease.handle lease).trans current)
  | _ => exact .inl current

omit [Aggregate α] in
/-- With a warm-up the store is opened once, and it stays open while some worker has yet to perform
its operations. -/
theorem Housed.handle_of_warmup (housed : state.Housed setting first)
    (gate : setting.hasGate = true) (begun : ∃ worker ∈ state.workers, worker.place ≠ .opening) :
    state.shared.world.shared.lease.opens = first + 1 ∧
      ∀ party ∈ state.parties, party.place = .opening ∨ party.UsesStore →
        state.shared.world.shared.lease.handle = some first := by
  obtain ⟨worker, member, opened⟩ := begun
  have opens : state.shared.world.shared.lease.opens = first + 1 :=
    Nat.le_antisymm (housed.once gate) (housed.opened worker member opened)
  have current {index : Nat} {user : Worker} (found : state.workers[index]? = some user)
      (uses : user.UsesStore) : state.shared.world.shared.lease.handle = some first := by
    obtain ⟨opening, _, handle⟩ := housed.handle found uses
    have least := housed.recent handle
    have below := housed.leased.numbered handle
    have same : opening = first := by omega
    rw [handle, same]
  refine ⟨opens, fun party inside unfinished => ?_⟩
  rcases unfinished with waits | uses
  · -- the gate awaits that party, so the worker that has begun has not gone beyond it
    have isClosed : state.shared.gate.isOpen ≠ true := by
      intro isOpen
      have away := housed.inOrder.hasPlace_eq_false isOpen inside
      rw [housed.awaited party (mem_workers_of_mem_parties inside) waits, gate] at away
      cases away
    obtain ⟨index, found⟩ := List.getElem?_of_mem member
    exact current found ((housed.inOrder.fits found).usesStore isClosed opened)
  · obtain ⟨index, found⟩ := List.getElem?_of_mem (mem_workers_of_mem_parties inside)
    exact current found uses

end

end State

/-- **The workers of a phase share the store that is open.**  In every run of a phase whose workers
have clients of one store in memory, and nobody else a lease of it, the workers that have opened
their stores and not closed them all hold the current opening.  The opener is called only for a
worker that finds no other such worker, so at most once for each, and the store is closed only
by the last one.  In a phase with a warm-up this means that the opener is called once, and the store
stays open until every worker has performed its operations. -/
theorem workers_share_open_store [Aggregate α] (setting : Setting ω MemoryWorld)
    (inMemory : setting.clients = MemoryWorld.backend) {world : MemoryWorld}
    (unheld : world.Leased 0) (blank : ∀ client ∈ world.clients, client.opening = none)
    (size : world.clients.length = setting.workers) (work : ω) (meter : Meter α) (now : UInt64)
    {state : State α ω MemoryWorld}
    (reaches : Reaches (State.step setting) (State.opening setting world work meter now) state) :
    let lease := state.shared.world.shared.lease
    (∀ (index : Nat) (worker : Worker), state.workers[index]? = some worker →
        worker.UsesStore →
        ∃ opening, state.shared.world.openingOf index = some opening ∧
          lease.handle = some opening) ∧
      (∀ move after, State.step setting move state = some after →
        (after.shared.world.shared.lease.opens = lease.opens ∨
            ∃ (index : Nat) (worker : Worker), state.workers[index]? = some worker ∧
              worker.place = .opening ∧ ∀ other ∈ state.workers, ¬ other.UsesStore) ∧
          ∀ opening, lease.handle = some opening →
            after.shared.world.shared.lease.handle = some opening ∨
              ∀ other ∈ after.workers, ¬ other.UsesStore) ∧
      lease.opens ≤ world.shared.lease.opens + total (state.workers.map Worker.begun) ∧
      (0 < setting.warmup → (∃ worker ∈ state.workers, worker.place ≠ .opening) →
        lease.opens = world.shared.lease.opens + 1 ∧
          ∀ party ∈ state.parties, party.place = .opening ∨ party.UsesStore →
            lease.handle = some world.shared.lease.opens) := by
  intro lease
  have housed := State.Housed.of_reaches inMemory unheld blank size reaches
  refine ⟨fun index worker found uses => housed.handle found uses, fun move after steps => ?_,
    housed.atMost, fun warm begun => housed.handle_of_warmup (decide_eq_true warm) begun⟩
  have fires := (State.fires_of_step steps).2
  exact ⟨housed.opens_of_fires inMemory fires,
    fun opening current => housed.handle_of_fires inMemory fires current⟩

/-- Of two workers of a run phase with a warm-up one has performed its operations and closed its
store, and the other works on with the store that both opened. -/
theorem workers_share_open_store_past_gate :
    let config := { Config.default with
      threads := 2, warmupOps := 2, mix := { Mix.Options.default with operationCount := 4 } }
    let task : Mix.Task := ⟨.insert "table" "key" [], none⟩
    let workload : Mix.Workload Unit :=
      .strict (fun _ _ _ work => (.tasks [task], work)) fun _ _ work => work
    let setting := settingOf config .run false workload MemoryWorld.backend
    let client : MemoryClient := ⟨.single, true, none⟩
    let world := MemoryWorld.opening [client, client]
    setting.clients = MemoryWorld.backend ∧ world.Leased 0 ∧
    (∀ client ∈ world.clients, client.opening = none) ∧
    world.clients.length = setting.workers ∧
    ∃ (state : State Summary Unit MemoryWorld) (ended busy : Worker),
      Reaches (State.step setting) (State.opening setting world () Meter.empty 0) state ∧
      state.workers[0]? = some ended ∧ ended.place = .ended ∧
      state.workers[1]? = some busy ∧ busy.UsesStore ∧
      state.shared.world.shared.lease.opens = 1 ∧
      state.shared.world.shared.lease.handle = some 0 := by
  intro config task workload setting client world
  have blank : ∀ client ∈ world.clients, client.opening = none := by decide
  have unheld : world.Leased 0 := .ofOpening blank
  have size : world.clients.length = setting.workers := by decide
  let schedule : List Move := [.spawn none, .spawn none] ++ Move.turns 0 12 ++ Move.turns 1 15 ++
    Move.turns 0 15
  have ready : (follow (State.step setting) schedule
      (State.opening setting world () (Meter.empty : Meter Summary) 0)).any (fun state =>
        state.workers[0]?.any (fun worker => worker.place == .ended) &&
        state.workers[1]?.any (fun worker =>
          worker.place == .looping && worker.outcome.isNone) &&
        state.spawnFault.isNone) = true := by
    decide +kernel
  obtain ⟨state, followed, facts⟩ := (Option.any_eq_true _ _).1 ready
  simp only [Bool.and_eq_true, Option.any_eq_true, beq_iff_eq, Option.isNone_iff_eq_none] at facts
  obtain ⟨⟨⟨ended, foundEnded, standsEnded⟩, busy, foundBusy, standsBusy, routine⟩, unhindered⟩ :=
    facts
  have reaches := reaches_of_follow followed
  have uses : busy.UsesStore := ⟨by simp [standsBusy], by simp [routine]⟩
  obtain ⟨_, _, _, warm⟩ :=
    workers_share_open_store setting rfl unheld blank size () Meter.empty 0 reaches
  have member := List.mem_of_getElem? foundBusy
  have party : busy ∈ state.parties := by
    rw [State.parties, unhindered]
    exact member
  obtain ⟨opens, stays⟩ := warm (by decide) ⟨busy, member, uses.1⟩
  exact ⟨rfl, unheld, blank, size, state, ended, busy, reaches, foundEnded, standsEnded, foundBusy,
    uses, opens, stays busy party (.inr uses)⟩

/-- In a load phase of the standard workload the first worker stores its record and closes its
store before the second opens its own: the opener is called again, and the record is gone while the
second worker has yet to begin. -/
theorem store_opened_twice :
    let config := { Config.default with
      threads := 2, mix := { Mix.Options.default with recordCount := 2, fieldLength := 2 } }
    let setting := settingOf config .load false Mix.Transactions.workload MemoryWorld.backend
    let client : MemoryClient := ⟨.single, true, none⟩
    let read : Call := .read config.mix.table (Keys.recordKey 0) none
    ∃ (work : Mix.Transactions) (state : State Summary Mix.Transactions MemoryWorld)
      (worker : Worker),
      Mix.Transactions.create id config.mix = .ok work ∧
      Reaches (State.step setting)
        (State.opening setting (MemoryWorld.opening [client, client]) work Meter.empty 0) state ∧
      state.shared.meter.measuredTotal = 1 ∧
      state.workers[1]? = some worker ∧ worker.place = .looping ∧ worker.iteration = 0 ∧
      state.shared.world.shared.lease.opens = 2 ∧
      (MemoryWorld.call 1 read state.shared.world).1.outcome = .ok .notFound := by
  intro config setting client read
  let schedule : List Move := [.spawn none, .spawn none] ++ Move.turns 0 14 ++ Move.turns 1 1
  have ready : (Mix.Transactions.create id config.mix).toOption.any (fun work =>
      (follow (State.step setting) schedule (State.opening setting
        (MemoryWorld.opening [client, client]) work (Meter.empty : Meter Summary) 0)).any
        fun state => state.shared.meter.measuredTotal == 1 &&
          state.workers[1]?.any (fun worker =>
            worker.place == .looping && worker.iteration == 0) &&
          state.shared.world.shared.lease.opens == 2 &&
          (MemoryWorld.call 1 read state.shared.world).1.outcome.toOption == some .notFound) =
      true := by
    decide +kernel
  obtain ⟨work, created, rest⟩ := (Option.any_eq_true _ _).1 ready
  obtain ⟨state, followed, facts⟩ := (Option.any_eq_true _ _).1 rest
  simp only [Bool.and_eq_true, Option.any_eq_true, beq_iff_eq] at facts
  obtain ⟨⟨⟨filed, worker, found, stands, begun⟩, opens⟩, gone⟩ := facts
  exact ⟨work, state, worker, ok_of_toOption created, reaches_of_follow followed, filed, found,
    stands, begun, opens, ok_of_toOption gone⟩

end StoreBench.Phase
