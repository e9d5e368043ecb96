import StoreBench.Interleaving
import StoreBench.Proofs.Store.OrderedStore
import StoreBench.Store.Memory

/-!
Contract: who holds a store in memory, whatever is asked of it.

The store is closed by the last of its holders and may be opened again, so a client could be
left with an opening that is no longer the current one.  It never is: while a client is
initialized it counts as a holder, and a store with a holder is neither closed nor opened.

Owns:
- the cases of an acquisition and of a data call;
- `MemoryWorld.Leased`, the holders of a store and what each of them knows;
- `Custody`, a store with its clients and outsiders as a system of calls.

Does not own: the rows of the store.
-/

namespace StoreBench.Store

variable {opener : Nat → Except Failure Unit}

/-! ## Cases of a call -/

/-- The opener was called once more, and failed. -/
def SharedMemory.refused (shared : SharedMemory) : SharedMemory :=
  { shared with lease := { shared.lease with opens := shared.lease.opens + 1 } }

/-- An acquisition finds the store open, fails to open it, or opens it empty. -/
theorem SharedMemory.acquire_cases (opener : Nat → Except Failure Unit)
    (shared : SharedMemory) :
    (∃ opening, shared.lease.handle = some opening ∧
        shared.acquire opener =
          (.ok opening, { shared with
            lease := { shared.lease with holders := shared.lease.holders + 1 } })) ∨
      (∃ fault, shared.lease.handle = none ∧ opener shared.lease.opens = .error fault ∧
        shared.acquire opener = (.error fault, shared.refused)) ∨
      (shared.lease.handle = none ∧ opener shared.lease.opens = .ok () ∧
        shared.acquire opener =
          (.ok shared.lease.opens,
            ⟨{ shared.lease with
                handle := some shared.lease.opens
                holders := shared.lease.holders + 1
                opens := shared.lease.opens + 1 },
              (shared.lease.opens, Table.empty) :: shared.openings⟩)) := by
  cases handle : shared.lease.handle with
  | some opening =>
    exact .inl ⟨opening, rfl, by simp [acquire, Lease.acquire, handle]⟩
  | none =>
    cases opened : opener shared.lease.opens with
    | error fault =>
      exact .inr (.inl ⟨fault, rfl, rfl, by
        simp [acquire, Lease.acquire, handle, opened, Except.map, refused]⟩)
    | ok _ =>
      exact .inr (.inr ⟨rfl, rfl, by simp [acquire, Lease.acquire, handle, opened, Except.map]⟩)

/-- A release does not call the opener; it closes the thing or leaves it. -/
theorem Lease.release_keeps {α : Type} (lease : Lease α) :
    lease.release.2.opens = lease.opens ∧
      (lease.release.2.handle = lease.handle ∨ lease.release.2.handle = none) := by
  obtain ⟨name, handle, holders, opens⟩ := lease
  match holders with
  | 0 => exact ⟨rfl, .inl rfl⟩
  | 1 => exact ⟨rfl, .inr rfl⟩
  | _ + 2 => exact ⟨rfl, .inl rfl⟩

namespace MemoryWorld

/-- A data call changes nothing, or the tables of the opening that its client holds. -/
theorem call_cases (index : Nat) (call : Call) (world : MemoryWorld) :
    (MemoryWorld.call index call world).2 = world ∨
      ∃ opening tables, world.openingOf index = some opening ∧
        (MemoryWorld.call index call world).2 = world.setTables opening tables := by
  cases found : world.clients[index]? with
  | none => exact .inl (by simp [MemoryWorld.call, found])
  | some client =>
    have known : world.openingOf index = client.opening := by simp [openingOf, found]
    cases held : client.opening with
    | none =>
      left
      cases call with
      | insert table key values =>
        cases encoded : client.format.encode values <;>
          simp [MemoryWorld.call, found, held, encoded]
      | _ => simp [MemoryWorld.call, found, held]
    | some opening =>
      have holds := known.trans held
      cases call with
      | read table key fields => exact .inl (by simp only [MemoryWorld.call, found, held])
      | scan table start count fields => exact .inl (by simp only [MemoryWorld.call, found, held])
      | update table key values =>
        refine .inr ⟨opening, (client.update (world.shared.tables opening) table key values).2,
          holds, ?_⟩
        simp only [MemoryWorld.call, found, held]
      | insert table key values =>
        cases encoded : client.format.encode values with
        | error fault => exact .inl (by simp only [MemoryWorld.call, found, encoded])
        | ok data =>
          refine .inr ⟨opening, (world.shared.tables opening).put table key data, holds, ?_⟩
          simp only [MemoryWorld.call, found, held, encoded]
      | delete table key =>
        refine .inr ⟨opening, MemoryClient.delete (world.shared.tables opening) table key,
          holds, ?_⟩
        simp only [MemoryWorld.call, found, held]

/-- Data calls do not touch the lease or the clients. -/
theorem call_keeps (index : Nat) (call : Call) (world : MemoryWorld) :
    (MemoryWorld.call index call world).2.shared.lease = world.shared.lease ∧
      (MemoryWorld.call index call world).2.clients = world.clients := by
  rcases call_cases index call world with same | ⟨opening, tables, _, changed⟩
  · rw [same]
    exact ⟨rfl, rfl⟩
  · rw [changed]
    exact ⟨rfl, rfl⟩

/-! ## Clients -/

/-- How many clients are initialized. -/
def initializedCount (world : MemoryWorld) : Nat := world.clients.countP (·.opening.isSome)

theorem initializedCount_eq_zero {world : MemoryWorld}
    (blank : ∀ client ∈ world.clients, client.opening = none) : world.initializedCount = 0 :=
  List.countP_eq_zero.2 fun client inside => by simp [blank client inside]

theorem openingOf_eq_none {world : MemoryWorld}
    (blank : ∀ client ∈ world.clients, client.opening = none) (index : Nat) :
    world.openingOf index = none := by
  rw [openingOf]
  cases found : world.clients[index]? with
  | none => rfl
  | some client => exact blank client (List.mem_of_getElem? found)

theorem setOpening_clients {world : MemoryWorld} {index : Nat} {client : MemoryClient}
    (found : world.clients[index]? = some client) (opening : Option Nat) :
    (world.setOpening index opening).clients =
      world.clients.set index { client with opening } := by
  have inside := (List.getElem?_eq_some_iff.1 found).1
  apply List.ext_getElem?
  intro other
  rw [setOpening, List.getElem?_modify]
  by_cases here : index = other
  · subst here
    rw [List.getElem?_set_self inside, found]
    simp
  · rw [List.getElem?_set_ne here]
    simp [here]

/-- A client that takes hold counts one more, and one that lets go counts one less. -/
theorem initializedCount_setOpening {world : MemoryWorld} {index : Nat} {client : MemoryClient}
    (found : world.clients[index]? = some client) (opening : Option Nat) :
    (world.setOpening index opening).initializedCount + client.opening.toList.length =
      world.initializedCount + opening.toList.length := by
  obtain ⟨inside, stands⟩ := List.getElem?_eq_some_iff.1 found
  rw [initializedCount, setOpening_clients found, List.countP_set inside, stands]
  cases held : client.opening with
  | none => cases opening <;> simp [initializedCount]
  | some old =>
    have counted : 0 < world.clients.countP (·.opening.isSome) :=
      List.countP_pos_iff.2 ⟨client, List.mem_of_getElem? found, by simp [held]⟩
    cases opening <;> simp [initializedCount] <;> omega

theorem openingOf_setOpening {world : MemoryWorld} {index : Nat}
    (inside : index < world.clients.length)
    (opening : Option Nat) (other : Nat) :
    (world.setOpening index opening).openingOf other =
      if other = index then opening else world.openingOf other := by
  obtain ⟨client, found⟩ : ∃ client, world.clients[index]? = some client :=
    ⟨_, List.getElem?_eq_getElem inside⟩
  rw [openingOf, setOpening_clients found]
  by_cases here : other = index
  · subst here
    rw [List.getElem?_set_self inside, if_pos rfl]
    rfl
  · rw [List.getElem?_set_ne (Ne.symm here), if_neg here, openingOf]

/-- The holders of a store are the initialized clients and `held` outsiders, it is open while
there are any, and every client that is initialized holds the current opening. -/
structure Leased (held : Nat) (world : MemoryWorld) : Prop where
  count : world.shared.lease.holders = held + world.initializedCount
  opened : world.shared.lease.isOpen = true ↔ 0 < world.shared.lease.holders
  current : ∀ {index opening}, world.openingOf index = some opening →
    world.shared.lease.handle = some opening
  /-- A later opening gets a number of its own. -/
  numbered : ∀ {opening}, world.shared.lease.handle = some opening →
    opening < world.shared.lease.opens

namespace Leased

variable {held : Nat} {world : MemoryWorld}

/-- A closed store whose clients are not initialized is held by nobody. -/
theorem ofOpening {clients : List MemoryClient}
    (blank : ∀ client ∈ clients, client.opening = none) :
    (MemoryWorld.opening clients).Leased 0 := by
  refine ⟨?_, ?_, ?_, nofun⟩
  · have nobody : (MemoryWorld.opening clients).initializedCount = 0 :=
      initializedCount_eq_zero blank
    show 0 = 0 + _
    omega
  · show false = true ↔ 0 < 0
    decide
  · intro index opening holds
    have none : (MemoryWorld.opening clients).openingOf index = none :=
      openingOf_eq_none blank index
    rw [none] at holds
    cases holds

/-- A store that nobody holds is closed. -/
theorem shut (leased : world.Leased 0) (blank : ∀ client ∈ world.clients, client.opening = none) :
    world.shared.lease.handle = none := by
  have count := leased.count
  rw [initializedCount_eq_zero blank] at count
  have isClosed : ¬ world.shared.lease.isOpen = true := by
    rw [leased.opened, count]
    decide
  simpa [Lease.isOpen] using isClosed

theorem acquire (leased : world.Leased held) (opener : Nat → Except Failure Unit) :
    (∃ opening shared, world.shared.acquire opener = (.ok opening, shared) ∧
        shared.lease.handle = some opening ∧ Leased (held + 1) { world with shared }) ∨
      ∃ fault, world.shared.lease.handle = none ∧
        opener world.shared.lease.opens = .error fault ∧
        world.shared.acquire opener = (.error fault, world.shared.refused) ∧
        Leased held { world with shared := world.shared.refused } := by
  rcases world.shared.acquire_cases opener with
    ⟨opening, handle, acquired⟩ | ⟨fault, handle, failed, acquired⟩ | ⟨handle, _, acquired⟩
  · refine .inl ⟨opening, _, acquired, handle, ?_, ?_, leased.current, leased.numbered⟩
    · show world.shared.lease.holders + 1 = held + 1 + world.initializedCount
      have count := leased.count
      omega
    · simp [Lease.isOpen, handle]
  · exact .inr ⟨fault, handle, failed, acquired, leased.count, leased.opened, leased.current,
      fun known => Nat.lt_succ_of_lt (leased.numbered known)⟩
  · refine .inl ⟨world.shared.lease.opens, _, acquired, rfl, ?_, ?_, ?_, ?_⟩
    · show world.shared.lease.holders + 1 = held + 1 + world.initializedCount
      have count := leased.count
      omega
    · simp [Lease.isOpen]
    · intro index opening holds
      have known := leased.current holds
      rw [handle] at known
      cases known
    · intro opening same
      cases same
      exact Nat.lt_succ_self _

theorem release (leased : world.Leased (held + 1)) :
    ∃ shared, world.shared.release = (.ok (), shared) ∧ Leased held { world with shared } := by
  have count := leased.count
  rw [SharedMemory.release, Lease.release]
  cases holders : world.shared.lease.holders with
  | zero => omega
  | succ others =>
    cases others with
    | zero =>
      have nobody : world.initializedCount = 0 := by omega
      refine ⟨_, rfl, ?_, ?_, ?_, nofun⟩
      · show 0 = held + world.initializedCount
        omega
      · simp [Lease.isOpen]
      · intro index opening holds
        obtain ⟨client, found, initialized⟩ := Option.bind_eq_some_iff.1 holds
        have blank := List.countP_eq_zero.1 nobody client (List.mem_of_getElem? found)
        rw [initialized] at blank
        exact absurd rfl blank
    | succ others =>
      refine ⟨_, rfl, ?_, ?_, leased.current, leased.numbered⟩
      · show others + 1 = held + world.initializedCount
        omega
      · have isOpen := leased.opened.2 (by omega)
        simpa [Lease.isOpen] using isOpen

/-- An outsider hands what it holds over to a client that is not initialized. -/
theorem handOver (leased : world.Leased (held + 1)) {index opening : Nat}
    (handle : world.shared.lease.handle = some opening) (inside : index < world.clients.length)
    (blank : world.openingOf index = none) :
    (world.setOpening index (some opening)).Leased held := by
  obtain ⟨client, found⟩ : ∃ client, world.clients[index]? = some client :=
    ⟨_, List.getElem?_eq_getElem inside⟩
  have none : client.opening = none := by simpa [openingOf, found] using blank
  have more := initializedCount_setOpening found (some opening)
  rw [none] at more
  refine ⟨?_, leased.opened, ?_, leased.numbered⟩
  · have count := leased.count
    show world.shared.lease.holders = _
    simp only [Option.toList_none, Option.toList_some, List.length_nil, List.length_singleton]
      at more
    omega
  · intro other known holds
    rw [openingOf_setOpening inside] at holds
    split at holds
    · cases holds
      exact handle
    · exact leased.current holds

/-- An initialized client hands what it holds over to an outsider. -/
theorem handBack (leased : world.Leased held) {index opening : Nat}
    (holds : world.openingOf index = some opening) :
    (world.setOpening index none).Leased (held + 1) := by
  obtain ⟨client, found, initialized⟩ := Option.bind_eq_some_iff.1 holds
  have fewer := initializedCount_setOpening found none
  rw [initialized] at fewer
  refine ⟨?_, leased.opened, ?_, leased.numbered⟩
  · have count := leased.count
    show world.shared.lease.holders = _
    simp only [Option.toList_none, Option.toList_some, List.length_nil, List.length_singleton]
      at fewer
    omega
  · intro other known stillHolds
    rw [openingOf_setOpening (List.getElem?_eq_some_iff.1 found).1] at stillHolds
    split at stillHolds
    · cases stillHolds
    · exact leased.current stillHolds

theorem congr {after : MemoryWorld} (leased : world.Leased held)
    (lease : after.shared.lease = world.shared.lease) (clients : after.clients = world.clients) :
    after.Leased held := by
  refine ⟨?_, ?_, ?_, ?_⟩
  · rw [lease, initializedCount, clients]
    exact leased.count
  · rw [lease]
    exact leased.opened
  · intro other opening holds
    rw [openingOf, clients] at holds
    rw [lease]
    exact leased.current holds
  · rw [lease]
    exact leased.numbered

theorem call (leased : world.Leased held) (index : Nat) (call : Call) :
    (MemoryWorld.call index call world).2.Leased held :=
  leased.congr (call_keeps index call world).1 (call_keeps index call world).2

end Leased

/-- Every client, the number of holders and the open store are as before. -/
structure Undisturbed (before after : MemoryWorld) : Prop where
  clients : after.clients = before.clients
  holders : after.shared.lease.holders = before.shared.lease.holders
  handle : after.shared.lease.handle = before.shared.lease.handle
  openings : after.shared.openings = before.shared.openings

theorem Undisturbed.refl (world : MemoryWorld) : world.Undisturbed world := ⟨rfl, rfl, rfl, rfl⟩

/-! ## Initialization and cleanup -/

theorem init_of_initialized {world : MemoryWorld} {index opening : Nat}
    (holds : world.openingOf index = some opening) :
    world.init opener index = (.error (.store .initializedTwice), world) := by
  rw [MemoryWorld.init, holds]

theorem cleanup_of_uninitialized {world : MemoryWorld} {index : Nat}
    (blank : world.openingOf index = none) :
    world.cleanup index = (.error (.store .cleanedUpBeforeInit), world) := by
  rw [MemoryWorld.cleanup, blank]

/-- A client that succeeds is initialized from then on, and no other one changes. -/
theorem isSome_openingOf_init {world after : MemoryWorld} {index : Nat}
    (inside : index < world.clients.length) (done : world.init opener index = (.ok (), after))
    (other : Nat) :
    (after.openingOf other).isSome ↔ other = index ∨ (world.openingOf other).isSome := by
  rw [MemoryWorld.init] at done
  split at done
  · cases done
  · split at done
    · cases done
    · next opening shared acquired =>
      cases done
      have acquirer : index < (MemoryWorld.clients { world with shared }).length := inside
      rw [openingOf_setOpening acquirer]
      by_cases same : other = index
      · simp [same]
      · simp [same, openingOf]

theorem isSome_openingOf_cleanup {world after : MemoryWorld} {index : Nat}
    (done : world.cleanup index = (.ok (), after)) (other : Nat) :
    (after.openingOf other).isSome ↔ other ≠ index ∧ (world.openingOf other).isSome := by
  rw [MemoryWorld.cleanup] at done
  split at done
  · cases done
  · next opening holds =>
    obtain ⟨client, found, _⟩ := Option.bind_eq_some_iff.1 holds
    have releaser : index < (MemoryWorld.clients
        { world with shared := world.shared.release.2 }).length :=
      (List.getElem?_eq_some_iff.1 found).1
    have form : after =
        MemoryWorld.setOpening { world with shared := world.shared.release.2 } index none :=
      (congrArg Prod.snd done).symm
    rw [form, openingOf_setOpening releaser]
    by_cases same : other = index
    · simp [same]
    · simp [same, openingOf]

namespace Leased

variable {held : Nat} {world : MemoryWorld} {index : Nat}

/-- A client becomes a holder, or the opener fails and everything stays as it was. -/
theorem init_of_uninitialized (leased : world.Leased held) (inside : index < world.clients.length)
    (blank : world.openingOf index = none) (opener : Nat → Except Failure Unit) :
    (∃ after, world.init opener index = (.ok (), after) ∧ after.Leased held ∧
        after.clients.length = world.clients.length) ∨
      ∃ fault, world.shared.lease.isOpen = false ∧
        opener world.shared.lease.opens = .error fault ∧
        world.init opener index = (.error fault, { world with shared := world.shared.refused }) ∧
        Leased held { world with shared := world.shared.refused } := by
  rcases leased.acquire opener with
    ⟨opening, shared, acquired, handle, more⟩ | ⟨fault, shut, failed, acquired, kept⟩
  · refine .inl ⟨MemoryWorld.setOpening { world with shared } index (some opening), ?_,
      more.handOver handle inside blank, List.length_modify ..⟩
    rw [MemoryWorld.init, blank, acquired]
  · refine .inr ⟨fault, ?_, failed, ?_, kept⟩
    · rw [Lease.isOpen, shut]
      rfl
    · rw [MemoryWorld.init, blank, acquired]

/-- An initialized client lets go. -/
theorem cleanup_of_initialized (leased : world.Leased held) {opening : Nat}
    (holds : world.openingOf index = some opening) :
    ∃ after, world.cleanup index = (.ok (), after) ∧ after.Leased held ∧
      after.clients.length = world.clients.length := by
  obtain ⟨shared, released, fewer⟩ := (leased.handBack holds).release
  have same : world.shared.release = (.ok (), shared) := released
  refine ⟨_, ?_, fewer, List.length_modify ..⟩
  rw [MemoryWorld.cleanup, holds, same]
  rfl

/-- Whatever comes of it, a call of a client leaves the holders in order. -/
theorem init (leased : world.Leased held) (inside : index < world.clients.length)
    (opener : Nat → Except Failure Unit) :
    (world.init opener index).2.Leased held ∧
      (world.init opener index).2.clients.length = world.clients.length := by
  cases holds : world.openingOf index with
  | some opening =>
    rw [init_of_initialized holds]
    exact ⟨leased, rfl⟩
  | none =>
    rcases leased.init_of_uninitialized inside holds opener with
      ⟨after, done, kept, size⟩ | ⟨fault, _, _, failed, kept⟩
    · rw [done]
      exact ⟨kept, size⟩
    · rw [failed]
      exact ⟨kept, rfl⟩

theorem cleanup (leased : world.Leased held) (index : Nat) :
    (world.cleanup index).2.Leased held ∧
      (world.cleanup index).2.clients.length = world.clients.length := by
  cases holds : world.openingOf index with
  | none =>
    rw [cleanup_of_uninitialized holds]
    exact ⟨leased, rfl⟩
  | some opening =>
    obtain ⟨after, done, kept, size⟩ := leased.cleanup_of_initialized holds
    rw [done]
    exact ⟨kept, size⟩

end Leased

end MemoryWorld

/-! ## Sequences of calls -/

/-- A store with its clients, and the number of leases that outsiders hold. -/
structure Custody where
  world : MemoryWorld
  held : Nat
  deriving DecidableEq

namespace Custody

variable {clients : Nat} {custody : Custody}

/-- What a call leaves behind.  An acquisition that fails gives its caller nothing, so an
outsider may let go only as often as one succeeded. -/
def step (opener : Nat → Except Failure Unit) (request : Request clients) (custody : Custody) :
    Option Custody :=
  let world := custody.world
  match request with
  | .init client => some { custody with world := (world.init opener client).2 }
  | .cleanup client => some { custody with world := (world.cleanup client).2 }
  | .data client call => some { custody with world := (MemoryWorld.call client call world).2 }
  | .acquire =>
    match world.shared.acquire opener with
    | (.ok _, shared) => some ⟨{ world with shared }, custody.held + 1⟩
    | (.error _, shared) => some ⟨{ world with shared }, custody.held⟩
  | .release =>
    if 0 < custody.held then
      some ⟨{ world with shared := world.shared.release.2 }, custody.held - 1⟩
    else none

/-- No client is missing, and the holders are in order. -/
def InOrder (clients : Nat) (custody : Custody) : Prop :=
  custody.world.clients.length = clients ∧ custody.world.Leased custody.held

theorem inOrder_of_step {after : Custody} (inOrder : custody.InOrder clients)
    (request : Request clients) (fires : step opener request custody = some after) :
    after.InOrder clients := by
  obtain ⟨size, leased⟩ := inOrder
  cases request with
  | init client =>
    cases fires
    obtain ⟨kept, same⟩ := leased.init (Nat.lt_of_lt_of_eq client.isLt size.symm) opener
    exact ⟨same.trans size, kept⟩
  | cleanup client =>
    cases fires
    obtain ⟨kept, same⟩ := leased.cleanup client
    exact ⟨same.trans size, kept⟩
  | data client call =>
    cases fires
    have clientsKept := (MemoryWorld.call_keeps client call custody.world).2
    exact ⟨(congrArg List.length clientsKept).trans size, leased.call client call⟩
  | acquire =>
    rcases leased.acquire opener with
      ⟨opening, shared, acquired, _, more⟩ | ⟨fault, _, _, acquired, kept⟩
    · rw [step, acquired] at fires
      cases fires
      exact ⟨size, more⟩
    · rw [step, acquired] at fires
      cases fires
      exact ⟨size, kept⟩
  | release =>
    rw [step] at fires
    split at fires
    next some_held =>
      cases fires
      obtain ⟨others, held⟩ := Nat.exists_eq_add_one_of_ne_zero (Nat.ne_of_gt some_held)
      rw [held] at leased
      obtain ⟨shared, released, fewer⟩ := leased.release
      refine ⟨size, ?_⟩
      rw [held, released]
      exact fewer
    next => cases fires

end Custody

/-- **Nobody is left on a store that was closed.**  After any calls of the clients and of
outsiders the holders are the initialized clients and the outsiders, the store is open while
there are any, and each initialized client holds the current opening.  So the cleanup of an
initialized client succeeds, the initialization of another one fails with the opener only,
and a call that fails changes neither clients nor holders nor the open store. -/
theorem lifecycle_in_order (opener : Nat → Except Failure Unit) (clients : List MemoryClient)
    (blank : ∀ client ∈ clients, client.opening = none) {custody : Custody}
    (path : Reaches (@Custody.step clients.length opener)
      ⟨MemoryWorld.opening clients, 0⟩ custody) :
    custody.world.Leased custody.held ∧
      ∀ client : Fin clients.length,
        let world := custody.world
        ((world.openingOf client).isSome →
            (world.cleanup client).1 = .ok () ∧
              (world.init opener client).1 = .error (.store .initializedTwice)) ∧
          (world.openingOf client = none →
            (world.cleanup client).1 = .error (.store .cleanedUpBeforeInit) ∧
              ∀ fault, (world.init opener client).1 = .error fault →
                world.shared.lease.isOpen = false ∧
                  opener world.shared.lease.opens = .error fault) ∧
          (∀ fault, (world.init opener client).1 = .error fault →
            world.Undisturbed (world.init opener client).2) ∧
          ∀ fault, (world.cleanup client).1 = .error fault →
            world.Undisturbed (world.cleanup client).2 := by
  obtain ⟨size, leased⟩ : custody.InOrder clients.length :=
    path.invariant ⟨rfl, .ofOpening blank⟩
      fun request _ _ inOrder fires => Custody.inOrder_of_step inOrder request fires
  refine ⟨leased, fun client => ?_⟩
  intro world
  have inside : client.val < world.clients.length :=
    Nat.lt_of_lt_of_eq client.isLt size.symm
  cases holds : world.openingOf client with
  | some opening =>
    obtain ⟨after, done, _, _⟩ := leased.cleanup_of_initialized holds
    rw [MemoryWorld.init_of_initialized holds, done]
    exact ⟨fun _ => ⟨rfl, rfl⟩, nofun, fun _ _ => .refl world, nofun⟩
  | none =>
    rw [MemoryWorld.cleanup_of_uninitialized holds]
    rcases leased.init_of_uninitialized inside holds opener with
      ⟨after, done, _, _⟩ | ⟨cause, shut, failed, refused, _⟩
    · rw [done]
      exact ⟨nofun, fun _ => ⟨rfl, nofun⟩, nofun, fun _ _ => .refl world⟩
    · rw [refused]
      refine ⟨nofun, fun _ => ⟨rfl, fun fault same => ?_⟩, fun _ _ => ⟨rfl, rfl, rfl, rfl⟩,
        fun _ _ => .refl world⟩
      cases same
      exact ⟨shut, failed⟩

/-- The opener fails once.  An outsider opens the store, two clients come and one goes, the store
is closed, and the client that comes then holds the opening after it. -/
theorem lifecycle_in_order_after_failed_opening :
    let opener : Nat → Except Failure Unit := fun opens =>
      if opens = 0 then .error (.store (.custom "no space")) else .ok ()
    let clients : List MemoryClient := [⟨.single, true, none⟩, ⟨.single, false, none⟩]
    let requests : List (Request clients.length) :=
      [.init 0, .acquire, .init 0, .init 0, .init 1, .cleanup 0, .release, .cleanup 1, .cleanup 1,
        .init 0]
    let custody : Custody :=
      ⟨⟨⟨⟨"memory", some 2, 1, 3⟩, [(2, Table.empty), (1, Table.empty)]⟩,
        [⟨.single, true, some 2⟩, ⟨.single, false, none⟩]⟩, 0⟩
    follow (Custody.step opener) requests ⟨MemoryWorld.opening clients, 0⟩ = some custody ∧
      (∀ client ∈ clients, client.opening = none) ∧ custody.world.Leased custody.held := by
  intro opener clients requests custody
  have ran : follow (Custody.step opener) requests ⟨MemoryWorld.opening clients, 0⟩ =
      some custody := by decide +kernel
  have blank : ∀ client ∈ clients, client.opening = none := by decide
  exact ⟨ran, blank, (lifecycle_in_order opener clients blank (reaches_of_follow ran)).1⟩

end StoreBench.Store
