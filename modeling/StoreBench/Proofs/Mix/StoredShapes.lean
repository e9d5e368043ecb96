import StoreBench.Mix.Traffic
import StoreBench.Proofs.Mix.CallAnswers

/-!
Contract: all rows that threads of the standard workload store have the same shape.

A thread whose call is about to be answered calls for a whole row, for values of fields that every
row has, or for nothing to be written.  So whoever calls next, the store has rows of the shape
before and after.

Owns:
- `ClientState.Admitted`, what the threads may be about to call for;
- `Traffic.Shaped`, the invariant of the threads and their store;
- the shape of all rows, at every moment.

Does not own: which rows there are.
-/

namespace StoreBench.Mix

open Store

variable {options : Options}

/-! ## Threads -/

/-- Every call of a thread is one that the options admit. -/
structure ClientState.Admitted (options : Options) (threads : ClientState) : Prop where
  same : threads.work.options = options
  calls : ∀ task, .calling task ∈ threads.clients → options.Admits options.IsRecord task.call

namespace ClientState.Admitted

variable {threads after : ClientState} {thread : Nat}

theorem set (admitted : threads.Admitted options) {stage : ClientStage}
    (same : after.work.options = options)
    (changed : after.clients = threads.clients.set thread stage)
    (calls : ∀ task, stage = .calling task → options.Admits options.IsRecord task.call) :
    after.Admitted options := by
  refine ⟨same, fun task member => ?_⟩
  rw [changed] at member
  rcases List.mem_or_eq_of_mem_set member with old | new
  · exact admitted.calls task old
  · exact calls task new.symm

/-- Whatever a thread does in a transaction, it calls for nothing else. -/
theorem step (admitted : threads.Admitted options) {move : ClientMove}
    (steps : threads.step move = some after) : after.Admitted options := by
  have same := admitted.same
  cases advance_of_step steps with
  | begun found begins =>
    cases begins with
    | inserts => exact admitted.set same rfl nofun
    | calls asked occurs =>
      refine admitted.set same rfl fun task stands => ?_
      cases stands
      rw [Transactions.operations, same] at occurs
      rw [same] at asked
      exact Transactions.admits_of_callOf asked occurs
    | stops => exact admitted.set same rfl nofun
  | noted =>
    refine admitted.set same rfl fun task stands => ?_
    cases stands
    rw [← same]
    exact .insert (Transactions.hasShape_fullRow ..)
  | @answered _ task outcome =>
    refine admitted.set same rfl fun other stands => ?_
    cases outcome <;> cases stands
  | settled =>
    exact admitted.set ((Transactions.settle_eq ..).2.2.trans same) rfl nofun

theorem load (admitted : threads.Admitted options) {choices : Choices}
    (loads : threads.load thread choices = some after) : after.Admitted options := by
  have same := admitted.same
  rw [ClientState.load] at loads
  split at loads
  · next task work found plan =>
    cases plan
    cases loads
    refine admitted.set same rfl fun other stands => ?_
    cases stands
    rw [← same]
    exact .insert (Transactions.hasShape_fullRow ..)
  · cases loads

end ClientState.Admitted

/-! ## Threads and store -/

namespace Traffic

variable {clients : Nat} {decodes : Fin clients → Bool} {traffic after : Traffic}

/-- The threads call for what the options admit, and the store has rows of the shape only. -/
structure Shaped (options : Options) (decodes : Fin clients → Bool) (traffic : Traffic) :
    Prop where
  threads : traffic.threads.Admitted options
  stored : ∃ store : OrderedStore clients, Represents decodes traffic.world store ∧
    store.held = traffic.held ∧ store.AllRows options.table options.HasShape

theorem shaped_opening (work : Transactions) (threads : Nat) (decodes : Fin clients → Bool) :
    (opening work threads (clientsOf decodes fun _ => none)).Shaped work.options decodes := by
  refine ⟨⟨rfl, fun task member => ?_⟩, _, .fresh, rfl, OrderedStore.allRows_unheld⟩
  cases List.eq_of_mem_replicate member

/-- A request is answered as the ordered store answers it, and its rows keep their shape. -/
theorem Shaped.answered (shaped : traffic.Shaped options decodes) (request : Request clients)
    (keeps : ∀ client call, request = .data client call → options.Admits options.IsRecord call)
    (free : request = .release → 0 < traffic.held) :
    ∃ store : OrderedStore clients,
      Represents decodes (MemoryWorld.answer request traffic.world).2 store ∧
        store.held = request.leases traffic.held ∧
        store.AllRows options.table options.HasShape := by
  obtain ⟨store, represents, held, all⟩ := shaped.stored
  have balanced : Balanced store.held [request] := by
    cases request with
    | release => exact ⟨held ▸ free rfl, trivial⟩
    | _ => trivial
  refine ⟨_, (represents.answeredAlike balanced).represents, ?_,
    all.answer (fun client call asked => (keeps client call asked).keeps) decodes⟩
  rw [OrderedStore.answer_held, held]

theorem Shaped.size (shaped : traffic.Shaped options decodes) :
    traffic.world.clients.length = clients := by
  obtain ⟨store, represents, _⟩ := shaped.stored
  rw [represents.holding, clientsOf, List.length_ofFn]

theorem Shaped.step (shaped : traffic.Shaped options decodes) {move : TrafficMove}
    (steps : traffic.step move = some after) : after.Shaped options decodes := by
  cases move with
  | load thread choices =>
    obtain ⟨threads, loads, rfl⟩ := Option.map_eq_some_iff.1 steps
    exact ⟨shaped.threads.load loads, shaped.stored⟩
  | begin | note | settle =>
    obtain ⟨threads, moves, rfl⟩ := Option.map_eq_some_iff.1 steps
    exact ⟨shaped.threads.step moves, shaped.stored⟩
  | call thread client =>
    simp only [Traffic.step] at steps
    split at steps
    · next task found =>
      obtain ⟨threads, moves, rfl⟩ := Option.map_eq_some_iff.1 steps
      have admits := shaped.threads.calls task (List.mem_of_getElem? found)
      refine ⟨shaped.threads.step moves, ?_⟩
      by_cases inside : client < clients
      · exact shaped.answered (.data ⟨client, inside⟩ task.call)
          (fun _ _ asked => by cases asked; exact admits) (by simp)
      · -- a client that does not exist answers nothing and does nothing
        have absent : traffic.world.clients[client]? = none :=
          List.getElem?_eq_none (shaped.size ▸ Nat.not_lt.1 inside)
        rw [MemoryWorld.call, absent]
        exact shaped.stored
    · cases steps
  | init client =>
    simp only [Traffic.step] at steps
    split at steps
    · next inside =>
      cases steps
      rw [shaped.size] at inside
      exact ⟨shaped.threads, shaped.answered (.init ⟨client, inside⟩) (by simp) (by simp)⟩
    · cases steps
  | cleanup client =>
    simp only [Traffic.step] at steps
    split at steps
    · next inside =>
      cases steps
      rw [shaped.size] at inside
      exact ⟨shaped.threads, shaped.answered (.cleanup ⟨client, inside⟩) (by simp) (by simp)⟩
    · cases steps
  | acquire =>
    cases steps
    exact ⟨shaped.threads, shaped.answered .acquire (by simp) (by simp)⟩
  | release =>
    simp only [Traffic.step] at steps
    split at steps
    · next free =>
      cases steps
      exact ⟨shaped.threads, shaped.answered .release (by simp) fun _ => free⟩
    · cases steps

/-! ## Main result -/

/-- **Rows never change their shape.**  Whatever the options, the number of threads and clients,
the random choices, and the order in which the threads store records and make transactions and the
store is held and let go of: every row in the table of the workload is one of all fields, each under
its own name and in its place, with values of the length that the options ask for, of ASCII digits
and letters. -/
theorem stored_rows_keep_shape (work : Transactions) (threads : Nat) {clients : Nat}
    (decodes : Fin clients → Bool) {traffic : Traffic}
    (path : Reaches Traffic.step (.opening work threads (clientsOf decodes fun _ => none)) traffic)
    {opening : Nat} (handle : traffic.world.shared.lease.handle = some opening)
    {entry : String × List UInt8}
    (member : entry ∈ ((traffic.world.shared.tables opening).rows work.options.table).entries) :
    ∃ row, Format.single.decode entry.2 = .ok row ∧
      row.map Field.name =
        (List.range work.options.fieldCount.toNat).map (fun index => "field" ++ toString index) ∧
      (row.map Field.name).Nodup ∧
      ∀ field ∈ row, field.value.length = work.options.fieldLength.toNat ∧
        ∀ byte ∈ field.value, IsAlphanumeric byte := by
  have shaped : traffic.Shaped work.options decodes :=
    path.invariant (shaped_opening work threads decodes) fun _ _ _ before fires =>
      before.step fires
  obtain ⟨store, represents, _, all⟩ := shaped.stored
  obtain ⟨row, decoded, fits⟩ := represents.decoded all handle member
  refine ⟨row, decoded, fits.names, ?_, fits.values⟩
  rw [fits.names]
  exact work.options.nodup_fieldNames

/-- Two threads store two records on two clients, one of which only looks for rows.  The first
record is then updated in one field, by the client that did not store it, while the other thread
inserts a third record. -/
theorem stored_rows_keep_shape_of_partial_update :
    let options := { Options.default with
      recordCount := 2, operationCount := 2, fieldCount := 3, fieldLength := 2
      readProportion := 0.0, updateProportion := 0.5, insertProportion := 0.5
      writeAllFields := false }
    let moves : List TrafficMove :=
      [.init 0, .load 0 ⟨0, id⟩, .load 1 ⟨0, id⟩, .init 1, .call 0 1, .settle 0,
        .begin 0 ⟨0, fun _ => 4⟩, .call 1 0, .call 0 0, .settle 1, .begin 1 ⟨1, id⟩, .note 1,
        .settle 0, .call 1 1]
    let decodes : Fin 2 → Bool := (· == 0)
    ∃ work traffic entry, Transactions.create Array.reverse options = .ok work ∧
      follow Traffic.step moves (.opening work 2 (clientsOf decodes fun _ => none)) =
        some traffic ∧
      traffic.world.shared.lease.handle = some 0 ∧
      ((traffic.world.shared.tables 0).rows work.options.table).size = 3 ∧
      entry ∈ ((traffic.world.shared.tables 0).rows work.options.table).entries ∧
      ∃ row, Format.single.decode entry.2 = .ok row ∧
        row.map Field.name = ["field0", "field1", "field2"] ∧
        row.map Field.value = [[68, 69], [69, 69], [72, 73]] ∧
        ∀ field ∈ row, ∀ byte ∈ field.value, IsAlphanumeric byte := by
  intro options moves decodes
  have ran : (Transactions.create Array.reverse options).toOption.any (fun work =>
      work.options.fieldCount == 3 &&
      (follow Traffic.step moves (.opening work 2 (clientsOf decodes fun _ => none))).any
        fun traffic =>
          let rows := (traffic.world.shared.tables 0).rows work.options.table
          traffic.world.shared.lease.handle == some 0 && rows.size == 3 &&
            rows.entries.head?.any fun entry =>
              (Format.single.decode entry.2).toOption.any fun row =>
                row.map Field.value == [[68, 69], [69, 69], [72, 73]]) = true := by
    decide +kernel
  obtain ⟨work, created, ends⟩ := (Option.any_eq_true _ _).1 ran
  simp only [Bool.and_eq_true, beq_iff_eq] at ends
  obtain ⟨three, ends⟩ := ends
  obtain ⟨traffic, followed, facts⟩ := (Option.any_eq_true _ _).1 ends
  simp only [Bool.and_eq_true, beq_iff_eq] at facts
  obtain ⟨⟨handle, size⟩, updated⟩ := facts
  obtain ⟨entry, first, reads⟩ := (Option.any_eq_true _ _).1 updated
  obtain ⟨written, decoded, values⟩ := (Option.any_eq_true _ _).1 reads
  have member := List.mem_of_mem_head? (Option.mem_def.2 first)
  obtain ⟨row, same, names, _, shaped⟩ :=
    stored_rows_keep_shape work 2 decodes (reaches_of_follow followed) handle member
  cases (ok_of_toOption decoded).symm.trans same
  refine ⟨work, traffic, entry, ok_of_toOption created, followed, handle, size, member, written,
    same, ?_, eq_of_beq values, fun field inside => (shaped field inside).2⟩
  rw [names, three]
  decide

end Traffic

end StoreBench.Mix
