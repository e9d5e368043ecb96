import StoreBench.Proofs.Phase.CallHistories
import StoreBench.Proofs.Phase.LoadThenRun

/-!
Contract: which data calls of a run phase can fail.

The load phase stores all initial records, in the shape that the options ask for, and the session
holds the store from then on.  So a run phase finds every record that it picks, unless a delete of
the same phase came first.

Owns:
- the store before a run phase, which is that behind the load phase;
- the outcomes of all data calls of a run phase, and the failed calls in its meter.

Does not own: load phases that fail.
-/

namespace StoreBench.Phase

open Latency Store
open Keys (keyRange recordKey)
open Mix (CallLog Tended Transactions)

variable {α : Type} [Aggregate α] {config : Config} {exits : Bool}

namespace Session

theorem isStandard {keys : String → Prop} {kind : Kind}
    (known : kind = .run → keys = config.mix.IsRecord)
    (short : config.mix.fieldLength.toNat < lengthBound) :
    (settingOf config exits kind).IsStandard config.mix keys :=
  ⟨rfl, rfl, known, short⟩

theorem silent_start [Aggregate.Counts α] (session : Session α) (kind : Kind) (world : MemoryWorld)
    (now : UInt64) (slot : Slot) :
    (session.start config exits kind world now).shared.meter.Silent slot :=
  Meter.silent_reset slot session.meter

/-- Behind a load phase the store is one that transactions find their records in. -/
theorem Course.tended [Aggregate.Counts α] {arrange : Array UInt64 → Array UInt64}
    (permutes : ∀ keys, (arrange keys).toList.Perm keys.toList) {work : Transactions}
    (created : Transactions.create arrange config.mix = .ok work)
    (short : config.mix.fieldLength.toNat < lengthBound)
    (load : Course config exits .load (Session.opening work : Session α)) {seed : UInt64}
    {workers : Nat} {world : MemoryWorld}
    (built : buildAll (memoryEnvironment seed config.store).build workers
      ⟨load.after.shared, []⟩ = .ok world) :
    load.after.work.options = config.mix ∧
      ∃ store : OrderedStore workers, Tended config.mix config.mix.IsRecord []
        (fun _ => config.store.decodesOnRead) world store := by
  obtain ⟨options, fits, ⟨initial, initialPerm, draws⟩, _⟩ :=
    Transactions.draws_of_create permutes created
  -- the keys behind the load phase
  obtain ⟨drawn, _, contents, kept, _, known, keys, all, _⟩ :=
    load.keys nofun options (initialPerm.length_eq.trans (Keys.length_keyRange ..)) draws
      Nat.one_pos (holds_opening work)
  rw [all rfl, List.take_length, Finmap.keys_empty, Finset.empty_union] at keys
  -- the shape of the rows under them
  have represents := represents_of_buildAll load.built (holds_opening work)
  have blank : Tended config.mix (fun _ => False) [] (fun _ => config.store.decodesOnRead)
      load.world ⟨fun _ => ∅, ∅, 1⟩ :=
    ⟨represents, Nat.one_pos, OrderedStore.AllRows.congr OrderedStore.allRows_unheld rfl, nofun⟩
  have replied := State.Replied.of_follow (isStandard (by nofun) short) options blank
    (silent_start (Session.opening work) .load load.world load.now) load.followed
  obtain ⟨store, engaged⟩ := replied.engaged
  have holds : load.after.shared.Holds (store.held + store.initialized.card) store.contents :=
    engaged.tended.represents.holds
  refine ⟨kept, _, represents_of_buildAll built holds, Nat.add_pos_left engaged.tended.held _,
    engaged.tended.shaped, ?_⟩
  rintro _ ⟨record, below, rfl⟩
  refine .inl ?_
  show recordKey record.toUInt64 ∈ (store.contents config.mix.table).keys
  rw [← (holds.keysOf config.mix.table).2, (known.keysOf config.mix.table).2, keys,
    List.mem_toFinset]
  refine List.mem_map_of_mem (initialPerm.mem_iff.2 ?_)
  rw [Keys.toList_keyRange]
  exact List.mem_map.2 ⟨record, List.mem_range.2 below, UInt64.zero_add _⟩

end Session

/-- **A run phase misses deleted rows only.**  Take any configuration whose workload can be created
and whose values the row format can hold: any number of workers, any mix, and any order in which
the keys of a range are put.  A session holds the store, and its load phase has answered a report,
whichever course it took.  At every moment of the run phase behind it, in every schedule and with
any clocks and choices, every data call so far has succeeded, or it was a read or an update that
found nothing, of a row that a call of the phase before it had deleted.  So among the slots of
failed calls only those of reads and updates can have taken in anything, neither as a sample nor as
warm-up, and without deletes in the mix none has. -/
theorem run_misses_only_deleted (strategy : Strategy) (config : Config) (exits : Bool)
    {arrange : Array UInt64 → Array UInt64}
    (permutes : ∀ keys, (arrange keys).toList.Perm keys.toList) {work : Transactions}
    (created : Transactions.create arrange config.mix = .ok work)
    (short : config.mix.fieldLength.toNat < 2 ^ 32)
    (load : Session.Course config exits .load (Session.opening work : Session strategy.Cell))
    {seed : UInt64} {world : MemoryWorld}
    (built : buildAll (memoryEnvironment seed config.store).build
      (Session.settingOf config exits .run).workers ⟨load.after.shared, []⟩ = .ok world)
    {now : UInt64} {moves : List Move} {state : State strategy.Cell Transactions MemoryWorld}
    (followed : follow (State.step (Session.settingOf config exits .run)) moves
      (load.after.start config exits .run world now) = some state) :
    let table := config.mix.table
    let log := (load.after.start config exits .run world now).callsAlong
      (Session.settingOf config exits .run) moves
    (∀ earlier call outcome later, log = earlier ++ (call, outcome) :: later →
      outcome = .ok .ok ∨
        outcome = .ok .notFound ∧ ∃ key, (.delete table key, .ok .ok) ∈ earlier ∧
          ((∃ fields, call = .read table key fields) ∨
            ∃ values, call = .update table key values)) ∧
    (∀ operation, operation ≠ .read → operation ≠ .update →
      state.shared.meter.snapshot? ⟨operation, true⟩ = none ∧
        state.shared.meter.warmups.get ⟨operation, true⟩ = 0) ∧
    ((config.mix.deleteProportion == 0.0) = true → ∀ operation,
      state.shared.meter.snapshot? ⟨operation, true⟩ = none ∧
        state.shared.meter.warmups.get ⟨operation, true⟩ = 0) := by
  intro table log
  obtain ⟨options, store, tended⟩ := load.tended permutes created short built
  have replied : state.Replied config.mix config.mix.IsRecord
      (fun _ => config.store.decodesOnRead) log :=
    .of_follow (Session.isStandard (fun _ => rfl) short) options tended
      (Session.silent_start load.after .run world now) followed
  refine ⟨?_, ?_, ?_⟩
  · intro earlier call outcome later split
    cases (replied.sound earlier call outcome later split).2 with
    | succeeds => exact .inl rfl
    | readsNothing deleted => exact .inr ⟨rfl, _, deleted, .inl ⟨_, rfl⟩⟩
    | updatesNothing deleted => exact .inr ⟨rfl, _, deleted, .inr ⟨_, rfl⟩⟩
  · intro operation noRead noUpdate
    exact replied.spares operation fun fails => (fails.elim noRead noUpdate).elim
  · intro noDeletes operation
    exact replied.spares operation fun _ => replied.sound.no_deletes noDeletes

/-- Two workers share three operations.  The first deletes a record, and then the second looks for
it. -/
theorem run_misses_only_deleted_of_read_behind_delete :
    let config := { Config.default with
      threads := 2
      mix := { Mix.Options.default with
        recordCount := 2, operationCount := 3, fieldLength := 2
        readProportion := 0.5, updateProportion := 0.0, deleteProportion := 0.5 } }
    let setting := Session.settingOf config true .run
    let table := config.mix.table
    let turns (worker : Nat) (choice : Nat) : List Move :=
      List.replicate 10 (.worker worker ⟨0, choice, fun _ => 0⟩)
    let moves := [.spawn none, .spawn none] ++ turns 0 1 ++ turns 1 0
    (∀ keys : Array UInt64, keys.reverse.toList.Perm keys.toList) ∧
    config.mix.fieldLength.toNat < 2 ^ 32 ∧
    ∃ (work : Transactions)
      (load : Session.Course config true .load (Session.opening work : Session Summary))
      (world : MemoryWorld) (state : State Summary Transactions MemoryWorld)
      (first second : Call × Except Failure Status),
      Transactions.create Array.reverse config.mix = .ok work ∧
      buildAll (memoryEnvironment 0 config.store).build setting.workers
        ⟨load.after.shared, []⟩ = .ok world ∧
      follow (State.step setting) moves (load.after.start config true .run world 0) = some state ∧
      (load.after.start config true .run world 0).callsAlong setting moves = [first, second] ∧
      second.2 = .ok .notFound ∧
      (∃ key, first = (.delete table key, .ok .ok) ∧ ∃ fields, second.1 = .read table key fields) ∧
      (state.shared.meter.snapshot? ⟨.read, true⟩).isSome ∧
      state.shared.meter.snapshot? ⟨.delete, true⟩ = none := by
  intro config setting table turns moves
  have permutes (keys : Array UInt64) : keys.reverse.toList.Perm keys.toList := by
    rw [Array.toList_reverse]
    exact List.reverse_perm _
  have short : config.mix.fieldLength.toNat < 2 ^ 32 := by decide
  let brief (entry : Call × Except Failure Status) := (entry.1.operation, entry.2.toOption)
  have ran : (Transactions.create Array.reverse config.mix).toOption.any (fun work =>
      let loaded := (Session.opening work : Session Summary).runPhase 4 config true .load
      loaded.1.any (·.toOption.isSome) &&
        (buildAll (memoryEnvironment 0 config.store).build setting.workers
          ⟨loaded.2.2.shared, []⟩).toOption.any fun world =>
            let start := loaded.2.2.start config true .run world 0
            (follow (State.step setting) moves start).any fun state =>
              (start.callsAlong setting moves).map brief ==
                  [(.delete, some .ok), (.read, some .notFound)] &&
                (state.shared.meter.snapshot? ⟨.read, true⟩).isSome) = true := by
    decide +kernel
  obtain ⟨work, created, ran⟩ := (Option.any_eq_true _ _).1 ran
  simp only [Bool.and_eq_true] at ran
  obtain ⟨loaded, ran⟩ := ran
  obtain ⟨_, loaded, reports⟩ := (Option.any_eq_true _ _).1 loaded
  obtain ⟨report, reports⟩ := Option.isSome_iff_exists.1 reports
  rw [ok_of_toOption reports] at loaded
  obtain ⟨load, _, after⟩ := Session.exists_course loaded
  rw [← after] at ran
  obtain ⟨world, built, ran⟩ := (Option.any_eq_true _ _).1 ran
  obtain ⟨state, followed, facts⟩ := (Option.any_eq_true _ _).1 ran
  rw [Bool.and_eq_true, beq_iff_eq] at facts
  obtain ⟨recorded, sampled⟩ := facts
  obtain ⟨first, rest, log, deletes, recorded⟩ := List.map_eq_cons_iff.1 recorded
  obtain ⟨second, nothing, rfl, reads, recorded⟩ := List.map_eq_cons_iff.1 recorded
  cases List.map_eq_nil_iff.1 recorded
  obtain ⟨answers, spared, _⟩ := run_misses_only_deleted .basic config true permutes
    (ok_of_toOption created) short load (ok_of_toOption built) followed
  have missed : second.2 = .ok .notFound := ok_of_toOption (congrArg Prod.snd reads)
  refine ⟨permutes, short, work, load, world, state, first, second, ok_of_toOption created,
    ok_of_toOption built, followed, log, missed, ?_, sampled, (spared .delete nofun nofun).1⟩
  rcases answers [first] second.1 second.2 [] log with found | ⟨_, key, deleted, asked⟩
  · rw [missed] at found
    cases found
  · refine ⟨key, (List.mem_singleton.1 deleted).symm, ?_⟩
    rcases asked with asked | ⟨values, asked⟩
    · exact asked
    · have operation := congrArg Prod.fst reads
      simp only [brief, asked] at operation
      cases operation

end StoreBench.Phase
