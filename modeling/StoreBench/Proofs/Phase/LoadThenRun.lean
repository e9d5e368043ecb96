import StoreBench.Phase.Session
import StoreBench.Proofs.Config.Split
import StoreBench.Proofs.Phase.KeyHistories
import StoreBench.Proofs.Scheduling

/-!
Contract: the keys that a load phase and a run phase behind it leave in the store.

The session holds the store from its beginning on, so the rows of the load phase are there in the
run phase.  The load phase draws all keys of its range; the run phase draws behind that range.

Owns:
- `Session.Course`, the ways in which a phase of a session can come to its report;
- the keys after the load phase, and after the run phase.

Does not own: what happens when a phase fails.
-/

namespace StoreBench.Phase

open Latency Store
open Keys (keyRange recordKey)
open Mix (Transactions)

variable {α : Type} [Aggregate α]

namespace Session

/-! ## Courses -/

/-- What is fixed for a phase of a session. -/
def settingOf (config : Config) (exits : Bool) (kind : Kind) : Setting Transactions MemoryWorld :=
  Phase.settingOf config kind exits Transactions.workload MemoryWorld.backend

/-- A phase of a session about to begin. -/
def start (config : Config) (exits : Bool) (kind : Kind) (session : Session α)
    (world : MemoryWorld) (now : UInt64) : State α Transactions MemoryWorld :=
  let setting := settingOf config exits kind
  State.opening setting world session.work (session.meter.reset.setTarget setting.warmupTotal) now

/-- A course that a phase of a session can take to its report: each worker has got a client, and
then the threads move in some order, with any clocks and any choices. -/
structure Course (config : Config) (exits : Bool) (kind : Kind) (session : Session α) where
  seed : UInt64
  world : MemoryWorld
  built : buildAll (memoryEnvironment seed config.store).build
    (settingOf config exits kind).workers ⟨session.shared, []⟩ = .ok world
  now : UInt64
  moves : List Move
  state : State α Transactions MemoryWorld
  followed : follow (State.step (settingOf config exits kind)) moves
    (session.start config exits kind world now) = some state
  report : Report
  answered : state.report? (settingOf config exits kind) = some (.ok report)

variable {config : Config} {exits : Bool} {kind : Kind} {session : Session α}

/-- The session after the phase. -/
def Course.after (course : Course config exits kind session) : Session α :=
  ⟨course.state.shared.world.shared, course.state.shared.work, course.state.shared.meter⟩

/-- The inserts that the workers made, in the order in which they asked for them. -/
def Course.inserts (course : Course config exits kind session) : List Mix.Task :=
  Mix.inserts ((session.start config exits kind course.world course.now).tasksAlong
    (settingOf config exits kind) course.moves)

/-- A phase that the program runs to its report takes a course. -/
theorem exists_course {seed : UInt64} {report : Report}
    (answered : (session.runPhase seed config exits kind).1 = some (.ok report)) :
    ∃ course : Course config exits kind session,
      course.report = report ∧ course.after = (session.runPhase seed config exits kind).2.2 := by
  simp only [runPhase, Phase.runPhase] at answered ⊢
  split at answered
  · cases answered
  · next world built =>
    obtain ⟨moves, followed⟩ := exists_follow (reaches_drive _ _ _ _ _)
    exact ⟨⟨seed, world, built, _, moves, _, followed, report, answered⟩, rfl, rfl⟩

/-! ## Stores -/

/-- Every worker has a client of its own, which is not initialized. -/
theorem clients_of_buildAll {seed : UInt64} {options : Store.Options} {shared : SharedMemory}
    {workers : Nat} {world : MemoryWorld}
    (built : buildAll (memoryEnvironment seed options).build workers ⟨shared, []⟩ = .ok world) :
    world = ⟨shared, List.replicate workers ⟨.single, options.decodesOnRead, none⟩⟩ := by
  induction workers generalizing world with
  | zero =>
    cases built
    rfl
  | succ workers inductionHypothesis =>
    rw [buildAll, List.range_succ, List.foldlM_append] at built
    obtain ⟨before, others, rest⟩ := bind_eq_ok_iff.1 built
    obtain ⟨after, last, rest⟩ := bind_eq_ok_iff.1 rest
    cases rest
    obtain ⟨client, known, added⟩ := bind_eq_ok_iff.1 last
    obtain ⟨format, _, made⟩ := bind_eq_ok_iff.1 known
    cases format
    cases made
    cases added
    rw [inductionHypothesis others, List.replicate_succ']

/-- Before a phase nobody but outsiders holds the store. -/
theorem represents_of_buildAll {seed : UInt64} {options : Store.Options} {shared : SharedMemory}
    {workers holders : Nat} {contents : Contents} {world : MemoryWorld}
    (built : buildAll (memoryEnvironment seed options).build workers ⟨shared, []⟩ = .ok world)
    (holds : shared.Holds holders contents) :
    Represents (fun _ : Fin workers => options.decodesOnRead) world ⟨contents, ∅, holders⟩ := by
  rw [clients_of_buildAll built]
  refine ⟨holds, ?_⟩
  simp [clientsOf]

theorem holds_opening (work : Transactions) :
    (opening work : Session α).shared.Holds 1 fun _ => ∅ := by
  have shut : SharedMemory.closed.Holds 0 fun _ => ∅ := .ofShut rfl rfl
  obtain ⟨opening, after, acquired, _, _, holds⟩ := shut.acquire
  rw [Session.opening, acquired]
  exact holds

omit [Aggregate α] in
theorem rows_eq (session : Session α) (table : String) :
    session.rows table = (session.shared.keysOf table).length := by
  rw [rows, SharedMemory.keysOf]
  cases session.shared.lease.handle with
  | some opening => exact (List.length_map _).symm
  | none => rfl

/-! ## Keys -/

/-- The keys of a phase of a configuration, which are as many as its operations. -/
def supplyOf (config : Config) (exits : Bool) (kind : Kind)
    (noDeletes : kind = .run → (config.mix.deleteProportion == 0.0) = true) (order : List UInt64)
    (enough : order.length = (config.phaseOps kind).toNat) (before : Finset String) :
    Supply (settingOf config exits kind) where
  options := config.mix
  order := order
  decodes := fun _ => config.store.decodesOnRead
  before := before
  workload := rfl
  clients := rfl
  noDeletes := noDeletes
  enough := enough.trans (config.total_opsPerWorker kind).symm
  small := enough ▸ (config.phaseOps kind).toNat_lt

/-- The keys behind a phase, given those that stand in line before it. -/
theorem Course.keys (course : Course config exits kind session)
    (noDeletes : kind = .run → (config.mix.deleteProportion == 0.0) = true)
    (options : session.work.options = config.mix) {order : List UInt64}
    (enough : order.length = (config.phaseOps kind).toNat)
    (draws : session.work.Draws kind order 0) {holders : Nat} {contents : Contents}
    (held : 0 < holders) (holds : session.shared.Holds holders contents) :
    ∃ drawn holders others, course.after.work.options = config.mix ∧ 0 < holders ∧
      course.after.shared.Holds holders others ∧
      (others config.mix.table).keys =
        (contents config.mix.table).keys ∪ ((order.take drawn).map recordKey).toFinset ∧
      (kind = .load → drawn = order.length) ∧
      List.Forall₂ (Transactions.Inserts kind config.mix.table) (order.take drawn)
        course.inserts := by
  let supply := supplyOf config exits kind noDeletes order enough
    (contents config.mix.table).keys
  have represents := represents_of_buildAll course.built holds
  have ready : supply.Ready ⟨contents, ∅, holders⟩ session.work course.world :=
    ⟨options, draws, represents, held, rfl⟩
  obtain ⟨drawn, holders, others, same, held, holds, keys, all, feeds⟩ :=
    keys_of_report supply ready course.followed course.answered
  obtain ⟨fed, whole, inserts⟩ := feeds
  rw [List.take_zero, List.nil_append] at whole
  exact ⟨drawn, holders, others, same, held, holds, keys, all, whole ▸ inserts⟩

end Session

/-- The keys of a store whose table has exactly those of distinct numbers. -/
theorem perm_of_holds {shared : SharedMemory} {holders : Nat} {contents : Contents}
    (holds : shared.Holds holders contents) {table : String} {numbers : List UInt64}
    (distinct : numbers.Nodup)
    (keys : (contents table).keys = (numbers.map recordKey).toFinset) :
    (shared.keysOf table).Perm (numbers.map recordKey) := by
  obtain ⟨once, members⟩ := holds.keysOf table
  refine List.perm_of_nodup_nodup_toFinset_eq once (distinct.map Keys.recordKey_injective) ?_
  rw [members, keys]

/-- **What a load phase and a run phase leave in the store.**  Take any configuration without
deletes whose workload can be created, so its keys all have 64 bits: any number of workers, either
insert order, and any order in which the keys of a range are put.  A session acquires the store,
which is closed, and holds it from then on.  After a load phase that answers a report, whichever
course it took, the table has exactly the keys of the numbers below the record count.  After a run
phase that answers a report it has these, and the keys of the numbers that the inserts have drawn,
one for each; they are different, and none is below the record count.  So there are as many rows as
records and inserts together. -/
theorem load_then_run_keys (config : Config) (exits : Bool)
    {arrange : Array UInt64 → Array UInt64}
    (permutes : ∀ keys, (arrange keys).toList.Perm keys.toList) {work : Transactions}
    (created : Transactions.create arrange config.mix = .ok work)
    (noDeletes : (config.mix.deleteProportion == 0.0) = true)
    (load : Session.Course config exits .load (Session.opening work : Session α))
    (run : Session.Course config exits .run load.after) :
    let table := config.mix.table
    let records := (List.range config.mix.recordCount.toNat).map fun record =>
      recordKey record.toUInt64
    (load.after.shared.keysOf table).Perm records ∧
      ∃ drawn : List UInt64,
        List.Forall₂ (fun key task => ∃ row, task = ⟨.insert table (recordKey key) row, some key⟩)
            drawn run.inserts ∧
          drawn.Nodup ∧ (∀ key ∈ drawn, config.mix.recordCount ≤ key) ∧
          (run.after.shared.keysOf table).Perm (records ++ drawn.map recordKey) ∧
          run.after.rows table = config.mix.recordCount.toNat + run.inserts.length := by
  intro table records
  obtain ⟨options, fits, ⟨initial, initialPerm, loadDraws⟩, fresh, freshPerm, runDraws⟩ :=
    Transactions.draws_of_create permutes created
  have once : (initial ++ fresh).Nodup :=
    (initialPerm.append freshPerm).nodup_iff.2 (Keys.nodup_ranges fits)
  have listed : (initial.map recordKey).Perm records := by
    refine (initialPerm.map recordKey).trans (.of_eq ?_)
    simp only [Keys.toList_keyRange, List.map_map, Function.comp_def, UInt64.zero_add, records]
  -- the load phase draws all keys of its range
  obtain ⟨drawn, holders, contents, kept, held, holds, keys, all, _⟩ :=
    load.keys nofun options (initialPerm.length_eq.trans (Keys.length_keyRange ..)) loadDraws
      Nat.one_pos (Session.holds_opening work)
  rw [all rfl, List.take_length, Finmap.keys_empty, Finset.empty_union] at keys
  refine ⟨(perm_of_holds holds once.of_append_left keys).trans listed, ?_⟩
  -- the run phase draws from keys that the load phase has left
  have loads : (Session.settingOf config exits .load).kind = .load := rfl
  have pool := pool_of_load loads rfl (reaches_of_follow load.followed)
  have draws : load.after.work.Draws .run fresh 0 := by
    rw [Transactions.Draws, Session.Course.after, pool]
    exact runDraws
  obtain ⟨count, _, others, _, _, runHolds, runKeys, _, inserts⟩ :=
    run.keys (fun _ => noDeletes) kept (freshPerm.length_eq.trans (Keys.length_keyRange ..)) draws
      held holds
  have part : (fresh.take count).Sublist fresh := List.take_sublist ..
  have apart : (initial ++ fresh.take count).Nodup := once.sublist (part.append_left initial)
  rw [keys, ← List.toFinset_append, ← List.map_append] at runKeys
  have stored :
      (run.after.shared.keysOf table).Perm (records ++ (fresh.take count).map recordKey) := by
    have whole := perm_of_holds runHolds apart runKeys
    rw [List.map_append] at whole
    exact whole.trans (listed.append_right _)
  have behind : ∀ key ∈ fresh.take count, config.mix.recordCount ≤ key := by
    intro key member
    have ranged := freshPerm.mem_iff.1 (part.subset member)
    exact UInt64.le_iff_toNat_le.2 (Keys.mem_keyRange fits ranged).1
  refine ⟨fresh.take count, inserts, apart.of_append_right, behind, stored, ?_⟩
  rw [Session.rows_eq, stored.length_eq, List.length_append, List.length_map, List.length_map,
    List.length_range, inserts.length_eq]

/-- Of four operations two are inserts.  They take the last keys of their range, which stands in
line in reverse. -/
theorem load_then_run_keys_of_reversed_ranges :
    let config := { Config.default with
      threads := 2
      mix := { Mix.Options.default with
        recordCount := 3, operationCount := 4, fieldLength := 2, insertOrder := .random
        readProportion := 0.5, updateProportion := 0.0, insertProportion := 0.5 } }
    (∀ keys : Array UInt64, keys.reverse.toList.Perm keys.toList) ∧
    (config.mix.deleteProportion == 0.0) = true ∧
    ∃ (work : Transactions)
      (load : Session.Course config true .load (Session.opening work : Session Summary))
      (run : Session.Course config true .run load.after) (drawn : List UInt64),
      Transactions.create Array.reverse config.mix = .ok work ∧
      (load.after.shared.keysOf config.mix.table).Perm [recordKey 0, recordKey 1, recordKey 2] ∧
      List.Forall₂ (fun key task => ∃ row,
        task = ⟨.insert config.mix.table (recordKey key) row, some key⟩) drawn run.inserts ∧
      drawn.Nodup ∧ (∀ key ∈ drawn, 3 ≤ key) ∧
      (run.after.shared.keysOf config.mix.table).Perm
        ([recordKey 0, recordKey 1, recordKey 2] ++ drawn.map recordKey) ∧
      run.inserts.length = 2 := by
  intro config
  have permutes (keys : Array UInt64) : keys.reverse.toList.Perm keys.toList := by
    rw [Array.toList_reverse]
    exact List.reverse_perm _
  have noDeletes : (config.mix.deleteProportion == 0.0) = true := by decide +kernel
  have ready : (Transactions.create Array.reverse config.mix).toOption.any (fun work =>
      let session : Session Summary := .opening work
      let loaded := session.runPhase 4 config true .load
      let ran := loaded.2.2.runPhase 4 config true .run
      loaded.1.any (·.toOption.isSome) && ran.1.any (·.toOption.isSome) &&
        ran.2.2.rows config.mix.table == 5) = true := by
    decide +kernel
  obtain ⟨work, created, facts⟩ := (Option.any_eq_true _ _).1 ready
  simp only [Bool.and_eq_true, Option.any_eq_true, Option.isSome_iff_exists, beq_iff_eq] at facts
  obtain ⟨⟨⟨_, loaded, _, loadReport⟩, _, ran, _, runReport⟩, rows⟩ := facts
  rw [ok_of_toOption loadReport] at loaded
  rw [ok_of_toOption runReport] at ran
  obtain ⟨load, _, after⟩ := Session.exists_course loaded
  rw [← after] at ran rows
  obtain ⟨run, _, finished⟩ := Session.exists_course ran
  rw [← finished] at rows
  obtain ⟨initial, drawn, keys, once, behind, whole, amount⟩ :=
    load_then_run_keys config true permutes (ok_of_toOption created) noDeletes load run
  refine ⟨permutes, noDeletes, work, load, run, drawn, ok_of_toOption created, initial, keys, once,
    behind, whole, ?_⟩
  rw [rows] at amount
  have three : config.mix.recordCount.toNat = 3 := rfl
  omega

end StoreBench.Phase
