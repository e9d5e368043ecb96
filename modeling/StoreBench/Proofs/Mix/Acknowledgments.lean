import StoreBench.Mix.Clients
import StoreBench.Proofs.Keys.ConcurrentDraws
import StoreBench.Proofs.Mix.KeyDraws

/-!
Contract: the acknowledged keys are those of the inserts that the store answered with success.

A key that an insert has drawn is under way until the store answers.  An answer other than success
is the end of the insert; after success the key is under way once more, to its acknowledgment.
Nothing else touches the acknowledged keys, and nothing returns a key that was drawn.

Owns:
- that the steps of a transaction amount to the plan of the standard workload;
- the moves of clients, by what they do to the workload and to the client;
- `Tracked`, the invariant of the keys drawn, answered and acknowledged;
- the acknowledged keys once no transaction is in progress.

Does not own: the order of the keys, which is in `Proofs.Mix.KeyDraws`.
-/

namespace StoreBench.Mix

open Keys

/-! ## Stages -/

/-- Whether the store answered with success. -/
def isSuccess : Except Failure Status → Bool
  | .ok status => status.isOk
  | .error _ => false

namespace ClientStage

/-- The keys that a client is about to have acknowledged. -/
def confirmed : ClientStage → List UInt64
  | .settling task status => if status.isOk then task.key.toList else []
  | _ => []

section
variable (pool : KeyPool) (task : Task) (status : Status)

@[simp]
theorem keys_idle : keys pool .idle = [] := rfl

@[simp]
theorem keys_calling : keys pool (.calling task) = task.key.toList := rfl

@[simp]
theorem keys_settling : keys pool (.settling task status) = [] := rfl

@[simp]
theorem confirmed_idle : confirmed .idle = [] := rfl

@[simp]
theorem confirmed_drawing (choices : Choices) (claimed : Option UInt64) :
    confirmed (.drawing choices claimed) = [] := rfl

@[simp]
theorem confirmed_calling : confirmed (.calling task) = [] := rfl

end

/-- What a client has drawn is a matter of the first key of the pool. -/
theorem keys_congr {first second : KeyPool} (same : first.start = second.start)
    (stage : ClientStage) : stage.keys first = stage.keys second := by
  cases stage with
  | drawing choices claimed => rw [keys, keys, KeyPool.answer_congr same]
  | _ => rfl

variable (task : Task) (outcome : Except Failure Status)

theorem keys_answered (pool : KeyPool) : (answered task outcome).keys pool = [] := by
  cases outcome <;> rfl

theorem confirmed_answered :
    (answered task outcome).confirmed = if isSuccess outcome then task.key.toList else [] := by
  cases outcome <;> rfl

end ClientStage

/-! ## Transactions -/

namespace Transactions

variable {choices : Choices} {work : Transactions}

/-- The workload after a claim. -/
def claimed (work : Transactions) : Transactions :=
  { work with insertKeys := { work.insertKeys with pool := work.insertKeys.pool.claim.2 } }

/-- How a transaction begins, by what it does. -/
inductive Begins (choices : Choices) (work : Transactions) : ClientStage → Transactions → Prop
  | inserts : Begins choices work (.drawing choices work.insertKeys.pool.claim.1) work.claimed
  | calls {operation : Operation} {call : Store.Call}
      (asked : callOf work.options choices operation = some call)
      (occurs : operation ∈ work.operations) :
      Begins choices work (.calling ⟨call, none⟩) work
  | stops : Begins choices work .idle work

theorem begins_commence (choices : Choices) (work : Transactions) :
    Begins choices work (work.commence choices).1 (work.commence choices).2 := by
  rw [commence]
  split
  · exact .stops
  · exact .inserts
  · next operation _ chosen =>
    obtain ⟨_, _, found⟩ := Option.bind_eq_some_iff.1 chosen
    split
    · next asked => exact .calls asked (List.mem_of_getElem? found)
    · exact .stops

theorem Begins.leaves {stage : ClientStage} {begun : Transactions}
    (begins : work.Begins choices stage begun) :
    begun.insertKeys.pool.start = work.insertKeys.pool.start ∧
      begun.insertKeys.acknowledged = work.insertKeys.acknowledged ∧ stage.confirmed = [] := by
  cases begins <;> exact ⟨rfl, rfl, rfl⟩

/-- A transaction of which no other client sees a part is the one that the workload plans. -/
theorem planTransaction_eq (choices : Choices) (work : Transactions) :
    work.planTransaction choices =
      match work.commence choices with
      | (.drawing choices claimed, begun) =>
        (.tasks [begun.insertTask choices claimed], begun.note claimed)
      | (.calling task, begun) => (.tasks [task], begun)
      | (_, begun) => (.stop .panicked, begun) := by
  rw [planTransaction, commence]
  dsimp only
  generalize (Choices.pick choices.kind work.operations.length).bind (work.operations[·]?) = chosen
  cases chosen with
  | none => rfl
  | some operation =>
    cases operation with
    | insert => rfl
    | _ =>
      dsimp only
      generalize callOf _ _ _ = asked
      cases asked <;> rfl

section
variable (task : Task) (status : Status) (work : Transactions)

/-- An acknowledgment adds the keys that were to be acknowledged, and no other. -/
theorem mem_acknowledged_settle (key : UInt64) :
    key ∈ (work.settle task status).insertKeys.acknowledged ↔
      key ∈ work.insertKeys.acknowledged ∨ key ∈ (ClientStage.settling task status).confirmed := by
  obtain ⟨call, taken⟩ := task
  cases taken with
  | none => simp [settle, ClientStage.confirmed]
  | some taken =>
    cases good : status.isOk with
    | true =>
      simp [settle, ClientStage.confirmed, good, AcknowledgedPool.acknowledge, List.mem_insert_iff,
        or_comm]
    | false => simp [settle, ClientStage.confirmed, good]

theorem nodup_acknowledged_settle {work : Transactions}
    (distinct : work.insertKeys.acknowledged.Nodup) :
    (work.settle task status).insertKeys.acknowledged.Nodup := by
  rw [settle]
  split
  · split
    · exact distinct.insert
    · exact distinct
  · exact distinct

end

end Transactions

/-! ## Moves -/

namespace ClientState

def succeeded (state : ClientState) : List UInt64 :=
  (state.answered.filter (isSuccess ·.2)).map Prod.fst

/-- A move, by what it does. -/
inductive Advance (state : ClientState) : ClientMove → ClientState → Prop
  | begun {client : Nat} {choices : Choices} {stage : ClientStage} {work : Transactions}
      (found : state.clients[client]? = some .idle)
      (begins : state.work.Begins choices stage work) :
      Advance state (.begin client choices)
        { state with
          work
          clients := state.clients.set client stage
          drawn := stage.keys work.insertKeys.pool ++ state.drawn }
  | noted {client : Nat} {choices : Choices} {claimed : Option UInt64}
      (found : state.clients[client]? = some (.drawing choices claimed)) :
      Advance state (.note client)
        { state with
          work := state.work.note claimed
          clients := state.clients.set client (.calling (state.work.insertTask choices claimed)) }
  | answered {client : Nat} {task : Task} {outcome : Except Failure Status}
      (found : state.clients[client]? = some (.calling task)) :
      Advance state (.answer client outcome)
        { state with
          clients := state.clients.set client (.answered task outcome)
          answered := task.key.toList.map (·, outcome) ++ state.answered }
  | settled {client : Nat} {task : Task} {status : Status}
      (found : state.clients[client]? = some (.settling task status)) :
      Advance state (.settle client)
        { state with
          work := state.work.settle task status
          clients := state.clients.set client .idle }

variable {pool : KeyPool} {state after : ClientState} {move : ClientMove}

theorem advance_of_step (fires : step move state = some after) : state.Advance move after := by
  cases move with
  | begin client choices =>
    simp only [step] at fires
    split at fires
    · next found =>
      cases fires
      exact .begun found (Transactions.begins_commence choices state.work)
    · cases fires
  | note client =>
    simp only [step] at fires
    split at fires
    · next found =>
      cases fires
      exact .noted found
    · cases fires
  | answer client outcome =>
    simp only [step] at fires
    split at fires
    · next found =>
      cases fires
      exact .answered found
    · cases fires
  | settle client =>
    simp only [step] at fires
    split at fires
    · next found =>
      cases fires
      exact .settled found
    · cases fires

/-! ## Keys drawn -/

/-- The keys drawn are what the first slots of the pool hold. -/
structure Slotted (pool : KeyPool) (state : ClientState) : Prop where
  reached : pool.After state.drawn.length state.work.insertKeys.pool
  drawn : state.drawn.reverse = (List.range state.drawn.length).map pool.slot

theorem slotted_opening {work : Transactions} (unused : work.insertKeys.pool.cursor = 0)
    (clients : Nat) : Slotted work.insertKeys.pool (opening work clients) :=
  ⟨⟨rfl, rfl, unused⟩, rfl⟩

theorem Slotted.step (slotted : Slotted pool state) (fires : step move state = some after) :
    Slotted pool after := by
  obtain ⟨reached, drawn⟩ := slotted
  cases advance_of_step fires with
  | begun found begins =>
    cases begins with
    | inserts =>
      refine ⟨reached.claim, ?_⟩
      show (state.work.insertKeys.pool.answer _ :: state.drawn).reverse =
        (List.range (state.drawn.length + 1)).map pool.slot
      rw [List.reverse_cons, drawn, KeyPool.answer_congr reached.start, reached.claim_eq,
        List.range_succ, List.map_append, List.map_singleton, KeyPool.slot]
    | calls => exact ⟨reached, drawn⟩
    | stops => exact ⟨reached, drawn⟩
  | noted found => exact ⟨reached.note _, drawn⟩
  | answered found => exact ⟨reached, drawn⟩
  | @settled client task status found =>
    have same := (Transactions.settle_eq task status state.work).1
    exact ⟨same ▸ reached, drawn⟩

/-! ## Keys answered and acknowledged -/

/-- The keys drawn by inserts that are not yet answered. -/
def underway (pool : KeyPool) (clients : List ClientStage) : List UInt64 :=
  (clients.map (·.keys pool)).flatten

/-- The keys of successful inserts that are not yet acknowledged. -/
def awaiting (clients : List ClientStage) : List UInt64 :=
  (clients.map ClientStage.confirmed).flatten

/-- Every key drawn is answered or under way, and every key that the store took is acknowledged or
about to be. -/
structure Tracked (pool : KeyPool) (state : ClientState) : Prop where
  slotted : Slotted pool state
  -- Counts of each key, and not a permutation, so that every move comes down to arithmetic.
  drawn : ∀ key, (state.answered.map Prod.fst).count key +
    (underway pool state.clients).count key = state.drawn.count key
  distinct : state.work.insertKeys.acknowledged.Nodup
  acknowledged : ∀ key, key ∈ state.succeeded ↔
    key ∈ state.work.insertKeys.acknowledged ∨ key ∈ awaiting state.clients

section
variable {clients : List ClientStage} {client : Nat} {old : ClientStage}

theorem count_underway_set (found : clients[client]? = some old) (new : ClientStage)
    (pool : KeyPool) (key : UInt64) :
    (underway pool (clients.set client new)).count key + (old.keys pool).count key =
      (underway pool clients).count key + (new.keys pool).count key := by
  have exchange := (flatten_map_set (·.keys pool) found new).count_eq key
  rwa [List.count_append, List.count_append] at exchange

theorem mem_awaiting_set (found : clients[client]? = some old) (new : ClientStage)
    (key : UInt64) :
    key ∈ awaiting (clients.set client new) ∨ key ∈ old.confirmed ↔
      key ∈ awaiting clients ∨ key ∈ new.confirmed := by
  have exchange := (flatten_map_set ClientStage.confirmed found new).mem_iff (a := key)
  rwa [List.mem_append, List.mem_append] at exchange

end

theorem tracked_opening {work : Transactions} (unused : work.insertKeys.pool.cursor = 0)
    (nothing : work.insertKeys.acknowledged = []) (clients : Nat) :
    Tracked work.insertKeys.pool (opening work clients) := by
  refine ⟨slotted_opening unused clients, ?_, ?_, ?_⟩
  · intro key
    simp [opening, underway, ClientStage.keys]
  · show work.insertKeys.acknowledged.Nodup
    rw [nothing]
    exact List.nodup_nil
  · intro key
    simp [opening, awaiting, ClientStage.confirmed, succeeded, nothing]

theorem mem_succeeded_answer (task : Task) (outcome : Except Failure Status) (key : UInt64) :
    key ∈ succeeded { state with
        answered := task.key.toList.map (·, outcome) ++ state.answered } ↔
      key ∈ state.succeeded ∨ key ∈ (ClientStage.answered task outcome).confirmed := by
  rw [ClientStage.confirmed_answered]
  cases good : isSuccess outcome <;> cases taken : task.key <;> simp [succeeded, good, or_comm]

/-- No move loses a key: a draw puts it under way, an answer takes it from there, and after success
an acknowledgment is due. -/
theorem Tracked.step (tracked : Tracked pool state) (fires : step move state = some after) :
    Tracked pool after := by
  have slottedAfter := tracked.slotted.step fires
  have start := tracked.slotted.reached.start
  obtain ⟨-, drawn, distinct, acknowledged⟩ := tracked
  cases advance_of_step fires with
  | @begun client _ stage begun found begins =>
    obtain ⟨sameStart, sameAcknowledged, unconfirmed⟩ := begins.leaves
    refine ⟨slottedAfter, ?_, ?_, ?_⟩
    · intro key
      have before := drawn key
      have moved := count_underway_set found stage pool key
      rw [ClientStage.keys_idle, List.count_nil] at moved
      dsimp only
      rw [ClientStage.keys_congr (sameStart.trans start), List.count_append]
      omega
    · rwa [← sameAcknowledged] at distinct
    · intro key
      have moved := mem_awaiting_set found stage key
      simp only [unconfirmed, ClientStage.confirmed_idle, List.not_mem_nil, or_false] at moved
      rw [moved, sameAcknowledged]
      exact acknowledged key
  | @noted client choices claimed found =>
    refine ⟨slottedAfter, ?_, distinct, ?_⟩
    · intro key
      have before := drawn key
      have moved := count_underway_set found
        (.calling (state.work.insertTask choices claimed)) pool key
      have same : (ClientStage.calling (state.work.insertTask choices claimed)).keys pool =
          (ClientStage.drawing choices claimed).keys pool :=
        ClientStage.keys_congr start (.drawing choices claimed)
      rw [same] at moved
      dsimp only
      omega
    · intro key
      have moved := mem_awaiting_set found
        (.calling (state.work.insertTask choices claimed)) key
      simp only [ClientStage.confirmed_drawing, ClientStage.confirmed_calling, List.not_mem_nil,
        or_false] at moved
      rw [moved]
      exact acknowledged key
  | @answered client task outcome found =>
    refine ⟨slottedAfter, ?_, distinct, ?_⟩
    · intro key
      have before := drawn key
      have moved := count_underway_set found (.answered task outcome) pool key
      rw [ClientStage.keys_answered, ClientStage.keys_calling, List.count_nil] at moved
      have names : (task.key.toList.map (·, outcome)).map Prod.fst = task.key.toList := by
        rw [List.map_map]
        exact List.map_id' _
      dsimp only
      rw [List.map_append, names, List.count_append]
      omega
    · intro key
      have moved := mem_awaiting_set found (.answered task outcome) key
      simp only [ClientStage.confirmed_calling, List.not_mem_nil, or_false] at moved
      refine (mem_succeeded_answer task outcome key).trans ?_
      rw [acknowledged key, or_assoc, ← moved]
  | @settled client task status found =>
    refine ⟨slottedAfter, ?_, Transactions.nodup_acknowledged_settle task status distinct, ?_⟩
    · intro key
      have before := drawn key
      have moved := count_underway_set found .idle pool key
      rw [ClientStage.keys_idle, ClientStage.keys_settling] at moved
      dsimp only
      omega
    · intro key
      have moved := mem_awaiting_set found .idle key
      simp only [ClientStage.confirmed_idle, List.not_mem_nil, or_false] at moved
      dsimp only
      rw [Transactions.mem_acknowledged_settle, or_assoc, or_comm (b := key ∈ awaiting _), moved]
      exact acknowledged key

theorem Tracked.of_reaches {work : Transactions} (unused : work.insertKeys.pool.cursor = 0)
    (nothing : work.insertKeys.acknowledged = []) {clients : Nat}
    (path : Reaches ClientState.step (opening work clients) state) :
    Tracked work.insertKeys.pool state :=
  path.invariant (tracked_opening unused nothing clients) fun _ _ _ tracked fires =>
    tracked.step fires

theorem flatten_of_isQuiet {β : Type} (quiet : state.isQuiet = true) (part : ClientStage → List β)
    (nothing : part .idle = []) : (state.clients.map part).flatten = [] := by
  rw [List.flatten_eq_nil_iff]
  intro each inside
  obtain ⟨stage, member, rfl⟩ := List.mem_map.1 inside
  have idle := List.all_eq_true.1 quiet stage member
  cases stage with
  | idle => exact nothing
  | _ => cases idle

theorem Tracked.mem_succeeded (tracked : Tracked pool state) {key : UInt64}
    (known : state.work.insertKeys.isAcknowledged key = true) : key ∈ state.succeeded :=
  (tracked.acknowledged key).2 (.inl (List.contains_iff_mem.1 known))

/-- With no transaction in progress, what was answered with success is acknowledged. -/
theorem Tracked.isAcknowledged_iff (tracked : Tracked pool state) (quiet : state.isQuiet = true)
    (key : UInt64) :
    state.work.insertKeys.isAcknowledged key = true ↔ key ∈ state.succeeded := by
  rw [tracked.acknowledged key, awaiting, flatten_of_isQuiet quiet _ rfl,
    AcknowledgedPool.isAcknowledged, List.contains_iff_mem]
  exact (or_iff_left List.not_mem_nil).symm

theorem Tracked.answered_perm (tracked : Tracked pool state) (quiet : state.isQuiet = true) :
    (state.answered.map Prod.fst).Perm state.drawn := by
  rw [List.perm_iff_count]
  intro key
  have drawn := tracked.drawn key
  rwa [underway, flatten_of_isQuiet quiet _ rfl] at drawn

theorem Tracked.nodup_answered (tracked : Tracked pool state) (once : state.drawn.Nodup) :
    (state.answered.map Prod.fst).Nodup := by
  rw [List.nodup_iff_count_le_one] at once ⊢
  intro key
  have drawn := tracked.drawn key
  have single := once key
  omega

/-- If no key is drawn twice, each successful insert is acknowledged with a key of its own. -/
theorem Tracked.acknowledgedCount_eq (tracked : Tracked pool state)
    (quiet : state.isQuiet = true) (once : state.drawn.Nodup) :
    state.work.insertKeys.acknowledgedCount = state.succeeded.length := by
  have distinct : state.succeeded.Nodup :=
    (tracked.nodup_answered once).sublist (List.filter_sublist.map _)
  apply List.Perm.length_eq
  rw [List.perm_ext_iff_of_nodup tracked.distinct distinct]
  intro key
  rw [← tracked.isAcknowledged_iff quiet key, AcknowledgedPool.isAcknowledged,
    List.contains_iff_mem]

/-- If no key is drawn twice, no failed insert has its key acknowledged. -/
theorem Tracked.isAcknowledged_of_failed (tracked : Tracked pool state)
    (once : state.drawn.Nodup) {key : UInt64} {outcome : Except Failure Status}
    (answered : (key, outcome) ∈ state.answered) (failed : isSuccess outcome = false) :
    state.work.insertKeys.isAcknowledged key = false := by
  rw [Bool.eq_false_iff]
  intro known
  obtain ⟨⟨_, other⟩, inside, rfl⟩ := List.mem_map.1 (tracked.mem_succeeded known)
  obtain ⟨member, succeeded⟩ := List.mem_filter.1 inside
  -- No other insert has drawn this key, so the successful one is the one that failed.
  have same := List.inj_on_of_nodup_map (tracked.nodup_answered once) member answered rfl
  cases same
  rw [failed] at succeeded
  cases succeeded

end ClientState

/-! ## Main result -/

/-- No more draws than the range has keys take different keys of it, and leave the others. -/
theorem ClientState.Slotted.fresh {arrange : Array UInt64 → Array UInt64}
    (permutes : ∀ keys, (arrange keys).toList.Perm keys.toList) {start count : UInt64}
    (fits : start.toNat + count.toNat < UInt64.size) {state : ClientState}
    (slotted : Slotted ⟨start, arrange (keyRange start count), 0, start - 1⟩ state)
    (enough : state.drawn.length ≤ count.toNat) :
    state.drawn.Nodup ∧
      (∀ key ∈ state.drawn, start.toNat ≤ key.toNat ∧ key.toNat < start.toNat + count.toNat) ∧
      state.work.insertKeys.pool.remaining + state.drawn.length = count.toNat := by
  have few : state.drawn.length < UInt64.size := Nat.lt_of_le_of_lt enough count.toNat_lt
  have slots := slotted.drawn
  rw [KeyPool.map_slot_range _ (Nat.le_of_lt few)] at slots
  have once := eachOnce_of_perm fits (permutes (keyRange start count))
    (slots ▸ (List.reverse_perm state.drawn).symm)
  have drawn := once.answers
  rw [Nat.sub_eq_zero_of_le enough, List.replicate_zero, List.append_nil] at drawn
  refine ⟨drawn.nodup_iff.2 once.distinct, ?_, ?_⟩
  · intro key member
    exact once.inside key (drawn.mem_iff.1 member)
  · rw [slotted.reached.remaining_eq few, KeyPool.capacity, size_arrange permutes]
    exact Nat.sub_add_cancel enough

/-- **Acknowledged are the keys of the successful inserts.**  Whatever the number of clients, the
transactions they choose, the order of their steps and the answers of the store: as soon as no
transaction is in progress, the acknowledged keys are those of the inserts answered with success,
and every key drawn is answered.  As long as no more inserts begin than there are operations, their
keys are different keys behind those of the initial records, as many as there are operations fewer
are left, and the key of a failed insert is never acknowledged; with no transaction in progress
there are as many acknowledged keys as successful inserts. -/
theorem acknowledged_iff_succeeded {arrange : Array UInt64 → Array UInt64}
    (permutes : ∀ keys, (arrange keys).toList.Perm keys.toList) {options : Options}
    {work : Transactions} (created : Transactions.create arrange options = .ok work) {clients : Nat}
    {state : ClientState} (path : Reaches ClientState.step (.opening work clients) state) :
    (state.drawn.length ≤ options.operationCount.toNat →
      state.drawn.Nodup ∧
      (∀ key ∈ state.drawn, options.recordCount.toNat ≤ key.toNat ∧
        key.toNat < options.recordCount.toNat + options.operationCount.toNat) ∧
      state.work.insertKeys.pool.remaining + state.drawn.length = options.operationCount.toNat ∧
      ∀ key outcome, (key, outcome) ∈ state.answered → isSuccess outcome = false →
        state.work.insertKeys.isAcknowledged key = false) ∧
    (state.isQuiet = true →
      (∀ key, state.work.insertKeys.isAcknowledged key = true ↔ key ∈ state.succeeded) ∧
      (state.answered.map Prod.fst).Perm state.drawn ∧
      (state.drawn.length ≤ options.operationCount.toNat →
        state.work.insertKeys.acknowledgedCount = state.succeeded.length)) := by
  obtain ⟨loadKeys, insertKeys, rfl, made, -⟩ := Transactions.create_cases created
  obtain ⟨fits, rfl⟩ := AcknowledgedPool.create?_eq_some_iff.1 made
  have tracked := ClientState.Tracked.of_reaches rfl rfl path
  constructor
  · intro enough
    obtain ⟨apart, inside, left⟩ := tracked.slotted.fresh permutes fits enough
    refine ⟨apart, inside, left, ?_⟩
    intro key outcome answered failed
    exact tracked.isAcknowledged_of_failed apart answered failed
  · intro quiet
    refine ⟨tracked.isAcknowledged_iff quiet, tracked.answered_perm quiet, ?_⟩
    intro enough
    exact tracked.acknowledgedCount_eq quiet (tracked.slotted.fresh permutes fits enough).1

/-- Three inserts of two clients.  The store takes the key that was drawn second; it answers the
first insert with an error, and the call of the third fails. -/
theorem acknowledged_iff_succeeded_of_mixed_answers :
    let options := { Options.default with
      recordCount := 3, operationCount := 3, fieldLength := 2
      readProportion := 0.0, updateProportion := 0.0, insertProportion := 1.0 }
    let choices : Choices := ⟨0, id⟩
    let moves : List ClientMove :=
      [.begin 0 choices, .begin 1 choices, .note 1, .answer 1 (.ok .ok), .note 0,
        .answer 0 (.ok .error), .settle 0, .begin 0 choices, .note 0, .settle 1,
        .answer 0 (.error (.config .zeroTarget))]
    (∀ keys : Array UInt64, keys.reverse.toList.Perm keys.toList) ∧
    ∃ work state, Transactions.create Array.reverse options = .ok work ∧
      follow ClientState.step moves (.opening work 2) = some state ∧ state.isQuiet = true ∧
      state.drawn = [3, 4, 5] ∧ state.drawn.Nodup ∧
      (∀ key, state.work.insertKeys.isAcknowledged key = true ↔ key = 4) ∧
      state.work.insertKeys.acknowledgedCount = 1 ∧
      state.work.insertKeys.pool.remaining = 0 := by
  intro options choices moves
  have ready : (Transactions.create Array.reverse options).toOption.any (fun work =>
      (follow ClientState.step moves (.opening work 2)).any fun state =>
        state.isQuiet && state.drawn == [3, 4, 5] && state.succeeded == [4]) = true := by
    decide +kernel
  obtain ⟨work, created, ends⟩ := (Option.any_eq_true _ _).1 ready
  obtain ⟨state, followed, facts⟩ := (Option.any_eq_true _ _).1 ends
  simp only [Bool.and_eq_true, beq_iff_eq] at facts
  obtain ⟨⟨quiet, drawn⟩, succeeded⟩ := facts
  obtain ⟨first, second⟩ := acknowledged_iff_succeeded perm_reverse (ok_of_toOption created)
    (reaches_of_follow followed)
  have enough : state.drawn.length ≤ options.operationCount.toNat := by
    rw [drawn]
    decide
  obtain ⟨distinct, -, left, -⟩ := first enough
  obtain ⟨iff, -, count⟩ := second quiet
  refine ⟨perm_reverse, work, state, ok_of_toOption created, followed, quiet, drawn, distinct, ?_,
    ?_, ?_⟩
  · intro key
    rw [iff key, succeeded, List.mem_singleton]
  · rw [count enough, succeeded]
    rfl
  · rw [drawn] at left
    exact Nat.add_right_cancel left

end StoreBench.Mix
