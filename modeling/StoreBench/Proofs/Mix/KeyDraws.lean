import StoreBench.Mix.Transactions
import StoreBench.Phase.Kind
import StoreBench.Proofs.Keys.RecordKeys
import StoreBench.Proofs.Outcome
import StoreBench.Proofs.Store.KeyEffects

/-!
Contract: which keys the standard workload draws.

All keys of a phase stand in some order from the start, and a draw takes the next of them, as
long as there are any.  A step of a load phase draws a key and inserts it; a step of a run phase
does that, or makes a call that leaves the keys of the store alone, provided that no deletes
occur.

Owns:
- `Transactions.Draws`, the keys of a phase with the number of those drawn;
- the keys of a new workload;
- what a step asks for, by the keys that it draws.

Does not own: the stores that the keys go to.
-/

namespace StoreBench

open Keys

/-! ## Pools -/

/-- The keys of the pool in their order, and how many are drawn. -/
structure Keys.KeyPool.Draws (order : List UInt64) (drawn : Nat) (pool : KeyPool) : Prop where
  keys : pool.keys.toList = order
  cursor : pool.cursor.toNat = drawn

namespace Mix

variable {order : List UInt64} {drawn : Nat}

/-- The same of the keys of initial records. -/
def LoadKeys.Draws (order : List UInt64) (drawn : Nat) : LoadKeys → Prop
  | .ordered counter =>
    (∃ count, order = (keyRange 0 count).toList) ∧ counter.upcoming.toNat = drawn
  | .random pool => pool.Draws order drawn

theorem toNat_succ {word : UInt64} (small : word.toNat + 1 < UInt64.size) :
    (word + 1).toNat = word.toNat + 1 := by
  rw [UInt64.toNat_add]
  exact Nat.mod_eq_of_lt small

theorem next_of_getElem? {pool : KeyPool} {key : UInt64}
    (found : pool.keys[pool.cursor.toNat]? = some key) :
    pool.next = (key, { pool with cursor := pool.cursor + 1, last := key }) := by
  simp [KeyPool.next, KeyPool.claim, KeyPool.answer, KeyPool.note, found]

/-- The next draw of a pool takes the next key. -/
theorem draws_next_pool {pool : KeyPool} (draws : pool.Draws order drawn)
    (left : drawn < order.length) (small : order.length < UInt64.size) :
    order[drawn]? = some pool.next.1 ∧ pool.next.2.Draws order (drawn + 1) := by
  obtain ⟨rfl, rfl⟩ := draws
  obtain ⟨key, found⟩ : ∃ key, pool.keys[pool.cursor.toNat]? = some key :=
    ⟨_, Array.getElem?_eq_getElem left⟩
  rw [next_of_getElem? found, Array.getElem?_toList]
  exact ⟨found, rfl, toNat_succ (by omega)⟩

theorem LoadKeys.Draws.next {keys : LoadKeys} (draws : keys.Draws order drawn)
    (left : drawn < order.length) (small : order.length < UInt64.size) :
    order[drawn]? = some keys.next.1 ∧ keys.next.2.Draws order (drawn + 1) := by
  cases keys with
  | ordered counter =>
    obtain ⟨⟨count, rfl⟩, rfl⟩ := draws
    refine ⟨?_, ⟨count, rfl⟩, toNat_succ (by omega)⟩
    rw [toList_keyRange] at left ⊢
    rw [List.length_map, List.length_range] at left
    rw [List.getElem?_map, List.getElem?_range left]
    simp [LoadKeys.next, Counter.next]
  | random pool => exact draws_next_pool draws left small

/-! ## Tasks -/

/-- The tasks that store new rows. -/
def inserts (tasks : List Task) : List Task := tasks.filter (·.call.operation == .insert)

theorem inserts_append (first second : List Task) :
    inserts (first ++ second) = inserts first ++ inserts second :=
  List.filter_append ..

theorem inserts_of_keepsKeys {task : Task} (keeps : task.call.KeepsKeys) : inserts [task] = [] := by
  obtain ⟨call, key⟩ := task
  cases call with
  | insert table key row => cases keeps
  | _ => rfl

/-! ## Workloads -/

namespace Transactions

/-- The keys that the steps of a phase take, and how many are drawn. -/
def Draws (kind : Phase.Kind) (order : List UInt64) (drawn : Nat) (work : Transactions) : Prop :=
  match kind with
  | .load => work.loadKeys.Draws order drawn
  | .run => work.insertKeys.pool.Draws order drawn

/-- A new pool holds the keys of its range. -/
theorem draws_of_create? {arrange : Array UInt64 → Array UInt64}
    (permutes : ∀ keys, (arrange keys).toList.Perm keys.toList) {start count : UInt64}
    {pool : KeyPool} (created : KeyPool.create? arrange start count = some pool) :
    start.toNat + count.toNat < UInt64.size ∧
      ∃ order, order.Perm (keyRange start count).toList ∧ pool.Draws order 0 := by
  rw [KeyPool.create?] at created
  split at created
  · next fits =>
    cases created
    exact ⟨fits, _, permutes _, rfl, rfl⟩
  · cases created

/-- What a new workload is made of. -/
theorem create_cases {arrange : Array UInt64 → Array UInt64} {options : Options}
    {work : Transactions} (created : create arrange options = .ok work) :
    ∃ loadKeys insertKeys, work = ⟨options, loadKeys, insertKeys⟩ ∧
      AcknowledgedPool.create? arrange options.recordCount options.operationCount =
        some insertKeys ∧
      (loadKeys = .ordered ⟨0⟩ ∨
        ∃ pool, KeyPool.create? arrange 0 options.recordCount = some pool ∧
          loadKeys = .random pool) := by
  unfold create at created
  split at created
  · cases created
  dsimp only at created
  split at created
  · split at created
    · obtain ⟨_, ⟨⟩, rest⟩ := bind_eq_ok_iff.1 created
      split at rest
      · next insertKeys made =>
        cases rest
        exact ⟨_, insertKeys, rfl, made, .inl rfl⟩
      · cases rest
    · split at created
      · next pool shuffled =>
        obtain ⟨_, ⟨⟩, rest⟩ := bind_eq_ok_iff.1 created
        split at rest
        · next insertKeys made =>
          cases rest
          exact ⟨_, insertKeys, rfl, made, .inr ⟨pool, shuffled, rfl⟩⟩
        · cases rest
      · cases created
  · cases created

/-- The keys of a new workload: those of the records, and as many behind them as there are
operations. -/
theorem draws_of_create {arrange : Array UInt64 → Array UInt64}
    (permutes : ∀ keys, (arrange keys).toList.Perm keys.toList) {options : Options}
    {work : Transactions} (created : create arrange options = .ok work) :
    work.options = options ∧
      options.recordCount.toNat + options.operationCount.toNat < UInt64.size ∧
      (∃ order, order.Perm (keyRange 0 options.recordCount).toList ∧ work.Draws .load order 0) ∧
      ∃ order, order.Perm (keyRange options.recordCount options.operationCount).toList ∧
        work.Draws .run order 0 := by
  obtain ⟨loadKeys, insertKeys, rfl, made, load⟩ := create_cases created
  obtain ⟨pool, inserting, rfl⟩ := Option.map_eq_some_iff.1 made
  obtain ⟨fits, insert⟩ := draws_of_create? permutes inserting
  refine ⟨rfl, fits, ?_, insert⟩
  rcases load with rfl | ⟨pool, shuffled, rfl⟩
  · exact ⟨_, .refl _, ⟨_, rfl⟩, rfl⟩
  · exact (draws_of_create? permutes shuffled).2

/-! ## Steps -/

theorem keepsKeys_of_callOf {options : Options} {choices : Choices} {operation : Operation}
    {call : Store.Call} (asked : callOf options choices operation = some call)
    (other : operation ≠ .delete) : call.KeepsKeys := by
  cases operation with
  | read =>
    obtain ⟨_, _, rest⟩ := Option.bind_eq_some_iff.1 asked
    obtain ⟨_, _, rest⟩ := Option.bind_eq_some_iff.1 rest
    cases rest
    trivial
  | update =>
    obtain ⟨_, _, rest⟩ := Option.bind_eq_some_iff.1 asked
    obtain ⟨_, _, rest⟩ := Option.bind_eq_some_iff.1 rest
    cases rest
    trivial
  | scan =>
    obtain ⟨_, _, rest⟩ := Option.bind_eq_some_iff.1 asked
    obtain ⟨_, _, rest⟩ := Option.bind_eq_some_iff.1 rest
    obtain ⟨_, _, rest⟩ := Option.bind_eq_some_iff.1 rest
    cases rest
    trivial
  | insert => cases asked
  | delete => exact absurd rfl other

theorem not_pos_of_beq_zero {proportion : Float} (zero : (proportion == 0.0) = true) :
    ¬ proportion > 0.0 := by
  intro positive
  have less : (Float.toModel 0.0).unpack.lt proportion.toModel.unpack = true :=
    of_decide_eq_true positive
  have same : proportion.toModel.unpack.beq (Float.toModel 0.0).unpack = true := zero
  have nothing : (Float.toModel 0.0).unpack = .zero .positive := by rfl
  rw [nothing] at less same
  cases kind : proportion.toModel.unpack with
  | notANumber => rw [kind] at same; cases same
  | zero sign => rw [kind] at less; cases less
  | infinity sign => rw [kind] at same; cases sign <;> cases same
  | finite sign => rw [kind] at same; cases sign <;> cases same

theorem delete_notMem_weighted {options : Options}
    (noDeletes : (options.deleteProportion == 0.0) = true) :
    .delete ∉ (weighted options).map Prod.fst := by
  intro member
  obtain ⟨entry, inside, same⟩ := List.mem_map.1 member
  obtain ⟨listed, positive⟩ := List.mem_filter.1 inside
  have deletes : entry = (.delete, options.deleteProportion) := by
    simp only [mixture, List.mem_cons, List.not_mem_nil, or_false] at listed
    rcases listed with rfl | rfl | rfl | rfl | rfl <;> first | rfl | cases same
  rw [deletes] at positive
  exact not_pos_of_beq_zero noDeletes (of_decide_eq_true positive)

theorem ne_delete {work : Transactions} (noDeletes : (work.options.deleteProportion == 0.0) = true)
    {index : Nat} {operation : Operation} (chosen : work.operations[index]? = some operation) :
    operation ≠ .delete := by
  rintro rfl
  exact delete_notMem_weighted noDeletes (List.mem_of_getElem? chosen)

/-- The key that a task notes: a run phase notes the keys that it draws. -/
def noted (kind : Phase.Kind) (key : UInt64) : Option UInt64 :=
  match kind with
  | .load => none
  | .run => some key

/-- The task stores a row in the table under the key. -/
def Inserts (kind : Phase.Kind) (table : String) (key : UInt64) (task : Task) : Prop :=
  ∃ row, task = ⟨.insert table (recordKey key) row, noted kind key⟩

/-- What a step asks for, and the workload after it. -/
inductive Asks (kind : Phase.Kind) (order : List UInt64) (drawn : Nat) (work : Transactions) :
    Plan → Transactions → Prop
  | insert {key : UInt64} {row : Store.Row} {after : Transactions} (next : order[drawn]? = some key)
      (draws : after.Draws kind order (drawn + 1)) (options : after.options = work.options) :
      Asks kind order drawn work
        (.tasks [⟨.insert work.options.table (recordKey key) row, noted kind key⟩]) after
  | other {call : Store.Call} (running : kind = .run) (keeps : call.KeepsKeys) :
      Asks kind order drawn work (.tasks [⟨call, none⟩]) work
  | stop {reason : Stop} (running : kind = .run) : Asks kind order drawn work (.stop reason) work

variable {work : Transactions}

theorem asks_planLoad (draws : work.Draws .load order drawn) (left : drawn < order.length)
    (small : order.length < UInt64.size) (choices : Choices) :
    Asks .load order drawn work (planLoad choices work).1 (planLoad choices work).2 := by
  obtain ⟨next, after⟩ := LoadKeys.Draws.next draws left small
  exact .insert next after rfl

theorem asks_planTransaction (draws : work.Draws .run order drawn) (left : drawn < order.length)
    (small : order.length < UInt64.size)
    (noDeletes : (work.options.deleteProportion == 0.0) = true) (choices : Choices) :
    Asks .run order drawn work (planTransaction choices work).1
      (planTransaction choices work).2 := by
  obtain ⟨next, after⟩ := draws_next_pool draws left small
  unfold planTransaction
  dsimp only
  split
  · exact .stop rfl
  · exact .insert next after rfl
  · next operation others chosen =>
    obtain ⟨index, _, found⟩ := Option.bind_eq_some_iff.1 chosen
    split
    · next call asked => exact .other rfl (keepsKeys_of_callOf asked (ne_delete noDeletes found))
    · exact .stop rfl

/-- A note leaves the keys that are to be drawn. -/
theorem settle_eq (task : Task) (status : Status) (work : Transactions) :
    (settle task status work).insertKeys.pool = work.insertKeys.pool ∧
      (settle task status work).loadKeys = work.loadKeys ∧
        (settle task status work).options = work.options := by
  rw [settle]
  split
  · split
    · exact ⟨rfl, rfl, rfl⟩
    · exact ⟨rfl, rfl, rfl⟩
  · exact ⟨rfl, rfl, rfl⟩

theorem draws_settle {kind : Phase.Kind} (draws : work.Draws kind order drawn) (task : Task)
    (status : Status) :
    (settle task status work).Draws kind order drawn ∧
      (settle task status work).options = work.options := by
  obtain ⟨pool, loadKeys, options⟩ := settle_eq task status work
  refine ⟨?_, options⟩
  cases kind with
  | load =>
    rw [Draws, loadKeys]
    exact draws
  | run =>
    rw [Draws, pool]
    exact draws

end Transactions

end Mix

end StoreBench
