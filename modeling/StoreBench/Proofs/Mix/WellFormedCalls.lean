import StoreBench.Proofs.Mix.Construction
import StoreBench.Proofs.Mix.RowShape

/-!
Contract: the transactions of the standard workload.

A workload that was made from its options has passed their check, so every transaction that occurs
has something to choose from: a record, a field, a length of scan.  Whatever the random choices and
whatever has been drawn so far, a transaction therefore makes one call, with what the options allow,
and ends as this call does.

Owns:
- `Options.Issues`, the calls of transactions;
- that each choice can be made;
- that a transaction makes one such call, of an operation that occurs.

Does not own: how often an operation is chosen.
-/

namespace StoreBench.Mix

open Keys (recordKey)
open Store (Call Row)

/-! ## Calls -/

namespace Options

/-- What a read or a scan asks for: all fields, or one that every row has. -/
def IsFilter (options : Options) (fields : Option (List String)) : Prop :=
  if options.readAllFields then fields = none else ∃ name ∈ options.fieldNames, fields = some [name]

/-- What an update writes: a whole row, or one field that every row has. -/
def IsUpdate (options : Options) (values : Row) : Prop :=
  if options.writeAllFields then options.HasShape values
  else ∃ name ∈ options.fieldNames, ∃ value, options.IsValue value ∧ values = [⟨name, value⟩]

/-- The calls of transactions. -/
inductive Issues (options : Options) : Call → Prop
  | read {key : String} {fields : Option (List String)} (known : options.IsRecord key)
      (filter : options.IsFilter fields) : Issues options (.read options.table key fields)
  | update {key : String} {values : Row} (known : options.IsRecord key)
      (update : options.IsUpdate values) : Issues options (.update options.table key values)
  | insert {record : UInt64} {row : Row} (shaped : options.HasShape row) :
      Issues options (.insert options.table (recordKey record) row)
  | scan {key : String} {count : Nat} {fields : Option (List String)}
      (known : options.IsRecord key) (some : 1 ≤ count)
      (short : count ≤ options.maxScanLength.toNat) (filter : options.IsFilter fields) :
      Issues options (.scan options.table key count fields)
  | delete {key : String} (known : options.IsRecord key) :
      Issues options (.delete options.table key)

end Options

/-! ## Choices -/

theorem Choices.exists_pick {count : Nat} (draw : Nat) (some : count ≠ 0) :
    ∃ chosen, pick draw count = .some chosen :=
  ⟨_, if_neg some⟩

namespace Transactions

variable {options : Options}

theorem exists_someKey (draw : Nat) (records : options.recordCount ≠ 0) :
    ∃ key, someKey options draw = some key ∧ options.IsRecord key := by
  have count : options.recordCount.toNat ≠ 0 := fun zero => records (UInt64.toNat_inj.1 zero)
  obtain ⟨record, picked⟩ := Choices.exists_pick draw count
  have chosen : someKey options draw = some (recordKey record.toUInt64) := by
    rw [someKey, picked, Option.map_some]
  exact ⟨_, chosen, isRecord_someKey chosen⟩

theorem exists_someField (draw : Nat) (fields : options.fieldCount ≠ 0) :
    ∃ name ∈ options.fieldNames, someField options draw = some name := by
  have count : options.fieldCount.toNat ≠ 0 := fun zero => fields (UInt64.toNat_inj.1 zero)
  obtain ⟨index, picked⟩ := Choices.exists_pick draw count
  refine ⟨fieldName index, ?_, ?_⟩
  · exact List.mem_map_of_mem (List.mem_range.2 (Choices.lt_of_pick picked))
  · rw [someField, picked, Option.map_some]

theorem exists_readFields (draw : Nat) (fields : options.fieldCount ≠ 0) :
    ∃ filter, readFields options draw = some filter ∧ options.IsFilter filter := by
  rw [readFields]
  simp only [Options.IsFilter]
  split
  · exact ⟨none, rfl, rfl⟩
  · obtain ⟨name, known, chosen⟩ := exists_someField draw fields
    rw [chosen]
    exact ⟨_, rfl, name, known, rfl⟩

theorem exists_updateRow (choices : Choices) (fields : options.fieldCount ≠ 0) :
    ∃ values, updateRow options choices = some values ∧ options.IsUpdate values := by
  rw [updateRow]
  simp only [Options.IsUpdate]
  split
  · exact ⟨_, rfl, hasShape_fullRow options choices⟩
  · obtain ⟨name, known, chosen⟩ := exists_someField (choices.draws 1) fields
    rw [chosen]
    exact ⟨_, rfl, name, known, _, isValue_value .., rfl⟩

/-- An operation that occurs always finds a call to make. -/
theorem exists_callOf (choices : Choices) (runnable : options.Runnable) {operation : Operation}
    (other : operation ≠ .insert) (positive : options.proportionOf operation > 0.0) :
    ∃ call, callOf options choices operation = some call ∧ call.operation = operation ∧
      options.Issues call := by
  -- the check asks for records as soon as an operation occurs that needs one
  have records := runnable.records (touchesRecords_eq_true.2 ⟨operation, other, positive⟩)
  obtain ⟨key, drawn, known⟩ := exists_someKey (choices.draws 0) records
  cases operation with
  | read =>
    obtain ⟨fields, asked, filter⟩ := exists_readFields (choices.draws 1) runnable.fields
    refine ⟨.read options.table key fields, ?_, rfl, .read known filter⟩
    simp [callOf, drawn, asked]
  | update =>
    obtain ⟨values, made, update⟩ := exists_updateRow choices runnable.fields
    refine ⟨.update options.table key values, ?_, rfl, .update known update⟩
    simp [callOf, drawn, made]
  | insert => exact absurd rfl other
  | scan =>
    have length : options.maxScanLength.toNat ≠ 0 :=
      fun zero => runnable.scanLength positive (UInt64.toNat_inj.1 zero)
    obtain ⟨shorter, picked⟩ := Choices.exists_pick (choices.draws 1) length
    obtain ⟨fields, asked, filter⟩ := exists_readFields (choices.draws 2) runnable.fields
    refine ⟨.scan options.table key (shorter + 1) fields, ?_, rfl,
      .scan known (Nat.le_add_left ..) (Choices.lt_of_pick picked) filter⟩
    simp [callOf, drawn, picked, asked]
  | delete =>
    refine ⟨.delete options.table key, ?_, rfl, .delete known⟩
    simp [callOf, drawn]

/-! ## Transactions -/

/-- The choice of an operation finds one that occurs. -/
theorem exists_operation (kind : Nat) {work : Transactions} (runnable : work.options.Runnable) :
    ∃ operation, (Choices.pick kind work.operations.length).bind (work.operations[·]?) =
        some operation ∧ work.options.proportionOf operation > 0.0 := by
  have some : work.operations.length ≠ 0 := by
    rw [operations, List.length_map]
    exact fun nothing => runnable.weighted.1 (List.eq_nil_of_length_eq_zero nothing)
  obtain ⟨index, picked⟩ := Choices.exists_pick kind some
  have inside := Choices.lt_of_pick picked
  refine ⟨work.operations[index], ?_, ?_⟩
  · rw [picked, Option.bind_some, List.getElem?_eq_getElem inside]
  · have chosen : work.operations[index] ∈ work.operations := List.getElem_mem inside
    obtain ⟨⟨operation, weight⟩, occurs, same⟩ := List.mem_map.1 chosen
    rw [← same]
    exact (mem_weighted.1 occurs).2

theorem planTransaction_insert {choices : Choices} {work : Transactions}
    (chosen : (Choices.pick choices.kind work.operations.length).bind (work.operations[·]?) =
      some .insert) :
    planTransaction choices work =
      (.tasks [⟨.insert work.options.table (recordKey work.insertKeys.next.1)
        (fullRow work.options choices), some work.insertKeys.next.1⟩],
        { work with insertKeys := work.insertKeys.next.2 }) := by
  rw [planTransaction, chosen]

theorem planTransaction_call {choices : Choices} {work : Transactions} {operation : Operation}
    {call : Call}
    (chosen : (Choices.pick choices.kind work.operations.length).bind (work.operations[·]?) =
      some operation) (other : operation ≠ .insert)
    (asked : callOf work.options choices operation = some call) :
    planTransaction choices work = (.tasks [⟨call, none⟩], work) := by
  rw [planTransaction, chosen]
  cases operation with
  | insert => exact absurd rfl other
  | _ => simp only [asked]

theorem exists_planTransaction (choices : Choices) {work : Transactions}
    (runnable : work.options.Runnable) :
    ∃ task after, planTransaction choices work = (.tasks [task], after) ∧
      work.options.Issues task.call ∧
      work.options.proportionOf task.call.operation > 0.0 := by
  obtain ⟨operation, chosen, positive⟩ := exists_operation choices.kind runnable
  by_cases inserts : operation = .insert
  · subst inserts
    exact ⟨_, _, planTransaction_insert chosen, .insert (hasShape_fullRow work.options choices),
      positive⟩
  · obtain ⟨call, asked, same, issues⟩ := exists_callOf choices runnable inserts positive
    exact ⟨⟨call, none⟩, work, planTransaction_call chosen inserts asked, issues, same ▸ positive⟩

theorem options_planTransaction (choices : Choices) (work : Transactions) :
    (planTransaction choices work).2.options = work.options := by
  unfold planTransaction
  dsimp only
  split
  · rfl
  · rfl
  · split
    · rfl
    · rfl

/-- How a step ends whose only call was answered. -/
def ended : Except Failure Status → Except Stop Unit
  | .ok _ => .ok ()
  | .error fault => .error (.failed fault)

variable {σ : Type}

/-- A step that makes one call leaves the store as the call does, and ends as the call does. -/
theorem perform_of_plan {index : Nat} {step : Step} {choices : Choices} {work after : Transactions}
    {task : Task} (plan : workload.plan index step choices work = (.tasks [task], after))
    (serve : Call → σ → Store.Reply × σ) (store : σ) :
    ∃ settled, settled.options = after.options ∧
      workload.perform serve index step choices work store =
        (ended (serve task.call store).1.outcome, settled, (serve task.call store).2) := by
  rw [Workload.perform, plan]
  dsimp only
  cases outcome : (serve task.call store).1.outcome with
  | ok status =>
    refine ⟨settle task status after, (settle_eq task status after).2.2, ?_⟩
    rw [Workload.carryOut_of_tasks (workload_settle_ok outcome after), Workload.carryOut]
    rfl
  | error fault =>
    refine ⟨after, rfl, ?_⟩
    rw [Workload.carryOut_of_stop (workload_settle_error outcome after)]
    rfl

/-- **Transactions are well formed and do not break off.**  Let a workload have been made from its
options, and any keys been drawn since.  Whatever the random choices, a transaction makes one call:
on the table of the options, of an operation whose proportion is positive, with a key of an initial
record unless it inserts, and with the fields, values and length of scan that the options allow.
The step ends with a failure if and only if the call answers one, and with the same. -/
theorem transaction_well_formed {arrange : Array UInt64 → Array UInt64} {start work : Transactions}
    (created : create arrange options = .ok start) (kept : work.options = options) (index : Nat)
    (warmup : Bool) (choices : Choices) :
    ∃ task after,
      workload.plan index (.transaction warmup) choices work = (.tasks [task], after) ∧
      options.Issues task.call ∧
      options.proportionOf task.call.operation > 0.0 ∧
      (options.proportionOf task.call.operation == 0.0) = false ∧
      ∀ {σ : Type} (serve : Call → σ → Store.Reply × σ) (store : σ),
        ∃ settled, settled.options = options ∧
          workload.perform serve index (.transaction warmup) choices work store =
            (ended (serve task.call store).1.outcome, settled, (serve task.call store).2) := by
  subst kept
  have runnable := validate_eq_ok_iff.1 (validate_of_create created)
  obtain ⟨task, after, plan, issues, positive⟩ := exists_planTransaction choices runnable
  have same : after.options = work.options := by
    rw [← options_planTransaction choices work, plan]
  have plan : workload.plan index (.transaction warmup) choices work = (.tasks [task], after) :=
    plan
  refine ⟨task, after, plan, issues, positive, ?_, fun serve store => ?_⟩
  · exact Bool.eq_false_iff.2 fun zero => not_pos_of_beq_zero zero positive
  · obtain ⟨settled, still, performed⟩ := perform_of_plan plan serve store
    exact ⟨settled, still.trans same, performed⟩

/-- Scans of one row for one field among deletes, on a store that notes each call and fails. -/
theorem transaction_well_formed_on_failure :
    let options : Options := { Options.default with
      recordCount := 1, fieldCount := 1, maxScanLength := 1, readAllFields := false,
      readProportion := -0.0, updateProportion := 0.0, scanProportion := 0.5,
      deleteProportion := 2.0, insertOrder := .random }
    let choices : Choices := ⟨2, fun draw => 7 * draw⟩
    let serve : Call → List Call → Store.Reply × List Call :=
      fun call calls => (.failed (.store .usedBeforeInit), call :: calls)
    ∃ start, create id options = .ok start ∧ ∃ task after settled,
      workload.plan 0 (.transaction true) choices start = (.tasks [task], after) ∧
      options.Issues task.call ∧ options.proportionOf task.call.operation > 0.0 ∧
      workload.perform serve 0 (.transaction true) choices start [] =
        (.error (.failed (.store .usedBeforeInit)), settled, [task.call]) := by
  intro options choices serve
  have passes : options.validate = .ok () := by decide +kernel
  have feasible : isFeasible options = true := by decide +kernel
  obtain ⟨start, created, fresh⟩ := create_of_fits (fun _ => .refl _) passes feasible (by decide)
  obtain ⟨task, after, plan, issues, positive, -, steps⟩ :=
    transaction_well_formed created fresh.kept 0 true choices
  obtain ⟨settled, -, performed⟩ := steps serve []
  exact ⟨start, created, task, after, settled, plan, issues, positive, performed⟩

end Transactions

end StoreBench.Mix
