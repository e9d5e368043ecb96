import StoreBench.Capacity
import StoreBench.Keys.Counter
import StoreBench.Keys.Pool
import StoreBench.Keys.Text
import StoreBench.Mix.Options
import StoreBench.Mix.Randomness
import StoreBench.Mix.Workload
import StoreBench.Text.Quoted

/-!
Contract: the standard workload, a weighted mix of transactions on one table.

Initial records are stored under the keys below the record count.  Reads, updates, scans and
deletes are about these; inserts take fresh keys behind them, each known to be written once
its call succeeds.

Owns: `Transactions`, its construction from options, its steps and its description.
-/

namespace StoreBench.Mix

/-- Where the keys of the initial records come from. -/
inductive LoadKeys
  | ordered (counter : Keys.Counter)
  | random (pool : Keys.KeyPool)
  deriving DecidableEq, Repr

/-- The key of the next initial record. -/
def LoadKeys.next : LoadKeys → UInt64 × LoadKeys
  | .ordered counter => (counter.next.1, .ordered counter.next.2)
  | .random pool => (pool.next.1, .random pool.next.2)

/-- The standard workload. -/
structure Transactions where
  options : Options
  loadKeys : LoadKeys
  insertKeys : Keys.AcknowledgedPool

namespace Transactions

/-- The operations of a mix with their weights, in the order in which they are chosen from. -/
def mixture (options : Options) : List (Operation × Float) :=
  [(.read, options.readProportion), (.update, options.updateProportion),
    (.insert, options.insertProportion), (.scan, options.scanProportion),
    (.delete, options.deleteProportion)]

/-- The operations that occur. -/
def weighted (options : Options) : List (Operation × Float) :=
  (mixture options).filter (·.2 > 0.0)

def operations (workload : Transactions) : List Operation :=
  (weighted workload.options).map Prod.fst

def weights (workload : Transactions) : List Float :=
  (weighted workload.options).map Prod.snd

/-- Whether the weights have a finite total, and a memory may hold what a workload keeps: the keys
that it draws, of 8 bytes each, and the names of fields, of 24. -/
def isFeasible (options : Options) : Bool :=
  (totalWeight ((weighted options).map Prod.snd)).isFinite &&
    canHold options.operationCount 8 && canHold options.fieldCount 24 &&
    (options.insertOrder == .ordered || canHold options.recordCount 8)

/-- A workload with options that pass their check.  `arrange` gives the keys of each range their
random order.  Construction breaks off if the options are not feasible, and if the keys do not all
have 64 bits. -/
def create (arrange : Array UInt64 → Array UInt64) (options : Options) :
    Except Stop Transactions := do
  match options.validate with
  | .error fault => throw (.failed fault)
  | .ok () =>
    unless isFeasible options do throw .panicked
    let loadKeys ← match options.insertOrder with
      | .ordered => pure (.ordered ⟨0⟩)
      | .random =>
        match Keys.KeyPool.create? arrange 0 options.recordCount with
        | some pool => pure (.random pool)
        | none => throw .panicked
    match Keys.AcknowledgedPool.create? arrange options.recordCount options.operationCount with
    | some insertKeys => return { options, loadKeys, insertKeys }
    | none => throw .panicked

def fieldName (index : Nat) : String := s!"field{index}"

/-- The bytes that values consist of. -/
def alphabet : List UInt8 :=
  "ABCDEFGHIJKLMNOPQRSTUVWXYZabcdefghijklmnopqrstuvwxyz0123456789".toList.map (·.toNat.toUInt8)

/-- A letter or a digit. -/
def letter (draw : Nat) : UInt8 := alphabet.getD (draw % alphabet.length) 0

/-- A value of the length that the options ask for, from the draws starting with `first`. -/
def value (options : Options) (choices : Choices) (first : Nat) : List UInt8 :=
  (List.range options.fieldLength.toNat).map fun offset => letter (choices.draws (first + offset))

/-- How many draws a step makes before those for values. -/
def valueDraws : Nat := 3

def fullRow (options : Options) (choices : Choices) : Store.Row :=
  (List.range options.fieldCount.toNat).map fun index =>
    ⟨fieldName index, value options choices (valueDraws + index * options.fieldLength.toNat)⟩

def someField (options : Options) (draw : Nat) : Option String :=
  (Choices.pick draw options.fieldCount.toNat).map fieldName

def someKey (options : Options) (draw : Nat) : Option String :=
  (Choices.pick draw options.recordCount.toNat).map fun record => Keys.recordKey record.toUInt64

/-- What an update writes: all fields, or some one. -/
def updateRow (options : Options) (choices : Choices) : Option Store.Row :=
  if options.writeAllFields then some (fullRow options choices)
  else
    (someField options (choices.draws 1)).map fun name =>
      [⟨name, value options choices valueDraws⟩]

/-- What a read or a scan asks for: all fields, or some one. -/
def readFields (options : Options) (draw : Nat) : Option (Option (List String)) :=
  if options.readAllFields then some none
  else (someField options draw).map fun name => some [name]

/-- The call of an operation on initial records; none if there is nothing to choose from. -/
def callOf (options : Options) (choices : Choices) : Operation → Option Store.Call
  | .read => do
    let key ← someKey options (choices.draws 0)
    let fields ← readFields options (choices.draws 1)
    return .read options.table key fields
  | .update => do
    let key ← someKey options (choices.draws 0)
    let values ← updateRow options choices
    return .update options.table key values
  | .scan => do
    let key ← someKey options (choices.draws 0)
    let shorter ← Choices.pick (choices.draws 1) options.maxScanLength.toNat
    let fields ← readFields options (choices.draws 2)
    return .scan options.table key (shorter + 1) fields
  | .delete => do
    let key ← someKey options (choices.draws 0)
    return .delete options.table key
  | .insert => none

def planLoad (choices : Choices) (workload : Transactions) : Plan × Transactions :=
  let options := workload.options
  let (record, loadKeys) := workload.loadKeys.next
  let row := fullRow options choices
  (.tasks [⟨.insert options.table (Keys.recordKey record) row, none⟩], { workload with loadKeys })

/-- Makes a transaction of a chosen kind.  A step that has nothing to choose from breaks off. -/
def planTransaction (choices : Choices) (workload : Transactions) : Plan × Transactions :=
  let options := workload.options
  let operations := workload.operations
  match (Choices.pick choices.kind operations.length).bind (operations[·]?) with
  | none => (.stop .panicked, workload)
  | some .insert =>
    let (record, insertKeys) := workload.insertKeys.next
    let row := fullRow options choices
    (.tasks [⟨.insert options.table (Keys.recordKey record) row, some record⟩],
      { workload with insertKeys })
  | some operation =>
    match callOf options choices operation with
    | some call => (.tasks [⟨call, none⟩], workload)
    | none => (.stop .panicked, workload)

/-- Acknowledges the key of an insert that succeeded. -/
def settle (task : Task) (status : Status) (workload : Transactions) : Transactions :=
  match task.key with
  | some key =>
    if status.isOk then { workload with insertKeys := workload.insertKeys.acknowledge key }
    else workload
  | none => workload

def planStep (step : Step) (choices : Choices) (workload : Transactions) : Plan × Transactions :=
  match step with
  | .load => planLoad choices workload
  | .transaction _ => planTransaction choices workload

/-- The standard workload as the workload of a phase. -/
def workload : Workload Transactions := .strict (fun _ => planStep) settle

theorem workload_settle_ok {index : Nat} {task : Task} {later : List Task} {reply : Store.Reply}
    {status : Status} (outcome : reply.outcome = .ok status) (work : Transactions) :
    workload.settle index task later reply work = (.tasks later, settle task status work) :=
  Workload.strict_settle_ok outcome

theorem workload_settle_error {index : Nat} {task : Task} {later : List Task} {reply : Store.Reply}
    {fault : Failure} (outcome : reply.outcome = .error fault) (work : Transactions) :
    workload.settle index task later reply work = (.stop (.failed fault), work) :=
  Workload.strict_settle_error outcome

def label : Operation → String
  | .read => "Read"
  | .update => "Update"
  | .insert => "Insert"
  | .scan => "Scan"
  | .delete => "Delete"

def optionsDescription (options : Options) : String :=
  let number := Decimal.Layout.description.text
  "WorkloadOptions \x7b table: " ++ Text.quoted options.table ++
    s!", record_count: {options.recordCount}, operation_count: {options.operationCount}" ++
    s!", field_count: {options.fieldCount}, field_length: {options.fieldLength}" ++
    ", read_proportion: " ++ number options.readProportion ++
    ", update_proportion: " ++ number options.updateProportion ++
    ", insert_proportion: " ++ number options.insertProportion ++
    ", scan_proportion: " ++ number options.scanProportion ++
    ", delete_proportion: " ++ number options.deleteProportion ++
    s!", max_scan_length: {options.maxScanLength}" ++
    s!", read_all_fields: {options.readAllFields}, write_all_fields: {options.writeAllFields}" ++
    ", insert_order: " ++ (if options.insertOrder = .ordered then "Ordered" else "Random") ++
    " \x7d"

def description (workload : Transactions) : String :=
  "CoreWorkload \x7b options: " ++ optionsDescription workload.options ++
    ", ops: [" ++ ", ".intercalate (workload.operations.map label) ++ "], .. \x7d"

end Transactions

end StoreBench.Mix
