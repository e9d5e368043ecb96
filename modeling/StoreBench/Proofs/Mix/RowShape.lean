import StoreBench.Mix.Transactions
import StoreBench.Proofs.Store.RowMerging

/-!
Contract: the shape of the rows that the standard workload writes.

All rows have the same fields in the same order, and all values have the same length.  An update
writes values of that length over fields that every row has, so it adds no field and moves none.

Owns:
- `Options.HasShape`, rows of that shape, and `Options.IsPatch`, what may be written over them;
- `Options.IsRecord`, the keys of the initial records, and `Options.Admits`, the calls of the
  workload.

Does not own: the store.
-/

namespace StoreBench

namespace Mix

open Keys (recordKey)
open Store (Call Row)

/-! ## Shapes -/

/-- An ASCII digit or letter. -/
def IsAlphanumeric (byte : UInt8) : Prop :=
  '0'.toNat ≤ byte.toNat ∧ byte.toNat ≤ '9'.toNat ∨
    'A'.toNat ≤ byte.toNat ∧ byte.toNat ≤ 'Z'.toNat ∨
      'a'.toNat ≤ byte.toNat ∧ byte.toNat ≤ 'z'.toNat

instance : DecidablePred IsAlphanumeric := fun _ => inferInstanceAs (Decidable (_ ∨ _))

namespace Options

/-- The names of the fields of every row: `field0`, `field1`, and so on. -/
def fieldNames (options : Options) : List String :=
  (List.range options.fieldCount.toNat).map fun index => "field" ++ toString index

/-- A value of the length that the options ask for, of digits and letters. -/
def IsValue (options : Options) (value : List UInt8) : Prop :=
  value.length = options.fieldLength.toNat ∧ ∀ byte ∈ value, IsAlphanumeric byte

/-- A row with every field in its place. -/
structure HasShape (options : Options) (row : Row) : Prop where
  names : row.map Store.Field.name = options.fieldNames
  values : ∀ field ∈ row, options.IsValue field.value

/-- New values for fields that every row has. -/
def IsPatch (options : Options) (values : Row) : Prop :=
  ∀ field ∈ values, field.name ∈ options.fieldNames ∧ options.IsValue field.value

variable {options : Options} {row values : Row}

theorem nodup_fieldNames (options : Options) : options.fieldNames.Nodup := by
  rw [fieldNames, List.nodup_iff_pairwise_ne, List.pairwise_map]
  refine List.nodup_range.imp fun different same => different ?_
  have texts := congrArg String.toList same
  rw [String.toList_append, String.toList_append] at texts
  have numbers := congrArg (fun digits => Nat.ofDigitChars 10 digits 0)
    (List.append_cancel_left texts)
  simpa [Nat.toString_eq_ofList_toDigits] using numbers

theorem HasShape.isPatch (shaped : options.HasShape row) : options.IsPatch row := by
  intro field member
  refine ⟨?_, shaped.values field member⟩
  rw [← shaped.names]
  exact List.mem_map_of_mem member

/-- An update never changes the shape of a row. -/
theorem HasShape.merge (shaped : options.HasShape row) (patches : options.IsPatch values) :
    options.HasShape (row.merge values) := by
  refine ⟨?_, fun field member => ?_⟩
  · rw [Row.map_name_merge_of_known, shaped.names]
    intro field member
    rw [shaped.names]
    exact (patches field member).1
  · rcases Row.mem_merge member with old | new
    · exact shaped.values field old
    · exact (patches field new).2

/-- The key of an initial record. -/
def IsRecord (options : Options) (key : String) : Prop :=
  ∃ record < options.recordCount.toNat, key = recordKey record.toUInt64

/-- The calls that the workload makes: it stores whole rows, writes over fields that every row has,
and reads, updates and deletes some `keys` only. -/
inductive Admits (options : Options) (keys : String → Prop) : Call → Prop
  | read {key : String} {fields : Option (List String)} (known : keys key) :
      Admits options keys (.read options.table key fields)
  | scan {start : String} {count : Nat} {fields : Option (List String)} :
      Admits options keys (.scan options.table start count fields)
  | update {key : String} {values : Row} (known : keys key) (patches : options.IsPatch values) :
      Admits options keys (.update options.table key values)
  | insert {key : String} {row : Row} (shaped : options.HasShape row) :
      Admits options keys (.insert options.table key row)
  | delete {key : String} (known : keys key)
      (occurs : .delete ∈ (Transactions.weighted options).map Prod.fst) :
      Admits options keys (.delete options.table key)

end Options

/-! ## What the workload writes -/

theorem Choices.lt_of_pick {draw count chosen : Nat} (picked : pick draw count = some chosen) :
    chosen < count := by
  rw [pick] at picked
  split at picked
  · cases picked
  · next some_left =>
    cases picked
    exact Nat.mod_lt _ (Nat.pos_of_ne_zero some_left)

namespace Transactions

variable {options : Options} {choices : Choices}

theorem isAlphanumeric_letter (draw : Nat) : IsAlphanumeric (letter draw) := by
  have letters : ∀ index < alphabet.length, IsAlphanumeric (alphabet.getD index 0) := by
    decide +kernel
  exact letters _ (Nat.mod_lt _ (by decide +kernel))

theorem isValue_value (options : Options) (choices : Choices) (first : Nat) :
    options.IsValue (value options choices first) := by
  refine ⟨by simp [value], fun byte member => ?_⟩
  obtain ⟨offset, _, rfl⟩ := List.mem_map.1 member
  exact isAlphanumeric_letter _

theorem hasShape_fullRow (options : Options) (choices : Choices) :
    options.HasShape (fullRow options choices) := by
  refine ⟨?_, fun field member => ?_⟩
  · rw [fullRow, List.map_map]
    rfl
  · obtain ⟨index, _, rfl⟩ := List.mem_map.1 member
    exact isValue_value ..

theorem isPatch_updateRow {values : Row} (updates : updateRow options choices = some values) :
    options.IsPatch values := by
  rw [updateRow] at updates
  split at updates
  · cases updates
    exact (hasShape_fullRow options choices).isPatch
  · obtain ⟨name, chosen, rfl⟩ := Option.map_eq_some_iff.1 updates
    obtain ⟨index, picked, rfl⟩ := Option.map_eq_some_iff.1 chosen
    intro field member
    rw [List.mem_singleton.1 member]
    refine ⟨?_, isValue_value ..⟩
    exact List.mem_map_of_mem (List.mem_range.2 (Choices.lt_of_pick picked))

theorem isRecord_someKey {draw : Nat} {key : String} (chosen : someKey options draw = some key) :
    options.IsRecord key := by
  obtain ⟨record, picked, rfl⟩ := Option.map_eq_some_iff.1 chosen
  exact ⟨record, Choices.lt_of_pick picked, rfl⟩

/-- Every call on initial records is one that the options admit. -/
theorem admits_of_callOf {operation : Operation} {call : Call}
    (asked : callOf options choices operation = some call)
    (occurs : operation ∈ (weighted options).map Prod.fst) :
    options.Admits options.IsRecord call := by
  cases operation with
  | read =>
    obtain ⟨key, chosen, rest⟩ := Option.bind_eq_some_iff.1 asked
    obtain ⟨_, _, rest⟩ := Option.bind_eq_some_iff.1 rest
    cases rest
    exact .read (isRecord_someKey chosen)
  | update =>
    obtain ⟨key, chosen, rest⟩ := Option.bind_eq_some_iff.1 asked
    obtain ⟨values, updates, rest⟩ := Option.bind_eq_some_iff.1 rest
    cases rest
    exact .update (isRecord_someKey chosen) (isPatch_updateRow updates)
  | scan =>
    obtain ⟨_, _, rest⟩ := Option.bind_eq_some_iff.1 asked
    obtain ⟨_, _, rest⟩ := Option.bind_eq_some_iff.1 rest
    obtain ⟨_, _, rest⟩ := Option.bind_eq_some_iff.1 rest
    cases rest
    exact .scan
  | insert => cases asked
  | delete =>
    obtain ⟨key, chosen, rest⟩ := Option.bind_eq_some_iff.1 asked
    cases rest
    exact .delete (isRecord_someKey chosen) occurs

end Transactions

end Mix

end StoreBench
