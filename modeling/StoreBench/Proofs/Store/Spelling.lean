import StoreBench.Proofs.Store.OrderedStore
import StoreBench.Proofs.Store.SortedTable
import StoreBench.Store.Memory

/-!
Contract: the tables of a store in memory spell the rows of an ordered store.

All bytes that are stored decode to the row under the same table and key, and there is nothing
else.  Each data call of a client that decodes or does not decode what it reads answers as the
ordered store does and keeps this.

Owns:
- `Spells`, one table of bytes beside its rows, and `Tables.Spell`, all of them;
- reads, scans, updates, insertions and deletions on tables that spell.

Does not own: which client may make a call.
-/

namespace StoreBench.Store

/-! ## Formats -/

theorem Format.encode_eq (format : Format) : format.encode = encodeRow := by
  cases format
  rfl

theorem Format.decode_eq (format : Format) : format.decode = decodeRow := by
  cases format
  rfl

theorem Format.decodeSelected_of_decodeRow {format : Format} {fields : Option (List String)}
    {bytes : List UInt8} {row : Row} (decoded : decodeRow bytes = .ok row) :
    format.decodeSelected fields bytes = .ok (row.select fields) := by
  rw [decodeSelected, decode_eq, decoded]
  rfl

/-! ## Rows -/

/-- The bytes under each key spell the row under that key. -/
structure Spells (data : Table (List UInt8)) (rows : Rows) : Prop where
  sorted : data.Sorted
  found : ∀ {key bytes}, data.get? key = some bytes →
    ∃ row, rows.lookup key = some row ∧ decodeRow bytes = .ok row
  missing : ∀ {key}, data.get? key = none → rows.lookup key = none

theorem spells_empty : Spells Table.empty ∅ := by
  refine ⟨Table.sorted_empty, ?_, fun _ => Finmap.lookup_empty _⟩
  intro key bytes got
  rw [Table.get?_empty] at got
  cases got

namespace Spells

variable {data : Table (List UInt8)} {rows : Rows}

theorem insert (spells : Spells data rows) (key : String) {bytes : List UInt8} {row : Row}
    (decodes : decodeRow bytes = .ok row) :
    Spells (data.insert key bytes) (rows.insert key row) := by
  refine ⟨spells.sorted.insert key bytes, ?_, ?_⟩
  · intro other found got
    rw [Table.get?_insert spells.sorted] at got
    by_cases same : other = key
    · subst same
      rw [if_pos rfl] at got
      cases got
      exact ⟨row, Finmap.lookup_insert _, decodes⟩
    · rw [if_neg same] at got
      rw [Finmap.lookup_insert_of_ne _ same]
      exact spells.found got
  · intro other got
    rw [Table.get?_insert spells.sorted] at got
    by_cases same : other = key
    · rw [if_pos same] at got
      cases got
    · rw [if_neg same] at got
      rw [Finmap.lookup_insert_of_ne _ same]
      exact spells.missing got

theorem erase (spells : Spells data rows) (key : String) :
    Spells (data.erase key) (rows.erase key) := by
  refine ⟨spells.sorted.erase key, ?_, ?_⟩
  · intro other found got
    rw [Table.get?_erase spells.sorted] at got
    by_cases same : other = key
    · rw [if_pos same] at got
      cases got
    · rw [if_neg same] at got
      rw [Finmap.lookup_erase_ne same]
      exact spells.found got
  · intro other got
    rw [Table.get?_erase spells.sorted] at got
    by_cases same : other = key
    · rw [same]
      exact Finmap.lookup_erase _ _
    · rw [if_neg same] at got
      rw [Finmap.lookup_erase_ne same]
      exact spells.missing got

theorem of_mem (spells : Spells data rows) {entry : String × List UInt8}
    (member : entry ∈ data.entries) :
    ∃ row, rows.lookup entry.1 = some row ∧ decodeRow entry.2 = .ok row :=
  spells.found ((Table.get?_eq_some_iff spells.sorted).2 member)

theorem mem_iff (spells : Spells data rows) {key : String} :
    key ∈ rows ↔ ∃ entry ∈ data.entries, entry.1 = key := by
  rw [Finmap.mem_iff]
  constructor
  · rintro ⟨row, stored⟩
    cases got : data.get? key with
    | none => rw [spells.missing got] at stored; cases stored
    | some bytes => exact ⟨(key, bytes), (Table.get?_eq_some_iff spells.sorted).1 got, rfl⟩
  · rintro ⟨entry, member, rfl⟩
    obtain ⟨row, stored, _⟩ := spells.of_mem member
    exact ⟨row, stored⟩

/-- Both sides walk the same keys. -/
theorem keysFrom_eq (spells : Spells data rows) (start : String) :
    rows.keysFrom start = (data.startingAt start).map Prod.fst := by
  have ascending : ((data.startingAt start).map Prod.fst).Pairwise (· < ·) :=
    List.pairwise_map.2 (List.Pairwise.filter _ spells.sorted)
  have same : rows.keys.filter (KeyLe start) = ((data.startingAt start).map Prod.fst).toFinset := by
    ext key
    rw [Finset.mem_filter, Finmap.mem_keys, List.mem_toFinset, List.mem_map, keyLe_iff_le,
      spells.mem_iff]
    simp only [Table.startingAt, List.mem_filter, keyBefore, Bool.not_eq_true',
      decide_eq_false_iff_not, not_lt]
    constructor
    · rintro ⟨⟨entry, member, rfl⟩, above⟩
      exact ⟨entry, ⟨member, above⟩, rfl⟩
    · rintro ⟨entry, ⟨member, above⟩, rfl⟩
      exact ⟨⟨entry, member, rfl⟩, above⟩
  rw [Rows.keysFrom, same, List.toFinset_sort]
  · exact ascending.imp fun below => keyLe_iff_le.2 (le_of_lt below)
  · exact ascending.imp ne_of_lt

/-- Decoding entries gives their rows, and does not fail. -/
theorem decodeAll_eq (spells : Spells data rows) (client : MemoryClient)
    (fields : Option (List String)) {entries : List (String × List UInt8)}
    (members : ∀ entry ∈ entries, entry ∈ data.entries) :
    client.decodeAll fields entries =
      (((entries.map Prod.fst).filterMap rows.lookup).map (Row.select fields), .ok ()) := by
  induction entries with
  | nil => rfl
  | cons entry rest inductionHypothesis =>
    obtain ⟨row, stored, decoded⟩ := spells.of_mem (members entry List.mem_cons_self)
    have tail := inductionHypothesis fun other inRest =>
      members other (List.mem_cons_of_mem _ inRest)
    rw [MemoryClient.decodeAll, Format.decodeSelected_of_decodeRow decoded, tail, List.map_cons,
      List.filterMap_cons, stored]
    rfl

end Spells

/-! ## Tables -/

/-- The tables hold every row of the contents as bytes. -/
structure Tables.Spell (tables : Tables) (contents : Contents) : Prop where
  sorted : Table.Sorted tables
  spells : ∀ table, Spells (tables.rows table) (contents table)

namespace Tables

theorem rows_insert {tables : Tables} (sorted : Table.Sorted tables) (table : String)
    (data : Table (List UInt8)) :
    Tables.rows (Table.insert tables table data) = Function.update tables.rows table data := by
  funext other
  rw [Tables.rows, Table.get?_insert sorted, Function.update_apply]
  by_cases same : other = table
  · rw [if_pos same, if_pos same, Option.getD_some]
  · rw [if_neg same, if_neg same]
    rfl

namespace Spell

variable {tables : Tables} {contents : Contents}

theorem empty : Tables.Spell Table.empty fun _ => ∅ := ⟨Table.sorted_empty, fun _ => spells_empty⟩

/-- A table that spells its new rows may stand for the one of old. -/
theorem insert (spell : tables.Spell contents) (table : String) {data : Table (List UInt8)}
    {rows : Rows} (spells : Spells data rows) :
    Tables.Spell (Table.insert tables table data) (Function.update contents table rows) := by
  refine ⟨spell.sorted.insert table data, ?_⟩
  intro other
  rw [rows_insert spell.sorted, Function.update_apply, Function.update_apply]
  by_cases same : other = table
  · rw [if_pos same, if_pos same]
    exact spells
  · rw [if_neg same, if_neg same]
    exact spell.spells other

theorem put (spell : tables.Spell contents) (table key : String) {bytes : List UInt8} {row : Row}
    (decodes : decodeRow bytes = .ok row) :
    (tables.put table key bytes).Spell
      (Function.update contents table ((contents table).insert key row)) :=
  spell.insert table ((spell.spells table).insert key decodes)

theorem delete (spell : tables.Spell contents) (table key : String) :
    (MemoryClient.delete tables table key).Spell
      (Function.update contents table ((contents table).erase key)) := by
  have erased := (spell.spells table).erase key
  rw [MemoryClient.delete]
  cases got : Table.get? tables table with
  | some data =>
    rw [Tables.rows, got, Option.getD_some] at erased
    exact spell.insert table erased
  | none =>
    -- a table that was never written stays so
    refine ⟨spell.sorted, ?_⟩
    intro other
    rw [Function.update_apply]
    by_cases same : other = table
    · rw [if_pos same, same, Tables.rows, got]
      rw [Tables.rows, got] at erased
      exact erased
    · rw [if_neg same]
      exact spell.spells other

end Spell

end Tables

/-! ## Data calls on the tables -/

section
variable {clients : Nat} {store : OrderedStore clients} {tables : Tables}

theorem serve_read (spell : tables.Spell store.contents) (client : MemoryClient)
    (table key : String) (fields : Option (List String)) :
    store.serve client.decodesOnRead (.read table key fields) =
      (client.read tables table key fields, store) := by
  rw [OrderedStore.serve, MemoryClient.read]
  cases got : (tables.rows table).get? key with
  | none => rw [(spell.spells table).missing got]
  | some bytes =>
    obtain ⟨row, stored, decoded⟩ := (spell.spells table).found got
    simp only [stored, Format.decodeSelected_of_decodeRow decoded]

theorem serve_scan (spell : tables.Spell store.contents) (client : MemoryClient)
    (table start : String) (count : Nat) (fields : Option (List String)) :
    store.serve client.decodesOnRead (.scan table start count fields) =
      (client.scan tables table start count fields, store) := by
  have inTable : ∀ entry ∈ ((tables.rows table).startingAt start).take count,
      entry ∈ (tables.rows table).entries :=
    fun entry member => List.mem_of_mem_filter (List.mem_of_mem_take member)
  have decoded := (spell.spells table).decodeAll_eq client fields inTable
  simp only [OrderedStore.serve, MemoryClient.scan, (spell.spells table).keysFrom_eq, decoded,
    ← List.map_take]
  split <;> rfl

/-- What is stored decodes to the row that was to be stored. -/
theorem store_eq (spell : tables.Spell store.contents) (client : MemoryClient)
    (table key : String) (row : Row) :
    (∃ fault, client.format.encode row = .error fault ∧
      store.store table key row = (.failed fault, store)) ∨
    (∃ bytes, client.format.encode row = .ok bytes ∧
      store.store table key row = (.bare .ok, store.put table key row) ∧
      (tables.put table key bytes).Spell (store.put table key row).contents) := by
  rw [Format.encode_eq, OrderedStore.store]
  cases long : row.tooLong? with
  | some length => exact .inl ⟨_, by rw [encodeRow_eq, long], rfl⟩
  | none =>
    have encoded : encodeRow row = .ok row.bytes := by rw [encodeRow_eq, long]
    exact .inr ⟨_, encoded, rfl, spell.put table key (decodeRow_eq_ok_iff.2 encoded)⟩

theorem serve_update (spell : tables.Spell store.contents) (client : MemoryClient)
    (table key : String) (values : Row) :
    ∃ contents, store.serve client.decodesOnRead (.update table key values) =
        (⟨(client.update tables table key values).1, [], []⟩, { store with contents }) ∧
      (client.update tables table key values).2.Spell contents := by
  rw [OrderedStore.serve, MemoryClient.update]
  cases got : (tables.rows table).get? key with
  | none =>
    rw [(spell.spells table).missing got]
    exact ⟨_, rfl, spell⟩
  | some bytes =>
    obtain ⟨row, stored, decoded⟩ := (spell.spells table).found got
    simp only [stored, Format.decode_eq, decoded]
    rcases store_eq spell client table key (row.merge values) with
      ⟨fault, refused, same⟩ | ⟨merged, encoded, same, spelled⟩
    · rw [refused, same]
      exact ⟨_, rfl, spell⟩
    · rw [encoded, same]
      exact ⟨_, rfl, spelled⟩

end

end StoreBench.Store
