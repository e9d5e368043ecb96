import StoreBench.Proofs.Store.Refinement
import StoreBench.Proofs.Store.RowMerging

/-!
Contract: updates of a stored row overwrite fields and lose none.

An update of a client puts the bytes of the merged row where the bytes of the row were, and
nothing else changes.  So a sequence of updates leaves the bytes of the row merged with all
their values, and what is known of merges is known of the stored bytes.

Owns:
- `Row.Encodable`, rows that fit the format;
- `MemoryWorld.Stores` and `MemoryWorld.rewrite`, a row under its key and another in its place;
- the laws of updates, by one client or several.
-/

namespace StoreBench.Store

/-! ## Rows that fit the format -/

namespace Row

def Encodable (row : Row) : Prop := ∃ data, Format.single.encode row = .ok data

variable {row values : Row}

theorem encodable_iff_tooLong? : row.Encodable ↔ row.tooLong? = none := by
  rw [Encodable, Format.encode_eq, encodeRow_eq]
  cases row.tooLong? with
  | none => exact iff_of_true ⟨_, rfl⟩ rfl
  | some length =>
    exact iff_of_false (fun ⟨_, encoded⟩ => nomatch encoded) (fun none => nomatch none)

theorem Encodable.encodeRow_eq (encodable : row.Encodable) : encodeRow row = .ok row.bytes := by
  rw [StoreBench.Store.encodeRow_eq, encodable_iff_tooLong?.1 encodable]

theorem Encodable.append (first : row.Encodable) (second : values.Encodable) :
    Row.Encodable (row ++ values) := by
  rw [encodable_iff_tooLong?, tooLong?_eq_none_iff] at first second ⊢
  intro field member
  exact (List.mem_append.1 member).elim (first field) (second field)

theorem Encodable.merge (stored : row.Encodable) (written : values.Encodable) :
    (row.merge values).Encodable := by
  rw [encodable_iff_tooLong?, tooLong?_eq_none_iff] at stored written ⊢
  intro field member
  exact (mem_merge member).elim (stored field) (written field)

end Row

/-! ## A row in its place -/

namespace Tables

theorem rows_put (tables : Tables) (table key : String) (data : List UInt8) :
    (tables.put table key data).rows table = (tables.rows table).insert key data := by
  rw [put, rows, Table.get?_insert_self]
  rfl

theorem put_put (tables : Tables) (table key : String) (data other : List UInt8) :
    (tables.put table key data).put table key other = tables.put table key other := by
  rw [put, rows_put, Table.insert_insert, put, Table.insert_insert]
  rfl

end Tables

theorem SharedMemory.setTables_setTables (shared : SharedMemory) (opening : Nat)
    (tables others : Tables) :
    (shared.setTables opening tables).setTables opening others =
      shared.setTables opening others := by
  simp only [setTables, List.map_map, mk.injEq, true_and]
  apply List.map_congr_left
  intro entry _
  by_cases here : entry.1 = opening
  · simp [here]
  · simp [here]

namespace MemoryWorld

/-- The bytes under the key decode to the row. -/
def Stores (world : MemoryWorld) (opening : Nat) (table key : String) (row : Row) : Prop :=
  ∃ data, ((world.shared.tables opening).rows table).get? key = some data ∧
    Format.single.decode data = .ok row

/-- The bytes of the row stand under the key. -/
def rewrite (world : MemoryWorld) (opening : Nat) (table key : String) (row : Row) : MemoryWorld :=
  world.setTables opening ((world.shared.tables opening).put table key row.bytes)

variable {world : MemoryWorld} {opening : Nat} {table key : String} {row values : Row}

theorem Stores.encodable (stores : world.Stores opening table key row) : row.Encodable := by
  obtain ⟨data, _, decoded⟩ := stores
  exact ⟨data, (single_decode_iff_encode.1 row data).1 decoded⟩

theorem Stores.isSome_lookup (stores : world.Stores opening table key row) :
    (world.shared.openings.lookup opening).isSome := by
  obtain ⟨data, found, _⟩ := stores
  cases known : world.shared.openings.lookup opening with
  | some tables => rfl
  | none =>
    rw [SharedMemory.tables, known] at found
    cases found

theorem tables_rewrite (stores : world.Stores opening table key row) (other : Row) :
    (world.rewrite opening table key other).shared.tables opening =
      (world.shared.tables opening).put table key other.bytes := by
  rw [rewrite, setTables, SharedMemory.tables,
    SharedMemory.lookup_setTables stores.isSome_lookup]
  rfl

theorem Stores.rewrite (stores : world.Stores opening table key row) {other : Row}
    (encodable : other.Encodable) :
    (world.rewrite opening table key other).Stores opening table key other := by
  refine ⟨other.bytes, ?_, decodeRow_eq_ok_iff.2 encodable.encodeRow_eq⟩
  rw [tables_rewrite stores, Tables.rows_put, Table.get?_insert_self]

theorem rewrite_rewrite (stores : world.Stores opening table key row) (first second : Row) :
    (world.rewrite opening table key first).rewrite opening table key second =
      world.rewrite opening table key second := by
  rw [MemoryWorld.rewrite, tables_rewrite stores, Tables.put_put, MemoryWorld.rewrite,
    MemoryWorld.rewrite, setTables, setTables, setTables, SharedMemory.setTables_setTables]

/-- An update puts the merged row in the place of the row. -/
theorem call_update (stores : world.Stores opening table key row) (encodable : values.Encodable)
    {index : Nat} (holds : world.openingOf index = some opening) :
    world.call index (.update table key values) =
      (.bare .ok, world.rewrite opening table key (row.merge values)) := by
  obtain ⟨client, found, held⟩ := Option.bind_eq_some_iff.1 holds
  have merged : client.format.encode (row.merge values) = .ok (row.merge values).bytes := by
    rw [Format.encode_eq]
    exact (stores.encodable.merge encodable).encodeRow_eq
  obtain ⟨data, present, decoded⟩ := stores
  have updated : client.update (world.shared.tables opening) table key values =
      (.ok .ok, (world.shared.tables opening).put table key (row.merge values).bytes) := by
    rw [MemoryClient.update, present]
    have read : client.format.decode data = .ok row := decoded
    simp only [read, merged]
  simp only [MemoryWorld.call, found, held, updated]
  rfl

def updated (world : MemoryWorld) (index : Nat) (table key : String) (values : Row) :
    MemoryWorld :=
  (world.call index (.update table key values)).2

theorem updated_eq (stores : world.Stores opening table key row) (encodable : values.Encodable)
    {index : Nat} (holds : world.openingOf index = some opening) :
    world.updated index table key values = world.rewrite opening table key (row.merge values) :=
  congrArg Prod.snd (call_update stores encodable holds)

/-- Two updates of clients that have the opening put the row merged twice in its place. -/
theorem updated_updated (stores : world.Stores opening table key row) {left right : Row}
    (leftFits : left.Encodable) (rightFits : right.Encodable) {first second : Nat}
    (holdsFirst : world.openingOf first = some opening)
    (holdsSecond : world.openingOf second = some opening) :
    (world.updated first table key left).updated second table key right =
      world.rewrite opening table key ((row.merge left).merge right) := by
  have between := stores.rewrite (stores.encodable.merge leftFits)
  rw [updated_eq stores leftFits holdsFirst, updated_eq between rightFits holdsSecond,
    rewrite_rewrite stores]

/-- **Updates overwrite fields and lose none.**  The clients `first` and `second` have the opening
in which a row is stored.  An update is answered and leaves the row overwritten, and made again it
changes nothing.  Two updates are one update with both lists of values.  If these have no name
in common, the order of the updates matters for the order of the fields that they append and for
nothing else: in either order the last value of every name is there, and if the row has all
their names the bytes are the same. -/
theorem updates_overwrite (stores : world.Stores opening table key row) {first second : Nat}
    (holdsFirst : world.openingOf first = some opening)
    (holdsSecond : world.openingOf second = some opening) :
    (∀ values : Row, values.Encodable →
      (world.call first (.update table key values)).1 = .bare .ok ∧
      (∃ merged, (world.updated first table key values).Stores opening table key merged ∧
        row.Overwritten values merged) ∧
      (world.updated first table key values).updated second table key values =
        world.updated first table key values) ∧
    ∀ left right : Row, left.Encodable → right.Encodable →
      (world.updated first table key left).updated second table key right =
        world.updated first table key (left ++ right) ∧
      (List.Disjoint (left.map Field.name) (right.map Field.name) →
        (∃ leftFirst rightFirst : Row,
          ((world.updated first table key left).updated second table key right).Stores
            opening table key leftFirst ∧
          ((world.updated second table key right).updated first table key left).Stores
            opening table key rightFirst ∧
          leftFirst.Perm rightFirst ∧
          ∀ values ∈ [left, right], ∀ name ∈ values.map Field.name,
            leftFirst.first? name = values.last? name ∧
              rightFirst.first? name = values.last? name) ∧
        ((∀ field ∈ left ++ right, field.name ∈ row.map Field.name) →
          (world.updated first table key left).updated second table key right =
            (world.updated second table key right).updated first table key left)) := by
  have fits := stores.encodable
  constructor
  · intro values valuesFit
    refine ⟨congrArg Prod.fst (call_update stores valuesFit holdsFirst), ?_, ?_⟩
    · rw [updated_eq stores valuesFit holdsFirst]
      exact ⟨_, stores.rewrite (fits.merge valuesFit), Row.overwritten_merge row values⟩
    · rw [updated_updated stores valuesFit valuesFit holdsFirst holdsSecond,
        Row.merge_merge_self, updated_eq stores valuesFit holdsFirst]
  · intro left right leftFits rightFits
    rw [updated_updated stores leftFits rightFits holdsFirst holdsSecond,
      updated_updated stores rightFits leftFits holdsSecond holdsFirst,
      updated_eq stores (leftFits.append rightFits) holdsFirst, Row.merge_append]
    refine ⟨rfl, fun apart => ?_⟩
    constructor
    · refine ⟨_, _, stores.rewrite ((fits.merge leftFits).merge rightFits),
        stores.rewrite ((fits.merge rightFits).merge leftFits), Row.merge_merge_perm row apart, ?_⟩
      intro values member name mentioned
      rcases List.mem_cons.1 member with rfl | member
      · exact ⟨Row.first?_merge_merge mentioned (apart mentioned),
          Row.first?_merge_of_mentioned mentioned⟩
      · obtain rfl := List.mem_singleton.1 member
        exact ⟨Row.first?_merge_of_mentioned mentioned,
          Row.first?_merge_merge mentioned fun inLeft => apart inLeft mentioned⟩
    · intro known
      rw [Row.merge_merge_comm apart
        (fun field member => known field (List.mem_append_left _ member))
        (fun field member => known field (List.mem_append_right _ member))]

/-- A row with a name twice, and two clients that update different fields of it: one of them has two
values for a new name. -/
theorem updates_overwrite_of_duplicates :
    let client : MemoryClient := ⟨.single, true, none⟩
    let row : Row := [⟨"a", [1]⟩, ⟨"b", [2]⟩, ⟨"a", [3]⟩]
    let left : Row := [⟨"b", [4]⟩, ⟨"c", [5]⟩, ⟨"c", [6]⟩]
    let right : Row := [⟨"a", [7]⟩, ⟨"d", []⟩]
    let opened := (init alwaysOpens 1 (init alwaysOpens 0 (.opening [client, client])).2).2
    let world := (opened.call 0 (.insert "t" "k" row)).2
    world.Stores 0 "t" "k" row ∧ world.openingOf 0 = some 0 ∧ world.openingOf 1 = some 0 ∧
      left.Encodable ∧ right.Encodable ∧
      List.Disjoint (left.map Field.name) (right.map Field.name) ∧
      (world.updated 0 "t" "k" left).updated 1 "t" "k" right =
        world.updated 0 "t" "k" (left ++ right) ∧
      ∃ leftFirst rightFirst : Row,
        ((world.updated 0 "t" "k" left).updated 1 "t" "k" right).Stores 0 "t" "k" leftFirst ∧
        ((world.updated 1 "t" "k" right).updated 0 "t" "k" left).Stores 0 "t" "k" rightFirst ∧
        leftFirst.Perm rightFirst := by
  intro client row left right opened world
  have holdsFirst : world.openingOf 0 = some 0 := by decide +kernel
  have holdsSecond : world.openingOf 1 = some 0 := by decide +kernel
  have leftFits : left.Encodable := ⟨_, rfl⟩
  have rightFits : right.Encodable := ⟨_, rfl⟩
  have stores : world.Stores 0 "t" "k" row :=
    ⟨row.bytes, by decide +kernel, decodeRow_eq_ok_iff.2 rfl⟩
  have distinct : ∀ name ∈ left.map Field.name, name ∉ right.map Field.name := by decide
  have apart : List.Disjoint (left.map Field.name) (right.map Field.name) :=
    fun name inLeft inRight => distinct name inLeft inRight
  obtain ⟨joined, exchanged⟩ :=
    (updates_overwrite stores holdsFirst holdsSecond).2 left right leftFits rightFits
  obtain ⟨leftFirst, rightFirst, storesLeft, storesRight, same, _⟩ := (exchanged apart).1
  exact ⟨stores, holdsFirst, holdsSecond, leftFits, rightFits, apart, joined,
    leftFirst, rightFirst, storesLeft, storesRight, same⟩

end MemoryWorld

end StoreBench.Store
