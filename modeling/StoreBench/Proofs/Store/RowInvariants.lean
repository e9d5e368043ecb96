import StoreBench.Proofs.Store.Refinement

/-!
Contract: what all rows of a table have in common, whatever is asked of the store.

A property that every inserted row has, and that updates do not take away, is one of all rows of
the table, as long as there are any.  So all bytes of the table decode to rows that have it.

Owns:
- `Call.Keeps`, the calls that respect a property of rows;
- `OrderedStore.AllRows`, and that requests keep it;
- what the property means for the bytes of a store in memory.

Does not own: any property in particular.
-/

namespace StoreBench.Store

/-- The call writes nothing into the table that would take the property from a row. -/
def Call.Keeps (table : String) (P : Row → Prop) : Call → Prop
  | .insert other _ values => other = table → P values
  | .update other _ values => other = table → ∀ row, P row → P (row.merge values)
  | .read .. | .scan .. | .delete .. => True

namespace OrderedStore

variable {clients : Nat} {store : OrderedStore clients} {table : String} {P : Row → Prop}

/-- Every row of the table has the property. -/
def AllRows (table : String) (P : Row → Prop) (store : OrderedStore clients) : Prop :=
  ∀ key row, (store.contents table).lookup key = some row → P row

theorem allRows_unheld : (unheld : OrderedStore clients).AllRows table P := by
  intro key row found
  cases (Finmap.lookup_empty key).symm.trans found

theorem AllRows.congr {other : OrderedStore clients} (all : store.AllRows table P)
    (same : other.contents = store.contents) : other.AllRows table P := by
  intro key row found
  rw [same] at found
  exact all key row found

theorem AllRows.put (all : store.AllRows table P) {other : String} (key : String) {row : Row}
    (fits : other = table → P row) : (store.put other key row).AllRows table P := by
  intro found stored lookup
  simp only [OrderedStore.put, Function.update_apply] at lookup
  split at lookup
  · next same =>
    by_cases here : found = key
    · rw [here, Finmap.lookup_insert] at lookup
      cases lookup
      exact fits same.symm
    · rw [Finmap.lookup_insert_of_ne _ here, ← same] at lookup
      exact all found stored lookup
  · exact all found stored lookup

theorem AllRows.remove (all : store.AllRows table P) (other key : String) :
    (store.remove other key).AllRows table P := by
  intro found stored lookup
  simp only [OrderedStore.remove, Function.update_apply] at lookup
  split at lookup
  · next same =>
    by_cases here : found = key
    · rw [here, Finmap.lookup_erase] at lookup
      cases lookup
    · rw [Finmap.lookup_erase_ne here, ← same] at lookup
      exact all found stored lookup
  · exact all found stored lookup

theorem AllRows.stored (all : store.AllRows table P) {other : String} (key : String) {row : Row}
    (fits : other = table → P row) : (store.store other key row).2.AllRows table P := by
  rw [OrderedStore.store]
  split
  · exact all
  · exact all.put key fits

theorem AllRows.serve (all : store.AllRows table P) {call : Call} (keeps : call.Keeps table P)
    (decodes : Bool) : (store.serve decodes call).2.AllRows table P := by
  cases call with
  | read other key fields =>
    rw [OrderedStore.serve]
    split <;> exact all
  | scan other start count fields => exact all
  | update other key values =>
    rw [OrderedStore.serve]
    split
    · exact all
    · next row stored =>
      refine all.stored key fun same => keeps same row ?_
      rw [same] at stored
      exact all key row stored
  | insert other key values => exact all.stored key keeps
  | delete other key => exact all.remove other key

theorem AllRows.settle (all : store.AllRows table P) : store.settle.AllRows table P := by
  rw [OrderedStore.settle]
  split
  · exact AllRows.congr allRows_unheld rfl
  · exact all

theorem AllRows.answer (all : store.AllRows table P) {request : Request clients}
    (keeps : ∀ client call, request = .data client call → call.Keeps table P)
    (decodes : Fin clients → Bool) : (store.answer decodes request).2.AllRows table P := by
  cases request with
  | init client =>
    rw [OrderedStore.answer]
    split
    · exact all
    · exact all.congr rfl
  | cleanup client =>
    rw [OrderedStore.answer]
    split
    · exact AllRows.settle (all.congr rfl)
    · exact all
  | data client call =>
    rw [OrderedStore.answer]
    split
    · exact all.serve (keeps client call rfl) _
    · exact all
  | acquire => exact all.congr rfl
  | release => exact AllRows.settle (all.congr rfl)

end OrderedStore

/-- In the open store all bytes of the table decode to rows with the property. -/
theorem Represents.decoded {clients : Nat} {decodes : Fin clients → Bool} {world : MemoryWorld}
    {store : OrderedStore clients} (represents : Represents decodes world store) {table : String}
    {P : Row → Prop} (all : store.AllRows table P) {opening : Nat}
    (handle : world.shared.lease.handle = some opening) {entry : String × List UInt8}
    (member : entry ∈ ((world.shared.tables opening).rows table).entries) :
    ∃ row, Format.single.decode entry.2 = .ok row ∧ P row := by
  obtain ⟨_, _, spell⟩ := represents.holds.opened handle
  obtain ⟨row, stored, decoded⟩ := (spell.spells table).of_mem member
  exact ⟨row, decoded, all _ row stored⟩

end StoreBench.Store
