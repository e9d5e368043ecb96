import StoreBench.Proofs.Store.Refinement

/-!
Contract: what requests do to the keys of a store in memory.

Initializations and cleanups leave them alone as long as somebody else holds the store.  Of the
data calls only inserts and deletes change them, and an insert that succeeds adds its key.

Owns:
- `Call.KeepsKeys`, and the keys after each data call;
- `SharedMemory.keysOf`, the keys that a table in memory has;
- the keys of a store that is held, from one request to the next.

Does not own: the rows under the keys.
-/

namespace StoreBench.Store

/-- A call that neither stores a row under a new key nor removes one. -/
def Call.KeepsKeys : Call → Prop
  | .read .. | .scan .. | .update .. => True
  | .insert .. | .delete .. => False

/-! ## Ordered stores -/

namespace OrderedStore

variable {clients : Nat} {store : OrderedStore clients}

theorem keys_insert (rows : Rows) (key : String) (row : Row) :
    (rows.insert key row).keys = insert key rows.keys := by
  ext other
  rw [Finmap.mem_keys, Finmap.mem_insert, Finset.mem_insert, Finmap.mem_keys]

/-- What a table holds after a row of it is set. -/
theorem keys_put (store : OrderedStore clients) (table key : String) (row : Row) (other : String) :
    ((store.put table key row).contents other).keys =
      if other = table then insert key (store.contents table).keys
      else (store.contents other).keys := by
  simp only [put, Function.update_apply]
  split
  · exact keys_insert ..
  · rfl

theorem keys_store {table key : String} {row : Row} {status : Status}
    (succeeds : (store.store table key row).1.outcome = .ok status) (other : String) :
    ((store.store table key row).2.contents other).keys =
      if other = table then insert key (store.contents table).keys
      else (store.contents other).keys := by
  rw [OrderedStore.store] at succeeds ⊢
  split at succeeds
  · cases succeeds
  · next fits => exact keys_put store table key row other

/-- A row that is stored again under its key. -/
theorem keys_store_of_mem {table key : String} (known : key ∈ (store.contents table).keys)
    (row : Row) (other : String) :
    ((store.store table key row).2.contents other).keys = (store.contents other).keys := by
  rw [OrderedStore.store]
  split
  · rfl
  · rw [keys_put]
    split
    · next same => rw [same, Finset.insert_eq_of_mem known]
    · rfl

theorem keys_serve_of_keepsKeys {call : Call} (keeps : call.KeepsKeys) (decodes : Bool)
    (other : String) :
    ((store.serve decodes call).2.contents other).keys = (store.contents other).keys := by
  cases call with
  | read table key fields =>
    rw [serve]
    split
    · rfl
    · rfl
  | scan table start count fields => rfl
  | update table key values =>
    rw [serve]
    split
    · rfl
    · next row stored =>
      have known : key ∈ (store.contents table).keys := by
        rw [Finmap.mem_keys, Finmap.mem_iff]
        exact ⟨row, stored⟩
      exact keys_store_of_mem known _ other
  | insert table key values => cases keeps
  | delete table key => cases keeps

/-- A call that fails leaves the keys alone. -/
theorem keys_serve_of_error {call : Call} {decodes : Bool} {fault : Failure}
    (fails : (store.serve decodes call).1.outcome = .error fault) (other : String) :
    ((store.serve decodes call).2.contents other).keys = (store.contents other).keys := by
  cases call with
  | insert table key row =>
    rw [serve, OrderedStore.store] at fails ⊢
    split at fails
    · rfl
    · cases fails
  | delete table key =>
    rw [serve, remove] at fails
    cases fails
  | read | scan | update =>
    rw [keys_serve_of_keepsKeys]
    trivial

/-- A key stays until it is deleted. -/
theorem mem_keys_serve {table key : String} (known : key ∈ (store.contents table).keys)
    (call : Call) (decodes : Bool) :
    key ∈ ((store.serve decodes call).2.contents table).keys ∨ call = .delete table key := by
  cases call with
  | insert other added row =>
    rw [serve, OrderedStore.store]
    split
    · exact .inl known
    · rw [keys_put]
      split
      · next same => exact .inl (Finset.mem_insert_of_mem (same ▸ known))
      · exact .inl known
  | delete other removed =>
    rw [serve, remove]
    by_cases same : other = table ∧ removed = key
    · exact .inr (by rw [same.1, same.2])
    · refine .inl ?_
      simp only [Function.update_apply]
      split
      · next here =>
        rw [Finmap.mem_keys, Finmap.mem_erase, ← here]
        exact ⟨fun other => same ⟨here.symm, other.symm⟩, Finmap.mem_keys.1 known⟩
      · exact known
  | read | scan | update =>
    refine .inl ?_
    rw [keys_serve_of_keepsKeys]
    · exact known
    · trivial

/-! ### Requests that leave all rows alone -/

theorem contents_init (decodes : Fin clients → Bool) (client : Fin clients) :
    (store.answer decodes (.init client)).2.contents = store.contents := by
  rw [answer]
  split <;> rfl

theorem contents_cleanup (held : 0 < store.held) (decodes : Fin clients → Bool)
    (client : Fin clients) :
    (store.answer decodes (.cleanup client)).2.contents = store.contents := by
  rw [answer]
  split
  · rw [settle, if_neg fun unheld => Nat.ne_of_gt held unheld.1]
  · rfl

end OrderedStore

/-! ## Stores in memory -/

/-- The keys of a table of the store that is open; a closed store has none. -/
def SharedMemory.keysOf (shared : SharedMemory) (table : String) : List String :=
  match shared.lease.handle with
  | some opening => ((shared.tables opening).rows table).keys
  | none => []

/-- The keys of a table, each once. -/
theorem SharedMemory.Holds.keysOf {shared : SharedMemory} {holders : Nat} {contents : Contents}
    (holds : shared.Holds holders contents) (table : String) :
    (shared.keysOf table).Nodup ∧ (shared.keysOf table).toFinset = (contents table).keys := by
  cases handle : shared.lease.handle with
  | none =>
    obtain ⟨_, blank⟩ := holds.closed handle
    simp [SharedMemory.keysOf, handle, blank]
  | some opening =>
    obtain ⟨_, _, spell⟩ := holds.opened handle
    have spells := spell.spells table
    have ascending : ((shared.tables opening).rows table).keys.Pairwise (· < ·) :=
      List.pairwise_map.2 spells.sorted
    rw [SharedMemory.keysOf, handle]
    refine ⟨ascending.imp ne_of_lt, ?_⟩
    ext key
    rw [List.mem_toFinset, Finmap.mem_keys, spells.mem_iff]
    exact List.mem_map

namespace Represents

variable {clients : Nat} {decodes : Fin clients → Bool} {world : MemoryWorld}
  {store : OrderedStore clients}

/-- The same after a request, with the same outside holders. -/
def Follows (decodes : Fin clients → Bool) (store : OrderedStore clients) (after : MemoryWorld)
    (next : OrderedStore clients) : Prop :=
  Represents decodes after next ∧ next.held = store.held

theorem init_follows (represents : Represents decodes world store) {index : Nat}
    (inside : index < clients) :
    ∃ next, Follows decodes store (MemoryWorld.backend.init index world).2 next ∧
      next.contents = store.contents :=
  ⟨_, ⟨(represents.init ⟨index, inside⟩).represents, OrderedStore.answer_held ..⟩,
    OrderedStore.contents_init ..⟩

/-- A cleanup leaves the rows alone as long as an outsider holds the store. -/
theorem cleanup_follows (represents : Represents decodes world store) {index : Nat}
    (inside : index < clients) (held : 0 < store.held) :
    ∃ next, Follows decodes store (MemoryWorld.backend.cleanup index world).2 next ∧
      next.contents = store.contents :=
  ⟨_, ⟨(represents.cleanup ⟨index, inside⟩).represents, OrderedStore.answer_held ..⟩,
    OrderedStore.contents_cleanup held ..⟩

/-- What a data call that is answered with a status does to the keys. -/
theorem call_follows (represents : Represents decodes world store) {index : Nat}
    (inside : index < clients) (call : Call) {status : Status}
    (succeeds : (MemoryWorld.backend.call index call world).1.outcome = .ok status) :
    ∃ next, Follows decodes store (MemoryWorld.backend.call index call world).2 next ∧
      (call.KeepsKeys → ∀ table, (next.contents table).keys = (store.contents table).keys) ∧
      ∀ {table key row}, call = .insert table key row →
        ∀ other, (next.contents other).keys =
          if other = table then insert key (store.contents table).keys
          else (store.contents other).keys := by
  by_cases member : (⟨index, inside⟩ : Fin clients) ∈ store.initialized
  · obtain ⟨after, served, kept⟩ := represents.serve member call
    have answered : MemoryWorld.backend.call index call world = _ := served
    rw [answered] at succeeds ⊢
    refine ⟨_, ⟨kept, OrderedStore.serve_held ..⟩, ?_, ?_⟩
    · intro keeps table
      exact OrderedStore.keys_serve_of_keepsKeys keeps _ table
    · rintro table key row rfl other
      exact OrderedStore.keys_store succeeds other
  · have refused : MemoryWorld.backend.call index call world = _ := represents.refuse member call
    rw [refused] at succeeds
    cases succeeds

/-- What a data call that fails does to the keys: nothing. -/
theorem call_fails (represents : Represents decodes world store) {index : Nat}
    (inside : index < clients) (call : Call) {fault : Failure}
    (fails : (MemoryWorld.backend.call index call world).1.outcome = .error fault) :
    ∃ next, Follows decodes store (MemoryWorld.backend.call index call world).2 next ∧
      ∀ table, (next.contents table).keys = (store.contents table).keys := by
  by_cases member : (⟨index, inside⟩ : Fin clients) ∈ store.initialized
  · obtain ⟨after, served, kept⟩ := represents.serve member call
    have answered : MemoryWorld.backend.call index call world = _ := served
    rw [answered] at fails ⊢
    exact ⟨_, ⟨kept, OrderedStore.serve_held ..⟩, OrderedStore.keys_serve_of_error fails⟩
  · have refused : MemoryWorld.backend.call index call world = _ := represents.refuse member call
    rw [refused]
    exact ⟨store, ⟨represents, rfl⟩, fun _ => rfl⟩

end Represents

end StoreBench.Store
