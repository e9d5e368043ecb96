import StoreBench.Proofs.Mix.Acknowledgments
import StoreBench.Proofs.Mix.KeyDraws
import StoreBench.Proofs.Mix.RowShape
import StoreBench.Proofs.Store.RowInvariants

/-!
Contract: how a store in memory answers the calls of the standard workload.

As long as an outsider holds the store, its rows stay.  All rows have the shape that the options
ask for, so they can be decoded, and encoded again.  What a read or an update does not find was
there, and somebody has deleted it.

Owns:
- `CallLog`, the calls that were answered, `CallLog.Allows`, the answers behind them, and
  `CallLog.Sound`;
- `Tended`, a store that the workload has its rows in, and what each request leaves of it;
- `Transactions.Plans`, what the workload calls for.

Does not own: when clients are initialized.
-/

namespace StoreBench

open Store

namespace Text

theorem length_bytesOf_le (text : String) : (bytesOf text).length ≤ 4 * text.length := by
  rw [bytesOf_eq, ← String.length_toList]
  induction text.toList with
  | nil => exact Nat.le_refl 0
  | cons character rest inductionHypothesis =>
    have one := character.utf8Size_le_four
    rw [List.flatMap_cons, List.length_append, String.length_utf8EncodeChar, List.length_cons]
    omega

end Text

namespace Mix

variable {options : Options} {keys : String → Prop}

/-! ## Lengths -/

namespace Options

/-- Names are short, however many fields there are. -/
theorem length_bytesOf_lt {name : String} (member : name ∈ options.fieldNames) :
    (Text.bytesOf name).length < lengthBound := by
  obtain ⟨index, inside, rfl⟩ := List.mem_map.1 member
  have below : index < 10 ^ 20 :=
    Nat.lt_trans (List.mem_range.1 inside)
      (Nat.lt_of_lt_of_le options.fieldCount.toNat_lt (by decide))
  have digits := (Nat.length_toDigits_le_iff (b := 10) (by decide) (by decide : 0 < 20)).2 below
  have size : ("field" ++ toString index).length = 5 + (Nat.toDigits 10 index).length := by
    rw [Nat.toString_eq_ofList_toDigits, String.length_append, String.length_ofList,
      String.length_ofList]
    rfl
  have bytes := Text.length_bytesOf_le ("field" ++ toString index)
  have bound : lengthBound = 4294967296 := rfl
  omega

/-- A row of the workload can be encoded, unless the options ask for values that cannot. -/
theorem HasShape.tooLong?_eq_none {row : Row} (shaped : options.HasShape row)
    (short : options.fieldLength.toNat < lengthBound) : row.tooLong? = none := by
  refine Row.tooLong?_eq_none_iff.2 fun field member => ⟨?_, ?_⟩
  · apply length_bytesOf_lt
    rw [← shaped.names]
    exact List.mem_map_of_mem member
  · rw [(shaped.values field member).1]
    exact short

theorem HasShape.stored {row : Row} (shaped : options.HasShape row)
    (short : options.fieldLength.toNat < lengthBound) {clients : Nat} (store : OrderedStore clients)
    (table key : String) : (store.store table key row).1.outcome = .ok .ok := by
  rw [OrderedStore.store, shaped.tooLong?_eq_none short]
  rfl

/-- What the workload calls for leaves all rows in shape. -/
theorem Admits.keeps {call : Call} (admits : options.Admits keys call) :
    call.Keeps options.table options.HasShape := by
  cases admits with
  | insert shaped => exact fun _ => shaped
  | update _ patches => exact fun _ _ shaped => shaped.merge patches
  | read | scan | delete => trivial

end Options

/-! ## Answers -/

/-- Calls with their outcomes, in the order in which they were answered. -/
abbrev CallLog : Type := List (Call × Except Failure Status)

/-- The outcomes of a call behind others: it succeeds, but a read or an update finds nothing if the
row was deleted. -/
inductive CallLog.Allows (table : String) (log : CallLog) : Call → Except Failure Status → Prop
  | succeeds {call : Call} : Allows table log call (.ok .ok)
  | readsNothing {key : String} {fields : Option (List String)}
      (deleted : (.delete table key, .ok .ok) ∈ log) :
      Allows table log (.read table key fields) (.ok .notFound)
  | updatesNothing {key : String} {values : Row} (deleted : (.delete table key, .ok .ok) ∈ log) :
      Allows table log (.update table key values) (.ok .notFound)

theorem CallLog.Allows.exists_status {table : String} {log : CallLog} {call : Call}
    {outcome : Except Failure Status} (allows : log.Allows table call outcome) :
    ∃ status, outcome = .ok status := by
  cases allows <;> exact ⟨_, rfl⟩

theorem CallLog.Allows.append {table : String} {log : CallLog} {call : Call}
    {outcome : Except Failure Status} (allows : log.Allows table call outcome) (later : CallLog) :
    CallLog.Allows table (log ++ later) call outcome := by
  cases allows with
  | succeeds => exact .succeeds
  | readsNothing deleted => exact .readsNothing (List.mem_append_left _ deleted)
  | updatesNothing deleted => exact .updatesNothing (List.mem_append_left _ deleted)

/-- Every call was admitted, and its outcome is one that the calls before it allow. -/
def CallLog.Sound (options : Options) (keys : String → Prop) (log : CallLog) : Prop :=
  ∀ earlier call outcome later, log = earlier ++ (call, outcome) :: later →
    options.Admits keys call ∧ Allows options.table earlier call outcome

namespace CallLog.Sound

variable {log : CallLog}

theorem nil : Sound options keys [] := by
  intro earlier call outcome later split
  cases earlier <;> cases split

theorem append (sound : log.Sound options keys) {answered : Option (Call × Except Failure Status)}
    (fits : ∀ call outcome, answered = some (call, outcome) →
      options.Admits keys call ∧ log.Allows options.table call outcome) :
    Sound options keys (log ++ answered.toList) := by
  cases answered with
  | none =>
    rw [Option.toList_none, List.append_nil]
    exact sound
  | some entry =>
    intro earlier call outcome later split
    rcases List.eq_nil_or_concat later with rfl | ⟨rest, last, rfl⟩
    · obtain ⟨rfl, same⟩ := List.append_inj' split rfl
      cases same
      exact fits call outcome rfl
    · rw [List.concat_eq_append, ← List.cons_append, ← List.append_assoc] at split
      exact sound earlier call outcome rest (List.append_inj' split rfl).1

/-- Without deletes in the mix nothing is deleted. -/
theorem no_deletes (sound : log.Sound options keys)
    (noDeletes : (options.deleteProportion == 0.0) = true) (key : String) :
    (.delete options.table key, .ok .ok) ∉ log := by
  intro member
  obtain ⟨earlier, later, split⟩ := List.append_of_mem member
  cases (sound earlier _ _ later split).1 with
  | delete _ occurs => exact Transactions.delete_notMem_weighted noDeletes occurs

end CallLog.Sound

/-- An outsider holds the store, all rows of the table have the shape, and the rows under `keys` are
there until somebody deletes them. -/
structure Tended (options : Options) (keys : String → Prop) (log : CallLog) {clients : Nat}
    (decodes : Fin clients → Bool) (world : MemoryWorld) (store : OrderedStore clients) : Prop where
  represents : Represents decodes world store
  held : 0 < store.held
  shaped : store.AllRows options.table options.HasShape
  present : ∀ key, keys key → key ∈ (store.contents options.table).keys ∨
    (.delete options.table key, .ok .ok) ∈ log

namespace Tended

variable {log : CallLog} {clients : Nat} {decodes : Fin clients → Bool} {world : MemoryWorld}
  {store : OrderedStore clients}

/-- A request that leaves the outsiders and the rows alone. -/
theorem congr (tended : Tended options keys log decodes world store) {after : MemoryWorld}
    {other : OrderedStore clients} (represents : Represents decodes after other)
    (held : other.held = store.held) (contents : other.contents = store.contents) :
    Tended options keys log decodes after other := by
  refine ⟨represents, held ▸ tended.held, tended.shaped.congr contents, ?_⟩
  rw [contents]
  exact tended.present

theorem init (tended : Tended options keys log decodes world store) (client : Fin clients) :
    Tended options keys log decodes (MemoryWorld.backend.init client world).2
      (store.answer decodes (.init client)).2 :=
  tended.congr (tended.represents.init client).represents (OrderedStore.answer_held ..)
    (OrderedStore.contents_init ..)

theorem cleanup (tended : Tended options keys log decodes world store) (client : Fin clients) :
    Tended options keys log decodes (MemoryWorld.backend.cleanup client world).2
      (store.answer decodes (.cleanup client)).2 :=
  tended.congr (tended.represents.cleanup client).represents (OrderedStore.answer_held ..)
    (OrderedStore.contents_cleanup tended.held ..)

/-- A row that is not found was deleted. -/
theorem deleted_of_lookup (tended : Tended options keys log decodes world store) {key : String}
    (known : keys key) (absent : (store.contents options.table).lookup key = none) :
    (.delete options.table key, .ok .ok) ∈ log := by
  refine (tended.present key known).resolve_left ?_
  rw [Finmap.mem_keys]
  exact Finmap.lookup_eq_none.1 absent

/-- What an initialized client answers to a call of the workload. -/
theorem allows_serve (tended : Tended options keys log decodes world store)
    (short : options.fieldLength.toNat < lengthBound) {call : Call}
    (admits : options.Admits keys call) (decodesOnRead : Bool) :
    log.Allows options.table call (store.serve decodesOnRead call).1.outcome := by
  cases admits with
  | read known =>
    rw [OrderedStore.serve]
    split
    · next absent => exact .readsNothing (tended.deleted_of_lookup known absent)
    · cases decodesOnRead <;> exact .succeeds
  | scan => cases decodesOnRead <;> exact .succeeds
  | update known patches =>
    rw [OrderedStore.serve]
    split
    · next absent => exact .updatesNothing (tended.deleted_of_lookup known absent)
    · next row stored =>
      have shaped := (tended.shaped _ row stored).merge patches
      rw [shaped.stored short]
      exact .succeeds
  | insert shaped =>
    rw [OrderedStore.serve, shaped.stored short]
    exact .succeeds
  | delete => exact .succeeds

/-- An initialized client answers as it may, and what it deletes is in the log. -/
theorem call (tended : Tended options keys log decodes world store)
    (short : options.fieldLength.toNat < lengthBound) {client : Fin clients}
    (member : client ∈ store.initialized) {call : Call} (admits : options.Admits keys call) :
    let answer := MemoryWorld.backend.call client call world
    log.Allows options.table call answer.1.outcome ∧
      Tended options keys (log ++ [(call, answer.1.outcome)]) decodes answer.2
        (store.serve (decodes client) call).2 := by
  intro answer
  obtain ⟨after, served, represents⟩ := tended.represents.serve member call
  have same : answer = ((store.serve (decodes client) call).1, after) := served
  rw [same]
  refine ⟨tended.allows_serve short admits _, represents, ?_, ?_, fun key known => ?_⟩
  · rw [OrderedStore.serve_held]
    exact tended.held
  · exact tended.shaped.serve admits.keeps _
  · rcases tended.present key known with stored | deleted
    · rcases OrderedStore.mem_keys_serve stored call (decodes client) with kept | rfl
      · exact .inl kept
      · exact .inr (List.mem_append_right _ (List.mem_singleton_self _))
    · exact .inr (List.mem_append_left _ deleted)

end Tended

/-! ## Plans -/

namespace Transactions

variable {work : Transactions}

/-- What a step of the workload calls for, and the workload after it. -/
inductive Plans (keys : String → Prop) (work : Transactions) : Plan → Transactions → Prop
  | calls {task : Task} {after : Transactions} (admits : work.options.Admits keys task.call)
      (same : after.options = work.options) : Plans keys work (.tasks [task]) after
  | stops {reason : Stop} : Plans keys work (.stop reason) work

theorem plans_planLoad (keys : String → Prop) (choices : Choices) (work : Transactions) :
    work.Plans keys (planLoad choices work).1 (planLoad choices work).2 :=
  .calls (.insert (hasShape_fullRow ..)) rfl

theorem plans_planTransaction (choices : Choices) (work : Transactions) :
    work.Plans work.options.IsRecord (planTransaction choices work).1
      (planTransaction choices work).2 := by
  have begins := begins_commence choices work
  rw [planTransaction_eq]
  generalize work.commence choices = begun at begins
  obtain ⟨stage, begun⟩ := begun
  cases begins with
  | inserts => exact .calls (.insert (hasShape_fullRow ..)) rfl
  | calls asked occurs => exact .calls (admits_of_callOf asked occurs) rfl
  | stops => exact .stops

end Transactions

end Mix

end StoreBench
