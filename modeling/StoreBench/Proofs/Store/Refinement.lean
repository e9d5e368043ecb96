import StoreBench.Proofs.Store.Spelling

/-!
Contract: clients of a store in memory see an ordered store.

The lease is held by the outsiders and by the initialized clients, all of whom know the current
opening, and while it is held that opening spells the contents of the ordered store.  Each
request keeps this and is answered alike on both sides, so the answers to any sequence of
requests are the same.

Owns:
- `SharedMemory.Holds`, a shared store with its holders and its contents;
- `Represents`, a store in memory with its clients beside an ordered store;
- `MemoryWorld.answer`, the answers of a store in memory.

Does not own: leases whose opener can fail.
-/

namespace StoreBench.Store

/-! ## Holders -/

/-- The shared store has so many holders, and these contents. -/
structure SharedMemory.Holds (shared : SharedMemory) (holders : Nat) (contents : Contents) :
    Prop where
  count : shared.lease.holders = holders
  closed : shared.lease.handle = none → holders = 0 ∧ contents = fun _ => ∅
  opened : ∀ {opening}, shared.lease.handle = some opening →
    0 < holders ∧ (shared.openings.lookup opening).isSome ∧
      (shared.tables opening).Spell contents

namespace SharedMemory

theorem lookup_setTables {shared : SharedMemory} {opening : Nat}
    (known : (shared.openings.lookup opening).isSome) (tables : Tables) :
    (shared.setTables opening tables).openings.lookup opening = some tables := by
  rw [setTables]
  generalize shared.openings = openings at known ⊢
  induction openings with
  | nil => cases known
  | cons entry rest inductionHypothesis =>
    obtain ⟨first, stored⟩ := entry
    by_cases same : first = opening
    · simp [same]
    · have other : (opening == first) = false := beq_false_of_ne (Ne.symm same)
      rw [List.lookup_cons, other] at known
      rw [List.map_cons, if_neg same, List.lookup_cons, other]
      exact inductionHypothesis known

namespace Holds

variable {shared : SharedMemory} {holders : Nat} {contents : Contents}

/-- A closed store is held by nobody and has no contents. -/
theorem ofShut (count : shared.lease.holders = 0) (shut : shared.lease.handle = none) :
    shared.Holds 0 fun _ => ∅ := by
  refine ⟨count, fun _ => ⟨rfl, rfl⟩, ?_⟩
  intro opening handle
  rw [shut] at handle
  cases handle

/-- An open store has the contents of its opening. -/
theorem ofOpen {opening : Nat} (count : shared.lease.holders = holders) (held : 0 < holders)
    (handle : shared.lease.handle = some opening)
    (known : (shared.openings.lookup opening).isSome)
    (spelled : (shared.tables opening).Spell contents) : shared.Holds holders contents := by
  refine ⟨count, ?_, ?_⟩
  · intro shut
    rw [handle] at shut
    cases shut
  · intro other same
    rw [handle] at same
    cases same
    exact ⟨held, known, spelled⟩

theorem exists_handle (holds : shared.Holds holders contents) (held : 0 < holders) :
    ∃ opening, shared.lease.handle = some opening := by
  cases handle : shared.lease.handle with
  | some opening => exact ⟨opening, rfl⟩
  | none => exact absurd (holds.closed handle).1 (Nat.ne_of_gt held)

/-- One more holder learns of the opening that the others know. -/
theorem acquire (holds : shared.Holds holders contents) :
    ∃ opening after, shared.acquire alwaysOpens = (.ok opening, after) ∧
      after.lease.handle = some opening ∧
      (0 < holders → shared.lease.handle = some opening) ∧
      after.Holds (holders + 1) contents := by
  cases handle : shared.lease.handle with
  | some opening =>
    obtain ⟨_, known, spelled⟩ := holds.opened handle
    refine ⟨opening, { shared with lease := { shared.lease with
      holders := shared.lease.holders + 1 } }, ?_, handle, fun _ => rfl, ?_⟩
    · simp [SharedMemory.acquire, Lease.acquire, handle]
    · exact ofOpen (congrArg (· + 1) holds.count) (Nat.succ_pos _) handle known spelled
  | none =>
    obtain ⟨unheld, blank⟩ := holds.closed handle
    refine ⟨shared.lease.opens, ⟨{ shared.lease with
      handle := some shared.lease.opens, holders := shared.lease.holders + 1,
      opens := shared.lease.opens + 1 }, (shared.lease.opens, Table.empty) :: shared.openings⟩,
      ?_, rfl, ?_, ?_⟩
    · simp [SharedMemory.acquire, Lease.acquire, handle, alwaysOpens, Except.map]
    · intro held
      exact absurd unheld (Nat.ne_of_gt held)
    · apply ofOpen (congrArg (· + 1) holds.count) (Nat.succ_pos _) rfl
      · simp
      · simp only [SharedMemory.tables, List.lookup_cons_self, Option.getD_some, blank]
        exact Tables.Spell.empty

/-- One holder fewer; with the last the contents go. -/
theorem release (holds : shared.Holds (holders + 1) contents) :
    ∃ after, shared.release = (.ok (), after) ∧
      (0 < holders → after.lease.handle = shared.lease.handle) ∧
      after.Holds holders (if holders = 0 then fun _ => ∅ else contents) := by
  rw [SharedMemory.release, Lease.release, holds.count]
  cases holders with
  | zero =>
    exact ⟨_, rfl, fun held => absurd held (Nat.lt_irrefl 0), ofShut rfl rfl⟩
  | succ others =>
    obtain ⟨opening, handle⟩ := holds.exists_handle (Nat.succ_pos _)
    obtain ⟨_, known, spelled⟩ := holds.opened handle
    exact ⟨_, rfl, fun _ => rfl, ofOpen rfl (Nat.succ_pos _) handle known spelled⟩

theorem setTables (holds : shared.Holds holders contents) {opening : Nat}
    (handle : shared.lease.handle = some opening) {tables : Tables} {others : Contents}
    (spelled : tables.Spell others) : (shared.setTables opening tables).Holds holders others := by
  obtain ⟨held, known, _⟩ := holds.opened handle
  have found := lookup_setTables known tables
  have count : (shared.setTables opening tables).lease.holders = holders := holds.count
  apply ofOpen count held handle
  · rw [found, Option.isSome_some]
  · rw [SharedMemory.tables, found]
    exact spelled

end Holds

end SharedMemory

/-! ## Clients -/

section
variable {clients : Nat}

def clientsOf (decodes : Fin clients → Bool) (holding : Fin clients → Option Nat) :
    List MemoryClient :=
  List.ofFn fun client => ⟨.single, decodes client, holding client⟩

theorem getElem?_clientsOf (decodes : Fin clients → Bool) (holding : Fin clients → Option Nat)
    (client : Fin clients) :
    (clientsOf decodes holding)[client.val]? = some ⟨.single, decodes client, holding client⟩ := by
  rw [clientsOf, List.getElem?_ofFn, dif_pos client.isLt]

theorem modify_clientsOf (decodes : Fin clients → Bool) (holding : Fin clients → Option Nat)
    (client : Fin clients) (opening : Option Nat) :
    (clientsOf decodes holding).modify client (fun old => { old with opening }) =
      clientsOf decodes (Function.update holding client opening) := by
  apply List.ext_getElem?
  intro position
  rw [List.getElem?_modify, clientsOf, clientsOf, List.getElem?_ofFn, List.getElem?_ofFn]
  by_cases inside : position < clients
  · rw [dif_pos inside, dif_pos inside, Function.update_apply]
    by_cases same : client.val = position
    · have whole : (⟨position, inside⟩ : Fin clients) = client := Fin.ext same.symm
      simp [same, whole]
    · have apart : (⟨position, inside⟩ : Fin clients) ≠ client :=
        fun whole => same (congrArg Fin.val whole).symm
      simp [same, apart]
  · rw [dif_neg inside, dif_neg inside]
    rfl

/-- A store in memory and its clients stand for an ordered store. -/
structure Represents (decodes : Fin clients → Bool) (world : MemoryWorld)
    (store : OrderedStore clients) : Prop where
  holds : world.shared.Holds (store.held + store.initialized.card) store.contents
  /-- The initialized clients hold the current opening. -/
  holding : world.clients = clientsOf decodes fun client =>
    if client ∈ store.initialized then world.shared.lease.handle else none

/-- The answer of a store in memory to a request. -/
def MemoryWorld.answer (request : Request clients) (world : MemoryWorld) :
    Answer × MemoryWorld :=
  match request with
  | .init client =>
    let (result, world) := backend.init client world
    (.done result, world)
  | .cleanup client =>
    let (result, world) := backend.cleanup client world
    (.done result, world)
  | .data client call =>
    let (reply, world) := backend.call client call world
    (.reply reply, world)
  | .acquire =>
    let (result, shared) := world.shared.acquire alwaysOpens
    (.done (result.map fun _ => ()), { world with shared })
  | .release =>
    let (result, shared) := world.shared.release
    (.done result, { world with shared })

/-- Both sides give the same answer to a request, and one stands for the other afterwards. -/
def AnsweredAlike (decodes : Fin clients → Bool) (world : MemoryWorld)
    (store : OrderedStore clients) (request : Request clients) : Prop :=
  ∃ after, MemoryWorld.answer request world = ((store.answer decodes request).1, after) ∧
    Represents decodes after (store.answer decodes request).2

theorem AnsweredAlike.represents {decodes : Fin clients → Bool} {world : MemoryWorld}
    {store : OrderedStore clients} {request : Request clients}
    (alike : AnsweredAlike decodes world store request) :
    Represents decodes (MemoryWorld.answer request world).2 (store.answer decodes request).2 := by
  obtain ⟨after, answered, kept⟩ := alike
  rw [answered]
  exact kept

/-- What is left once somebody has let go of the store. -/
theorem OrderedStore.settle_eq (store : OrderedStore clients) :
    store.settle =
      { store with
        contents := if store.held + store.initialized.card = 0 then fun _ => ∅
          else store.contents } := by
  rw [settle]
  by_cases unheld : store.held = 0 ∧ store.initialized = ∅
  · rw [if_pos unheld, if_pos (by simp [unheld])]
  · have some_hold : store.held + store.initialized.card ≠ 0 := by
      simpa [Finset.card_eq_zero] using unheld
    rw [if_neg unheld, if_neg some_hold]

namespace Represents

variable {decodes : Fin clients → Bool} {world : MemoryWorld} {store : OrderedStore clients}

theorem fresh :
    Represents decodes (MemoryWorld.opening (clientsOf decodes fun _ => none))
      OrderedStore.unheld := by
  refine ⟨SharedMemory.Holds.ofShut rfl rfl, ?_⟩
  simp [MemoryWorld.opening, OrderedStore.unheld]

theorem openingOf_eq (represents : Represents decodes world store) (client : Fin clients) :
    world.openingOf client =
      if client ∈ store.initialized then world.shared.lease.handle else none := by
  rw [MemoryWorld.openingOf, represents.holding, getElem?_clientsOf]
  rfl

theorem holders_pos {client : Fin clients} {initialized : Finset (Fin clients)}
    (member : client ∈ initialized) (held : Nat) : 0 < held + initialized.card :=
  Nat.lt_of_lt_of_le (Finset.card_pos.2 ⟨client, member⟩) (Nat.le_add_left _ _)

theorem init (represents : Represents decodes world store) (client : Fin clients) :
    AnsweredAlike decodes world store (.init client) := by
  simp only [AnsweredAlike, MemoryWorld.answer, OrderedStore.answer, MemoryWorld.backend,
    MemoryWorld.init]
  rw [represents.openingOf_eq]
  by_cases member : client ∈ store.initialized
  · obtain ⟨opening, handle⟩ := represents.holds.exists_handle (holders_pos member _)
    rw [if_pos member, if_pos member, handle]
    exact ⟨world, rfl, represents⟩
  · obtain ⟨opening, shared, acquired, handle, known, holds⟩ := represents.holds.acquire
    rw [if_neg member, if_neg member, acquired]
    refine ⟨_, rfl, ?_, ?_⟩
    · simp only [MemoryWorld.setOpening]
      rw [Finset.card_insert_of_notMem member]
      exact holds
    · simp only [MemoryWorld.setOpening]
      rw [represents.holding, modify_clientsOf]
      congr 1
      funext other
      simp only [Function.update_apply, handle, Finset.mem_insert]
      by_cases same : other = client
      · simp [same]
      · by_cases old : other ∈ store.initialized
        · simp [same, old, known (holders_pos old _)]
        · simp [same, old]

theorem cleanup (represents : Represents decodes world store) (client : Fin clients) :
    AnsweredAlike decodes world store (.cleanup client) := by
  simp only [AnsweredAlike, MemoryWorld.answer, OrderedStore.answer, MemoryWorld.backend,
    MemoryWorld.cleanup]
  rw [represents.openingOf_eq]
  by_cases member : client ∈ store.initialized
  · obtain ⟨opening, handle⟩ := represents.holds.exists_handle (holders_pos member _)
    have holds := represents.holds
    rw [← Finset.card_erase_add_one member, ← Nat.add_assoc] at holds
    obtain ⟨shared, released, known, holds⟩ := holds.release
    rw [if_pos member, if_pos member, handle, released, OrderedStore.settle_eq]
    refine ⟨_, rfl, holds, ?_⟩
    simp only [MemoryWorld.setOpening]
    rw [represents.holding, modify_clientsOf]
    congr 1
    funext other
    simp only [Function.update_apply, Finset.mem_erase]
    by_cases same : other = client
    · simp [same]
    · by_cases old : other ∈ store.initialized
      · have left : other ∈ store.initialized.erase client := Finset.mem_erase.2 ⟨same, old⟩
        simp [same, old, known (holders_pos left _)]
      · simp [same, old]
  · rw [if_neg member, if_neg member]
    exact ⟨world, rfl, represents⟩

theorem acquire (represents : Represents decodes world store) :
    AnsweredAlike decodes world store .acquire := by
  obtain ⟨opening, shared, acquired, handle, known, holds⟩ := represents.holds.acquire
  simp only [AnsweredAlike, MemoryWorld.answer, OrderedStore.answer, acquired]
  refine ⟨_, rfl, ?_, ?_⟩
  · simp only [Nat.add_right_comm _ 1]
    exact holds
  · rw [represents.holding]
    congr 1
    funext client
    by_cases member : client ∈ store.initialized
    · simp [member, handle, known (holders_pos member _)]
    · simp [member]

theorem release (represents : Represents decodes world store) (held : 0 < store.held) :
    AnsweredAlike decodes world store .release := by
  obtain ⟨others, count⟩ := Nat.exists_eq_add_one_of_ne_zero (Nat.ne_of_gt held)
  have holds := represents.holds
  rw [count, Nat.add_right_comm] at holds
  obtain ⟨shared, released, known, holds⟩ := holds.release
  simp only [AnsweredAlike, MemoryWorld.answer, OrderedStore.answer, released,
    OrderedStore.settle_eq, count, Nat.add_sub_cancel]
  refine ⟨_, rfl, holds, ?_⟩
  rw [represents.holding]
  congr 1
  funext client
  by_cases member : client ∈ store.initialized
  · have kept := known (holders_pos member _)
    simp [member, kept]
  · simp [member]

theorem setTables (represents : Represents decodes world store) {opening : Nat}
    (handle : world.shared.lease.handle = some opening) {tables : Tables} {contents : Contents}
    (spelled : tables.Spell contents) :
    Represents decodes (world.setTables opening tables) { store with contents } :=
  ⟨represents.holds.setTables handle spelled, represents.holding⟩

/-- An initialized client is served from the tables of the opening. -/
theorem serve (represents : Represents decodes world store) {client : Fin clients}
    (member : client ∈ store.initialized) (call : Call) :
    ∃ after, MemoryWorld.call client call world =
        ((store.serve (decodes client) call).1, after) ∧
      Represents decodes after (store.serve (decodes client) call).2 := by
  obtain ⟨opening, handle⟩ := represents.holds.exists_handle (holders_pos member _)
  obtain ⟨_, _, spell⟩ := represents.holds.opened handle
  let memory : MemoryClient := ⟨.single, decodes client, some opening⟩
  have found : world.clients[client.val]? = some memory := by
    rw [represents.holding, getElem?_clientsOf, if_pos member, handle]
  rw [MemoryWorld.call, found]
  cases call with
  | read table key fields =>
    have served := serve_read spell memory table key fields
    rw [show decodes client = memory.decodesOnRead from rfl, served]
    exact ⟨world, rfl, represents⟩
  | scan table start count fields =>
    have served := serve_scan spell memory table start count fields
    rw [show decodes client = memory.decodesOnRead from rfl, served]
    exact ⟨world, rfl, represents⟩
  | update table key values =>
    obtain ⟨contents, served, spelled⟩ := serve_update spell memory table key values
    rw [show decodes client = memory.decodesOnRead from rfl, served]
    exact ⟨_, rfl, represents.setTables handle spelled⟩
  | insert table key values =>
    rcases store_eq spell memory table key values with
      ⟨fault, refused, same⟩ | ⟨bytes, encoded, same, spelled⟩
    · rw [OrderedStore.serve, same]
      simp only [refused]
      exact ⟨world, rfl, represents⟩
    · rw [OrderedStore.serve, same]
      simp only [encoded]
      exact ⟨_, rfl, represents.setTables handle spelled⟩
  | delete table key =>
    exact ⟨_, rfl, represents.setTables handle (spell.delete table key)⟩

/-- A client that is not initialized is refused, and nothing changes. -/
theorem refuse (represents : Represents decodes world store) {client : Fin clients}
    (absent : client ∉ store.initialized) (call : Call) :
    MemoryWorld.call client call world =
      (.failed (.store (OrderedStore.refusal call)), world) := by
  rw [MemoryWorld.call, represents.holding, getElem?_clientsOf, if_neg absent]
  cases call with
  | insert table key values =>
    simp only [Format.encode, OrderedStore.refusal, encodeRow_eq]
    cases values.tooLong? with
    | some length => rfl
    | none => rfl
  | _ => rfl

theorem data (represents : Represents decodes world store) (client : Fin clients) (call : Call) :
    AnsweredAlike decodes world store (.data client call) := by
  simp only [AnsweredAlike, MemoryWorld.answer, OrderedStore.answer, MemoryWorld.backend]
  by_cases member : client ∈ store.initialized
  · obtain ⟨after, served, kept⟩ := represents.serve member call
    rw [if_pos member, served]
    exact ⟨after, rfl, kept⟩
  · rw [if_neg member, represents.refuse member call]
    exact ⟨world, rfl, represents⟩

theorem answeredAlike (represents : Represents decodes world store) {request : Request clients}
    {later : List (Request clients)} (balanced : Balanced store.held (request :: later)) :
    AnsweredAlike decodes world store request := by
  cases request with
  | init client => exact represents.init client
  | cleanup client => exact represents.cleanup client
  | data client call => exact represents.data client call
  | acquire => exact represents.acquire
  | release => exact represents.release balanced.1

/-- From states that stand for each other the answers stay the same. -/
theorem answersOf_eq (represents : Represents decodes world store)
    {requests : List (Request clients)} (balanced : Balanced store.held requests) :
    answersOf MemoryWorld.answer requests world =
      answersOf (OrderedStore.answer decodes) requests store := by
  induction requests generalizing world store with
  | nil => rfl
  | cons request later inductionHypothesis =>
    obtain ⟨after, answered, kept⟩ := represents.answeredAlike balanced
    rw [answersOf, answersOf, answered]
    congr 1
    exact inductionHypothesis kept (OrderedStore.balanced_answer decodes balanced)

end Represents

/-! ## Sequences of requests -/

/-- **A store in memory is an ordered store.**  Whatever is asked of its clients, and whatever
outsiders acquire and release in between, each answer is that of the ordered store. -/
theorem answers_eq_ordered_store (decodes : Fin clients → Bool)
    (requests : List (Request clients)) (balanced : Balanced 0 requests) :
    answersOf MemoryWorld.answer requests
        (MemoryWorld.opening (List.ofFn fun client => ⟨.single, decodes client, none⟩)) =
      answersOf (OrderedStore.answer decodes) requests OrderedStore.unheld :=
  Represents.fresh.answersOf_eq balanced

end

/-- Two clients and an outsider keep a row from one opening to the next client, merge it, and
lose it once the last of them lets go. -/
theorem answers_eq_ordered_store_across_openings :
    let decodes : Fin 2 → Bool := fun client => client == 0
    let requests : List (Request 2) :=
      [.data 0 (.read "t" "k" none), .init 0, .init 0, .data 0 (.insert "t" "k" [⟨"a", [1]⟩]),
        .acquire, .cleanup 0, .init 1, .data 1 (.update "t" "k" [⟨"b", [2]⟩, ⟨"a", [3]⟩]),
        .data 1 (.insert "t" "j" []), .cleanup 1, .init 0, .release,
        .data 0 (.scan "t" "" 5 (some ["a"])), .data 0 (.delete "t" "j"), .cleanup 0, .init 0,
        .data 0 (.read "t" "k" none)]
    Balanced 0 requests ∧
      answersOf MemoryWorld.answer requests
          (MemoryWorld.opening (List.ofFn fun client => ⟨.single, decodes client, none⟩)) =
        answersOf (OrderedStore.answer decodes) requests OrderedStore.unheld := by
  intro decodes requests
  have balanced : Balanced 0 requests := ⟨Nat.zero_lt_one, trivial⟩
  exact ⟨balanced, answers_eq_ordered_store decodes requests balanced⟩

end StoreBench.Store
