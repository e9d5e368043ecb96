import StoreBench.Keys.Claims
import StoreBench.Proofs.Keys.RecordKeys
import StoreBench.Proofs.Scheduling
import StoreBench.Proofs.Totals

/-!
Contract: the keys that clients draw at the same time are different, whatever the interleaving.

The cursor moves on by one with each draw that begins, so draw number `index` takes the key in
slot `index`, and no other draw does.  What has been answered, together with what clients are
about to answer, is therefore what the first slots hold; a draw behind the last slot answers with
the first key of the range.

Owns:
- the moves of clients, by what they do to the pool and to the client;
- `KeyPool.After`, a pool after some claims, and `Claimed`, the invariant of the pool and its
  clients;
- that acknowledgments change nothing, and that no draw waits for another;
- the answers of a counter.

Does not own: which key was noted latest, which is in `Proofs.Keys.LatestKey`.
-/

namespace StoreBench.Keys

/-! ## Moves -/

namespace ClaimMove

def isClaim : ClaimMove → Bool
  | .claim _ => true
  | _ => false

def isDraw : ClaimMove → Bool
  | .acknowledge _ => false
  | _ => true

end ClaimMove

/-- How many draws begin in a schedule. -/
def claims (schedule : List ClaimMove) : Nat := schedule.countP (·.isClaim)

namespace ClaimState

/-- A move, by what it does. -/
inductive Advance (state : ClaimState) : ClaimMove → ClaimState → Prop
  | claimed {client draws : Nat} (found : state.claimants[client]? = some ⟨draws + 1, none⟩) :
      Advance state (.claim client)
        { state with
          keys := { state.keys with pool := state.keys.pool.claim.2 }
          claimants := state.claimants.set client ⟨draws, some state.keys.pool.claim.1⟩ }
  | noted {client draws : Nat} {claimed : Option UInt64}
      (found : state.claimants[client]? = some ⟨draws, some claimed⟩) :
      Advance state (.note client)
        { keys := { state.keys with pool := state.keys.pool.note claimed }
          claimants := state.claimants.set client ⟨draws, none⟩
          answers := state.keys.pool.answer claimed :: state.answers }
  | acknowledged {key : UInt64} :
      Advance state (.acknowledge key) { state with keys := state.keys.acknowledge key }

variable {state after : ClaimState} {move : ClaimMove}

theorem advance_of_step (fires : step move state = some after) : state.Advance move after := by
  cases move with
  | claim client =>
    simp only [step] at fires
    split at fires
    · next draws found =>
      cases fires
      exact .claimed found
    · cases fires
  | note client =>
    simp only [step] at fires
    split at fires
    · next draws claimed found =>
      cases fires
      exact .noted found
    · cases fires
  | acknowledge key =>
    cases fires
    exact .acknowledged

theorem step_of_advance (advances : state.Advance move after) : step move state = some after := by
  cases advances with
  | claimed found => simp only [step, found]
  | noted found => simp only [step, found]
  | acknowledged => rfl

end ClaimState

/-! ## Slots -/

namespace KeyPool

/-- What the draw after `index` others claims. -/
def slot? (pool : KeyPool) (index : Nat) : Option UInt64 := pool.keys[index.toUInt64.toNat]?

/-- What the draw after `index` others answers. -/
def slot (pool : KeyPool) (index : Nat) : UInt64 := pool.answer (pool.slot? index)

/-- The pool after `made` claims, whatever has been noted. -/
structure After (pool : KeyPool) (made : Nat) (current : KeyPool) : Prop where
  start : current.start = pool.start
  keys : current.keys = pool.keys
  cursor : current.cursor = made.toUInt64

theorem answer_congr {first second : KeyPool} (same : first.start = second.start)
    (claimed : Option UInt64) : first.answer claimed = second.answer claimed := by
  rw [answer, answer, same]

namespace After

variable {pool current : KeyPool} {made : Nat}

theorem claim_eq (reached : After pool made current) : current.claim.1 = pool.slot? made := by
  rw [KeyPool.claim, reached.keys, reached.cursor, slot?]

theorem claim (reached : After pool made current) : After pool (made + 1) current.claim.2 := by
  refine ⟨reached.start, reached.keys, ?_⟩
  show current.cursor + 1 = (made + 1).toUInt64
  rw [reached.cursor]
  exact (UInt64.ofNat_add made 1).symm

theorem note (reached : After pool made current) (claimed : Option UInt64) :
    After pool made (current.note claimed) := by
  obtain ⟨start, keys, cursor⟩ := reached
  cases claimed <;> exact ⟨start, keys, cursor⟩

theorem remaining_eq (reached : After pool made current) (small : made < UInt64.size) :
    current.remaining = pool.capacity - made := by
  have same : made.toUInt64.toNat = made := UInt64.toNat_ofNat_of_lt' small
  rw [remaining, reached.keys, reached.cursor, same, capacity]

end After

end KeyPool

namespace Claimant

/-- What a client is about to answer. -/
def underway (claimant : Claimant) (pool : KeyPool) : List UInt64 :=
  (claimant.pending.map pool.answer).toList

@[simp]
theorem underway_idle (draws : Nat) (pool : KeyPool) : underway ⟨draws, none⟩ pool = [] := rfl

@[simp]
theorem underway_pending (draws : Nat) (claimed : Option UInt64) (pool : KeyPool) :
    underway ⟨draws, some claimed⟩ pool = [pool.answer claimed] := rfl

end Claimant

namespace ClaimState

/-- What has been answered, and what clients are about to answer. -/
def drawn (state : ClaimState) (pool : KeyPool) : List UInt64 :=
  state.answers ++ (state.claimants.map (·.underway pool)).flatten

/-- After `made` draws have begun they hold the first slots of the pool between them. -/
structure Claimed (pool : KeyPool) (made : Nat) (state : ClaimState) : Prop where
  reached : pool.After made state.keys.pool
  drawn : (state.drawn pool).Perm ((List.range made).map pool.slot)

variable {pool : KeyPool} {made : Nat} {state after : ClaimState} {move : ClaimMove}

theorem claimed_opening {keys : AcknowledgedPool} (fresh : keys.pool.cursor = 0)
    (draws : List Nat) : Claimed keys.pool 0 (opening keys draws) := by
  refine ⟨⟨rfl, rfl, fresh⟩, ?_⟩
  have idle : ((opening keys draws).claimants.map (·.underway keys.pool)).flatten = [] := by
    rw [List.flatten_eq_nil_iff]
    simp [opening, Claimant.underway]
  rw [ClaimState.drawn, idle]
  exact .refl _

/-- A draw that begins takes the next slot, and one that ends answers what it holds. -/
theorem Claimed.step (claimed : Claimed pool made state) (fires : step move state = some after) :
    Claimed pool (made + if move.isClaim then 1 else 0) after := by
  obtain ⟨reached, drawn⟩ := claimed
  cases advance_of_step fires with
  | @claimed _ draws found =>
    have exchange := flatten_map_set (·.underway pool) found ⟨draws, some state.keys.pool.claim.1⟩
    simp only [Claimant.underway_idle, Claimant.underway_pending, List.append_nil] at exchange
    refine ⟨reached.claim, ?_⟩
    -- The new draw stands behind the other slots, and among the clients wherever its own stands.
    show List.Perm _ ((List.range (made + 1)).map pool.slot)
    rw [List.range_succ, List.map_append]
    refine List.Perm.trans ?_ (drawn.append_right _)
    rw [ClaimState.drawn, ClaimState.drawn, List.append_assoc, List.map_singleton, KeyPool.slot,
      ← reached.claim_eq]
    exact exchange.append_left _
  | @noted _ draws taken found =>
    have exchange := flatten_map_set (·.underway pool) found ⟨draws, none⟩
    simp only [Claimant.underway_idle, Claimant.underway_pending, List.append_nil] at exchange
    refine ⟨reached.note taken, ?_⟩
    refine List.Perm.trans ?_ drawn
    rw [ClaimState.drawn, ClaimState.drawn, KeyPool.answer_congr reached.start]
    refine List.Perm.trans ?_ (exchange.append_left state.answers)
    rw [← List.append_assoc]
    exact (List.perm_append_singleton _ _).symm
  | acknowledged => exact ⟨reached, drawn⟩

theorem Claimed.of_follow {keys : AcknowledgedPool} (fresh : keys.pool.cursor = 0)
    {draws : List Nat} {schedule : List ClaimMove}
    (followed : follow ClaimState.step schedule (opening keys draws) = some state) :
    Claimed keys.pool (claims schedule) state := by
  apply follow_invariant followed (claimed_opening fresh draws)
  intro moves before move after claimed fires
  rw [claims, List.countP_append, List.countP_singleton]
  exact claimed.step fires

/-! ## Answers -/

theorem underway_of_isQuiet (quiet : state.isQuiet = true) (pool : KeyPool) :
    (state.claimants.map (·.underway pool)).flatten = [] := by
  simp only [isQuiet, List.all_eq_true, Option.isNone_iff_eq_none] at quiet
  rw [List.flatten_eq_nil_iff]
  intro part inside
  obtain ⟨claimant, member, rfl⟩ := List.mem_map.1 inside
  rw [Claimant.underway, quiet claimant member]
  rfl

theorem Claimed.answers_perm (claimed : Claimed pool made state) (quiet : state.isQuiet = true) :
    state.answers.Perm ((List.range made).map pool.slot) := by
  have drawn := claimed.drawn
  rwa [ClaimState.drawn, underway_of_isQuiet quiet, List.append_nil] at drawn

theorem Claimed.length_answers (claimed : Claimed pool made state) (quiet : state.isQuiet = true) :
    state.answers.length = made := by
  rw [(claimed.answers_perm quiet).length_eq, List.length_map, List.length_range]

/-! ## Acknowledgments -/

/-- The state with nothing acknowledged. -/
def unacknowledged (state : ClaimState) : ClaimState :=
  { state with keys := { state.keys with acknowledged := [] } }

theorem step_unacknowledged (draw : move.isDraw = true) :
    step move state.unacknowledged = (step move state).map unacknowledged := by
  cases move with
  | claim client =>
    simp only [step, unacknowledged]
    split <;> rfl
  | note client =>
    simp only [step, unacknowledged]
    split <;> rfl
  | acknowledge key => cases draw

/-- Without its acknowledgments a schedule leads to the same, but for what is acknowledged. -/
theorem follow_isDraw {schedule : List ClaimMove} {finish : ClaimState}
    (followed : follow ClaimState.step schedule state = some finish) :
    follow ClaimState.step (schedule.filter (·.isDraw)) state.unacknowledged =
      some finish.unacknowledged := by
  induction schedule generalizing state with
  | nil =>
    cases followed
    rfl
  | cons move rest inductionHypothesis =>
    obtain ⟨next, fires, later⟩ := Option.bind_eq_some_iff.1 followed
    have ahead := inductionHypothesis later
    cases move with
    | acknowledge key =>
      cases fires
      exact ahead
    | claim client =>
      rw [List.filter_cons_of_pos rfl, follow, step_unacknowledged rfl, fires]
      exact ahead
    | note client =>
      rw [List.filter_cons_of_pos rfl, follow, step_unacknowledged rfl, fires]
      exact ahead

end ClaimState

/-! ## Progress -/

namespace Claimant

/-- How many answers the client still gives. -/
def owed (claimant : Claimant) : Nat :=
  claimant.draws + if claimant.pending.isSome then 1 else 0

/-- How many moves the client still makes. -/
def movesLeft (claimant : Claimant) : Nat := claimant.draws + claimant.owed

@[simp]
theorem owed_idle (draws : Nat) : owed ⟨draws, none⟩ = draws := rfl

@[simp]
theorem owed_pending (draws : Nat) (claimed : Option UInt64) :
    owed ⟨draws, some claimed⟩ = draws + 1 := rfl

theorem isNone_of_owed_eq_zero {claimant : Claimant} (nothing : claimant.owed = 0) :
    claimant.pending.isNone = true := by
  obtain ⟨draws, pending⟩ := claimant
  cases pending with
  | none => rfl
  | some claimed => cases nothing

end Claimant

namespace ClaimState

/-- What clients have answered and still answer amounts to all the draws. -/
structure Owing (draws : List Nat) (state : ClaimState) : Prop where
  size : state.claimants.length = draws.length
  amount : state.answers.length + total (state.claimants.map Claimant.owed) = total draws

theorem owing_opening (keys : AcknowledgedPool) (draws : List Nat) :
    Owing draws (opening keys draws) := by
  refine ⟨List.length_map .., ?_⟩
  have idle : (opening keys draws).claimants.map Claimant.owed = draws := by
    rw [opening, List.map_map]
    exact List.map_id' _
  rw [idle]
  exact Nat.zero_add _

/-- A move of a client leaves it with one move less. -/
theorem Owing.offered {draws : List Nat} {client : Nat} (owing : Owing draws state)
    (offered : offer client state = some move) (fires : step move state = some after) :
    Owing draws after ∧
      total (after.claimants.map Claimant.movesLeft) <
        total (state.claimants.map Claimant.movesLeft) := by
  obtain ⟨size, amount⟩ := owing
  cases advance_of_step fires with
  | @claimed _ left found =>
    have owed := total_map_set Claimant.owed found ⟨left, some state.keys.pool.claim.1⟩
    have moves := total_map_set Claimant.movesLeft found ⟨left, some state.keys.pool.claim.1⟩
    simp only [Claimant.movesLeft, Claimant.owed_idle, Claimant.owed_pending] at owed moves
    refine ⟨⟨(List.length_set ..).trans size, ?_⟩, ?_⟩ <;> dsimp only <;> omega
  | @noted _ left taken found =>
    have owed := total_map_set Claimant.owed found ⟨left, none⟩
    have moves := total_map_set Claimant.movesLeft found ⟨left, none⟩
    simp only [Claimant.movesLeft, Claimant.owed_idle, Claimant.owed_pending] at owed moves
    refine ⟨⟨(List.length_set ..).trans size, ?_⟩, ?_⟩ <;> dsimp only [List.length_cons] <;> omega
  | acknowledged =>
    obtain ⟨claimant, _, same⟩ := Option.map_eq_some_iff.1 offered
    split at same <;> cases same

theorem exists_offer {client : Nat} {claimant : Claimant}
    (found : state.claimants[client]? = some claimant) (left : claimant.movesLeft ≠ 0) :
    ∃ move, offer client state = some move ∧ (step move state).isSome = true := by
  obtain ⟨draws, pending⟩ := claimant
  cases pending with
  | some taken =>
    refine ⟨.note client, ?_, ?_⟩
    · rw [offer, found]
      rfl
    · rw [step_of_advance (.noted found)]
      rfl
  | none =>
    cases draws with
    | zero => exact absurd rfl left
    | succ draws =>
      refine ⟨.claim client, ?_, ?_⟩
      · rw [offer, found]
        rfl
      · rw [step_of_advance (.claimed found)]
        rfl

/-- Clients that take turns have no move left at the end. -/
theorem owing_run (keys : AcknowledgedPool) (draws : List Nat) :
    Owing draws (opening keys draws).run ∧
      ∀ claimant ∈ (opening keys draws).run.claimants, claimant.movesLeft = 0 := by
  refine drive_finishes (Owing draws)
    (fun state => ∀ claimant ∈ state.claimants, claimant.movesLeft = 0)
    (fun state => total (state.claimants.map Claimant.movesLeft)) ?_ ?_ _ _
    (owing_opening keys draws) ?_
  · intro turn state move later next owing picked fires
    obtain ⟨⟨client, offered⟩, _⟩ := offered_of_roundRobin picked
    exact owing.offered offered fires
  · intro state turn owing unfinished
    simp only [not_forall] at unfinished
    obtain ⟨claimant, member, left⟩ := unfinished
    obtain ⟨client, found⟩ := List.getElem?_of_mem member
    obtain ⟨move, offered, enabled⟩ := exists_offer found left
    have inside : client < (opening keys draws).claimants.length := by
      rw [(owing_opening keys draws).size, ← owing.size]
      exact (List.getElem?_eq_some_iff.1 found).1
    obtain ⟨move, later, picked⟩ := exists_roundRobin inside offered enabled
    exact ⟨move, later, picked, (offered_of_roundRobin picked).2⟩
  · apply total_map_le
    intro claimant _
    simp only [Claimant.movesLeft, Claimant.owed]
    split <;> omega

/-- No draw waits for another: clients that take turns make all their draws. -/
theorem run_finishes (keys : AcknowledgedPool) (draws : List Nat) :
    (opening keys draws).run.isQuiet = true ∧
      (opening keys draws).run.answers.length = total draws := by
  obtain ⟨⟨_, amount⟩, done⟩ := owing_run keys draws
  have idle : ∀ claimant ∈ (opening keys draws).run.claimants, claimant.owed = 0 :=
    fun claimant member => (Nat.add_eq_zero_iff.1 (done claimant member)).2
  rw [total_map_eq_zero idle, Nat.add_zero] at amount
  refine ⟨List.all_eq_true.2 fun claimant member => ?_, amount⟩
  exact Claimant.isNone_of_owed_eq_zero (idle claimant member)

end ClaimState

/-! ## Keys -/

/-- The first members of a list, and the fallback for each index behind its end. -/
theorem map_range_getD {α : Type} (members : List α) (size : Nat) (fallback : α) :
    (List.range size).map (fun index => members[index]?.getD fallback) =
      members.take size ++ List.replicate (size - members.length) fallback := by
  apply List.ext_getElem?
  intro index
  simp only [List.getElem?_map, List.getElem?_append, List.length_take, List.getElem?_replicate]
  grind

theorem KeyPool.slot?_eq (pool : KeyPool) {index : Nat} (small : index < UInt64.size) :
    pool.slot? index = pool.keys[index]? := by
  have same : index.toUInt64.toNat = index := UInt64.toNat_ofNat_of_lt' small
  rw [slot?, same]

/-- The first slots: keys of the pool, and its first key as often as they are more. -/
theorem KeyPool.map_slot_range (pool : KeyPool) {made : Nat} (small : made ≤ UInt64.size) :
    (List.range made).map pool.slot =
      pool.keys.toList.take made ++ List.replicate (made - pool.keys.toList.length) pool.start := by
  rw [← map_range_getD]
  apply List.map_congr_left
  intro index inside
  have below : index < UInt64.size := Nat.lt_of_lt_of_le (List.mem_range.1 inside) small
  rw [slot, pool.slot?_eq below, answer, Array.getElem?_toList]

theorem size_arrange {arrange : Array UInt64 → Array UInt64}
    (permutes : ∀ keys, (arrange keys).toList.Perm keys.toList) (start count : UInt64) :
    (arrange (keyRange start count)).size = count.toNat :=
  (permutes _).length_eq.trans (length_keyRange start count)

theorem perm_reverse (keys : Array UInt64) : keys.reverse.toList.Perm keys.toList := by
  rw [Array.toList_reverse]
  exact List.reverse_perm _

/-! ## Counters -/

theorem Counter.draws_eq (count : Nat) (counter : Counter) :
    counter.draws count =
      (List.range count).map fun offset => counter.upcoming + offset.toUInt64 := by
  induction count generalizing counter with
  | zero => rfl
  | succ count inductionHypothesis =>
    rw [Counter.draws, inductionHypothesis, List.range_succ_eq_map, List.map_cons, List.map_map]
    congr 1
    · exact (UInt64.add_zero _).symm
    · apply List.map_congr_left
      intro offset _
      show counter.upcoming + 1 + offset.toUInt64 = counter.upcoming + (offset + 1).toUInt64
      rw [UInt64.add_assoc, UInt64.add_comm 1]
      exact congrArg (counter.upcoming + ·) (UInt64.ofNat_add offset 1).symm

namespace CounterState

variable {start : UInt64} {draws : List Nat} {state : CounterState}

/-- The draws of a counter and its clients, in the order in which they were made. -/
structure Counted (start : UInt64) (state : CounterState) : Prop where
  upcoming : state.counter.upcoming = start + state.answers.length.toUInt64
  answers : state.answers.reverse =
    (List.range state.answers.length).map fun offset => start + offset.toUInt64

theorem Counted.step {client : Nat} {after : CounterState} (counted : Counted start state)
    (fires : step client state = some after) : Counted start after := by
  obtain ⟨upcoming, answers⟩ := counted
  simp only [CounterState.step] at fires
  split at fires
  · next left found =>
    cases fires
    constructor
    · show state.counter.upcoming + 1 = start + (state.answers.length + 1).toUInt64
      rw [upcoming, UInt64.add_assoc]
      exact congrArg (start + ·) (UInt64.ofNat_add state.answers.length 1).symm
    · show (state.counter.upcoming :: state.answers).reverse =
        (List.range (state.answers.length + 1)).map _
      rw [List.reverse_cons, List.range_succ, List.map_append, answers, upcoming]
      rfl
  · cases fires

theorem Counted.of_reaches (path : Reaches CounterState.step ⟨⟨start⟩, draws, []⟩ state) :
    Counted start state :=
  path.invariant ⟨(UInt64.add_zero start).symm, rfl⟩ fun _ _ _ counted fires => counted.step fires

end CounterState

/-! ## Main result -/

/-- Keys of a range, each once, and the first key of the range as often as more keys were asked for
than it has. -/
structure EachOnce (start count : UInt64) (fresh answers : List UInt64) : Prop where
  distinct : fresh.Nodup
  inside : ∀ key ∈ fresh, start.toNat ≤ key.toNat ∧ key.toNat < start.toNat + count.toNat
  size : fresh.length = min answers.length count.toNat
  whole : count.toNat ≤ answers.length → fresh.Perm (keyRange start count).toList
  answers : answers.Perm (fresh ++ List.replicate (answers.length - count.toNat) start)

theorem AcknowledgedPool.create?_eq_some_iff {arrange : Array UInt64 → Array UInt64}
    {start count : UInt64} {keys : AcknowledgedPool} :
    create? arrange start count = some keys ↔ start.toNat + count.toNat < UInt64.size ∧
      ⟨⟨start, arrange (keyRange start count), 0, start - 1⟩, []⟩ = keys := by
  rw [create?, KeyPool.create?]
  split
  · next fits => simp [fits]
  · next wide => simp [wide]

/-- What the first slots of a pool hold, whatever the order of its keys. -/
theorem eachOnce_of_perm {start count : UInt64}
    (fits : start.toNat + count.toNat < UInt64.size) {order answers : List UInt64}
    (arranged : order.Perm (keyRange start count).toList)
    (drawn : answers.Perm (order.take answers.length ++
      List.replicate (answers.length - order.length) start)) :
    EachOnce start count (order.take answers.length) answers := by
  have size : order.length = count.toNat := arranged.length_eq.trans (length_keyRange start count)
  have distinct : order.Nodup := arranged.nodup_iff.2 (nodup_keyRange fits)
  constructor
  · exact distinct.sublist (List.take_sublist ..)
  · intro key taken
    exact mem_keyRange fits (arranged.subset (List.mem_of_mem_take taken))
  · rw [List.length_take, size]
  · intro enough
    rw [List.take_of_length_le (size ▸ enough)]
    exact arranged
  · rwa [size] at drawn

/-- **No key is drawn twice.**  Whatever the number of clients, the draws they make, the order of
their steps and the acknowledgments between them: as soon as no draw is in progress, `N` draws have
answered the smaller of `N` and `count` keys of the range, each once, and its first key for the
rest; `count - N` keys are left.  Acknowledgments could have been left out, and clients that take
turns make all their draws.  Draws from a counter answer the keys from `start` on, each once. -/
theorem draws_never_collide {arrange : Array UInt64 → Array UInt64}
    (permutes : ∀ keys, (arrange keys).toList.Perm keys.toList) {start count : UInt64}
    (fits : start.toNat + count.toNat < UInt64.size) :
    (∃ keys, AcknowledgedPool.create? arrange start count = some keys ∧ ∀ draws,
      ((ClaimState.opening keys draws).run.isQuiet = true ∧
        (ClaimState.opening keys draws).run.answers.length = total draws) ∧
      ∀ schedule state,
        follow ClaimState.step schedule (.opening keys draws) = some state →
        follow ClaimState.step (schedule.filter (·.isDraw)) (.opening keys draws) =
          some state.unacknowledged ∧
        (state.isQuiet = true → state.answers.length < UInt64.size →
          (∃ fresh, EachOnce start count fresh state.answers) ∧
            state.keys.pool.remaining = count.toNat - state.answers.length)) ∧
    ∀ draws state, Reaches CounterState.step ⟨⟨start⟩, draws, []⟩ state →
      state.answers.reverse = Counter.draws state.answers.length ⟨start⟩ ∧
        state.answers.reverse =
          (List.range state.answers.length).map fun offset => start + offset.toUInt64 := by
  refine ⟨⟨_, AcknowledgedPool.create?_eq_some_iff.2 ⟨fits, rfl⟩, ?_⟩, ?_⟩
  · intro draws
    refine ⟨ClaimState.run_finishes _ draws, ?_⟩
    intro schedule state followed
    refine ⟨ClaimState.follow_isDraw followed, ?_⟩
    intro quiet few
    have claimed := ClaimState.Claimed.of_follow rfl followed
    have answers := claimed.answers_perm quiet
    rw [← claimed.length_answers quiet, KeyPool.map_slot_range _ (Nat.le_of_lt few)] at answers
    refine ⟨⟨_, eachOnce_of_perm fits (permutes _) answers⟩, ?_⟩
    have reached := claimed.reached
    rw [← claimed.length_answers quiet] at reached
    rw [reached.remaining_eq few, KeyPool.capacity, size_arrange permutes]
  · intro draws state path
    have answers := (CounterState.Counted.of_reaches path).answers
    exact ⟨answers.trans (Counter.draws_eq _ _).symm, answers⟩

/-- Two keys at the end of all keys, in reverse order, and three draws: the second client is faster
with its draw, and the third draw finds no key. -/
theorem draws_never_collide_at_top :
    let start : UInt64 := 18446744073709551613
    let schedule : List ClaimMove :=
      [.claim 0, .claim 1, .note 1, .acknowledge start, .note 0, .claim 0, .note 0]
    (∀ keys : Array UInt64, keys.reverse.toList.Perm keys.toList) ∧
    start.toNat + (2 : UInt64).toNat < UInt64.size ∧
    ∃ keys, AcknowledgedPool.create? Array.reverse start 2 = some keys ∧
      ∃ state, follow ClaimState.step schedule (.opening keys [2, 1]) = some state ∧
        state.isQuiet = true ∧ state.answers = [start, start + 1, start] ∧
        (∃ fresh, EachOnce start 2 fresh state.answers) ∧
        state.keys.pool.remaining = 0 := by
  intro start schedule
  have fits : start.toNat + (2 : UInt64).toNat < UInt64.size := by decide
  obtain ⟨⟨keys, created, draws⟩, -⟩ := draws_never_collide perm_reverse fits
  have ends : (AcknowledgedPool.create? Array.reverse start 2).any (fun keys =>
      (follow ClaimState.step schedule (.opening keys [2, 1])).any fun state =>
        state.isQuiet && state.answers == [start, start + 1, start]) = true := by
    decide +kernel
  rw [created, Option.any_some] at ends
  obtain ⟨state, followed, ended⟩ := (Option.any_eq_true _ _).1 ends
  obtain ⟨quiet, answers⟩ := Bool.and_eq_true_iff.1 ended
  have answers := beq_iff_eq.1 answers
  obtain ⟨once, remaining⟩ :=
    ((draws [2, 1]).2 schedule state followed).2 quiet (by rw [answers]; decide)
  refine ⟨perm_reverse, fits, keys, created, state, followed, quiet, answers, once, ?_⟩
  rw [remaining, answers]
  rfl

end StoreBench.Keys
