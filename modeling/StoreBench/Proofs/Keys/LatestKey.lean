import StoreBench.Proofs.Keys.ConcurrentDraws

/-!
Contract: which of the keys drawn from a pool is the one noted latest.

A draw claims its key in one step and notes it in another, so a client may note a key after other
clients have claimed and noted later ones.  The pool then names the key of a draw that was
overtaken.  It is overtaken by draws only that began before it ended.

Owns:
- the draws of a schedule, in progress and finished;
- `Noted`, the invariant of the latest note;
- the key noted latest, and a schedule in which it is not the one claimed latest.

Does not own: which keys are drawn, which is in `Proofs.Keys.ConcurrentDraws`.
-/

namespace StoreBench.Keys

/-! ## Draws of a schedule -/

/-- A draw that a client has begun and not ended. -/
structure OpenDraw (schedule : List ClaimMove) (client : Nat) where
  before : List ClaimMove
  during : List ClaimMove
  parts : schedule = before ++ .claim client :: during
  inside : .note client ∉ during

/-- A draw that a client has begun and ended. -/
structure FinishedDraw (schedule : List ClaimMove) where
  before : List ClaimMove
  client : Nat
  during : List ClaimMove
  after : List ClaimMove
  parts : schedule = before ++ .claim client :: (during ++ .note client :: after)
  inside : .note client ∉ during

variable {schedule : List ClaimMove}

theorem claims_append (first second : List ClaimMove) :
    claims (first ++ second) = claims first + claims second :=
  List.countP_append ..

theorem claims_claim_cons (client : Nat) (rest : List ClaimMove) :
    claims (.claim client :: rest) = claims rest + 1 :=
  List.countP_cons_of_pos rfl

namespace OpenDraw

variable {client : Nat}

/-- How many draws began before this one. -/
def slot (draw : OpenDraw schedule client) : Nat := claims draw.before

/-- The draw that begins with the last move of a schedule. -/
def begin (schedule : List ClaimMove) (client : Nat) :
    OpenDraw (schedule ++ [.claim client]) client :=
  ⟨schedule, [], rfl, List.not_mem_nil⟩

def extend (draw : OpenDraw schedule client) {move : ClaimMove} (other : move ≠ .note client) :
    OpenDraw (schedule ++ [move]) client where
  before := draw.before
  during := draw.during ++ [move]
  parts := by
    refine (congrArg (· ++ [move]) draw.parts).trans ?_
    simp only [List.append_assoc, List.cons_append]
  inside := by
    rw [List.mem_append, List.mem_singleton]
    exact not_or.2 ⟨draw.inside, other.symm⟩

def finish (draw : OpenDraw schedule client) : FinishedDraw (schedule ++ [.note client]) where
  before := draw.before
  client := client
  during := draw.during
  after := []
  parts := by
    refine (congrArg (· ++ [.note client]) draw.parts).trans ?_
    simp only [List.append_assoc, List.cons_append]
  inside := draw.inside

end OpenDraw

namespace FinishedDraw

def slot (draw : FinishedDraw schedule) : Nat := claims draw.before

/-- How many draws began while this one was in progress. -/
def overlapping (draw : FinishedDraw schedule) : Nat := claims draw.during

def extend (draw : FinishedDraw schedule) (move : ClaimMove) :
    FinishedDraw (schedule ++ [move]) where
  before := draw.before
  client := draw.client
  during := draw.during
  after := draw.after ++ [move]
  parts := by
    refine (congrArg (· ++ [move]) draw.parts).trans ?_
    simp only [List.append_assoc, List.cons_append]
  inside := draw.inside

theorem slot_lt (draw : FinishedDraw schedule) : draw.slot < claims schedule := by
  have begun := congrArg claims draw.parts
  rw [claims_append, claims_claim_cons] at begun
  rw [begun, slot]
  omega

/-- Draws that are made one after another do not overlap. -/
theorem overlapping_eq_zero (clients : List Nat)
    (draw : FinishedDraw (clients.flatMap fun client => [.claim client, .note client])) :
    draw.overlapping = 0 := by
  obtain ⟨before, client, during, after, parts, inside⟩ := draw
  show claims during = 0
  induction clients generalizing before with
  | nil => cases before <;> cases parts
  | cons first rest inductionHypothesis =>
    rw [List.flatMap_cons] at parts
    match before with
    | [] =>
      injection parts with begins ends
      cases begins
      match during with
      | [] => rfl
      | move :: moves =>
        injection ends with ends
        exact absurd (ends ▸ List.mem_cons_self) inside
    | [_] =>
      injection parts with _ noted
      injection noted with noted
      cases noted
    | _ :: _ :: before =>
      injection parts with _ noted
      injection noted with _ others
      exact inductionHypothesis before others

end FinishedDraw

/-- When a draw ends, the draws that have begun did so before it or while it was in progress. -/
theorem OpenDraw.claims_eq {client : Nat} (draw : OpenDraw schedule client) :
    claims schedule = draw.finish.slot + draw.finish.overlapping + 1 := by
  have begun := congrArg claims draw.parts
  rw [claims_append, claims_claim_cons] at begun
  exact begun

/-! ## The latest note -/

namespace ClaimState

/-- Every key that a draw took behind the `first` ones is still to be noted. -/
def Awaits (pool : KeyPool) (first made : Nat) (state : ClaimState) : Prop :=
  ∀ index key, first ≤ index → index < made → pool.slot? index = some key →
    ∃ client draws : Nat, state.claimants[client]? = some ⟨draws, some (some key)⟩

/-- Where the keys come from that clients are about to note, and the one that was noted latest. -/
structure Noted (pool : KeyPool) (schedule : List ClaimMove) (state : ClaimState) : Prop where
  claimed : Claimed pool (claims schedule) state
  began : ∀ {client draws taken}, state.claimants[client]? = some ⟨draws, some taken⟩ →
    ∃ draw : OpenDraw schedule client, taken = pool.slot? draw.slot
  latest : state.keys.pool.last = pool.last ∧ Awaits pool 0 (claims schedule) state ∨
    ∃ draw : FinishedDraw schedule, pool.slot? draw.slot = some state.keys.pool.last ∧
      Awaits pool (draw.slot + draw.overlapping + 1) (claims schedule) state

variable {pool : KeyPool} {state after : ClaimState} {move : ClaimMove}

theorem noted_opening {keys : AcknowledgedPool} (fresh : keys.pool.cursor = 0)
    (draws : List Nat) : Noted keys.pool [] (opening keys draws) where
  claimed := claimed_opening fresh draws
  began found := by
    obtain ⟨_, _, same⟩ := List.mem_map.1 (List.mem_of_getElem? found)
    cases same
  latest := .inl ⟨rfl, fun _ _ _ small => absurd small (Nat.not_lt_zero _)⟩

theorem ne_of_pending {client other draws left : Nat} {taken : Option UInt64}
    (found : state.claimants[client]? = some ⟨draws, none⟩)
    (pending : state.claimants[other]? = some ⟨left, some taken⟩) : client ≠ other := by
  rintro rfl
  rw [found] at pending
  cases pending

/-- A draw that begins keeps every key to be noted, and adds the one that it claims. -/
theorem Awaits.claim {first made client draws : Nat} {keys : AcknowledgedPool}
    (awaits : Awaits pool first made state)
    (found : state.claimants[client]? = some ⟨draws + 1, none⟩) :
    Awaits pool first (made + 1)
      { state with
        keys
        claimants := state.claimants.set client ⟨draws, some (pool.slot? made)⟩ } := by
  intro index key behind below taken
  rcases Nat.lt_succ_iff_lt_or_eq.1 below with old | rfl
  · obtain ⟨other, left, pending⟩ := awaits index key behind old taken
    exact ⟨other, left, (List.getElem?_set_ne (ne_of_pending found pending)).trans pending⟩
  · refine ⟨client, draws, ?_⟩
    rw [List.getElem?_set_self (List.getElem?_eq_some_iff.1 found).1, taken]

theorem Awaits.note_none {first made client draws : Nat} {keys : AcknowledgedPool}
    {answers : List UInt64} (awaits : Awaits pool first made state)
    (found : state.claimants[client]? = some ⟨draws, some none⟩) :
    Awaits pool first made
      { keys, claimants := state.claimants.set client ⟨draws, none⟩, answers } := by
  intro index key behind below taken
  obtain ⟨other, left, pending⟩ := awaits index _ behind below taken
  refine ⟨other, left, (List.getElem?_set_ne ?_).trans pending⟩
  rintro rfl
  rw [found] at pending
  cases pending

theorem Noted.step (noted : Noted pool schedule state) (fires : step move state = some after) :
    Noted pool (schedule ++ [move]) after := by
  have claimedAfter : Claimed pool (claims (schedule ++ [move])) after := by
    have claimed := noted.claimed.step fires
    rwa [← List.countP_singleton, claims, ← List.countP_append] at claimed
  obtain ⟨claimed, began, latest⟩ := noted
  cases advance_of_step fires with
  | @claimed client draws found =>
    have next := claimed.reached.claim_eq
    have more : claims (schedule ++ [.claim client]) = claims schedule + 1 := claims_append ..
    refine ⟨claimedAfter, ?_, ?_⟩
    · intro other left taken pending
      rcases of_getElem?_set pending with ⟨rfl, same⟩ | ⟨_, pending⟩
      · cases same
        exact ⟨.begin schedule client, next⟩
      · obtain ⟨draw, same⟩ := began pending
        exact ⟨draw.extend (by simp), same⟩
    · rw [more, next]
      rcases latest with ⟨same, awaits⟩ | ⟨draw, same, awaits⟩
      · exact .inl ⟨same, awaits.claim found⟩
      · exact .inr ⟨draw.extend _, same, awaits.claim found⟩
  | @noted client draws taken found =>
    have same : claims (schedule ++ [.note client]) = claims schedule := claims_append ..
    refine ⟨claimedAfter, ?_, ?_⟩
    · intro other left taken pending
      rcases of_getElem?_set pending with ⟨rfl, same⟩ | ⟨others, pending⟩
      · cases same
      · obtain ⟨draw, same⟩ := began pending
        exact ⟨draw.extend fun equal => others (ClaimMove.note.inj equal), same⟩
    · rw [same]
      cases taken with
      | none =>
        rcases latest with ⟨same, awaits⟩ | ⟨draw, same, awaits⟩
        · exact .inl ⟨same, awaits.note_none found⟩
        · exact .inr ⟨draw.extend _, same, awaits.note_none found⟩
      | some key =>
        -- The draw that ends now is the latest to note, and no other has begun since.
        obtain ⟨draw, same⟩ := began found
        refine .inr ⟨draw.finish, same.symm, ?_⟩
        intro index key behind below _
        rw [draw.claims_eq] at below
        exact absurd below (Nat.not_lt.2 behind)
  | @acknowledged key =>
    have same : claims (schedule ++ [.acknowledge key]) = claims schedule := claims_append ..
    refine ⟨claimedAfter, ?_, ?_⟩
    · intro client left taken pending
      obtain ⟨draw, same⟩ := began pending
      exact ⟨draw.extend (by simp), same⟩
    · rw [same]
      rcases latest with untouched | ⟨draw, same, awaits⟩
      · exact .inl untouched
      · exact .inr ⟨draw.extend _, same, awaits⟩

theorem Noted.of_follow {keys : AcknowledgedPool} (fresh : keys.pool.cursor = 0)
    {draws : List Nat}
    (followed : follow ClaimState.step schedule (opening keys draws) = some state) :
    Noted keys.pool schedule state :=
  follow_invariant followed (noted_opening fresh draws) fun noted fires => noted.step fires

theorem Awaits.eq_none {first made index : Nat} (awaits : Awaits pool first made state)
    (quiet : state.isQuiet = true) (behind : first ≤ index) (below : index < made) :
    pool.slot? index = none := by
  cases taken : pool.slot? index with
  | none => rfl
  | some key =>
    obtain ⟨client, draws, pending⟩ := awaits index _ behind below taken
    have idle := List.all_eq_true.1 quiet _ (List.mem_of_getElem? pending)
    cases idle

end ClaimState

/-! ## Main result -/

namespace KeyPool

/-- The key in the highest of the first `made` slots that holds one, or the number before the first
key of the range if none does. -/
def newest (pool : KeyPool) (made : Nat) : UInt64 :=
  match min made pool.capacity with
  | 0 => pool.start - 1
  | slot + 1 => pool.keys.getD slot pool.start

variable {pool : KeyPool} {made : Nat}

theorem newest_of_none (small : made ≤ UInt64.size)
    (nothing : ∀ index < made, pool.slot? index = none) : pool.newest made = pool.start - 1 := by
  have empty : min made pool.capacity = 0 := by
    by_contra positive
    have behind := nothing 0 (by omega)
    rw [pool.slot?_eq (by omega), Array.getElem?_eq_none_iff] at behind
    rw [capacity] at positive
    omega
  rw [newest, empty]

/-- The newest key is the one in a slot behind which no other is taken. -/
theorem newest_of_slot {slot : Nat} {key : UInt64} (small : made ≤ UInt64.size)
    (below : slot < made) (taken : pool.slot? slot = some key)
    (nothing : ∀ index < made, slot < index → pool.slot? index = none) :
    pool.newest made = key := by
  rw [pool.slot?_eq (by omega)] at taken
  obtain ⟨inside, same⟩ := Array.getElem?_eq_some_iff.1 taken
  have highest : min made pool.capacity = slot + 1 := by
    by_contra other
    rw [capacity] at other
    have behind := nothing (slot + 1) (by omega) (Nat.lt_succ_self _)
    rw [pool.slot?_eq (by omega), Array.getElem?_eq_none_iff] at behind
    omega
  rw [newest, highest]
  show pool.keys.getD slot pool.start = key
  rw [Array.getD_eq_getD_getElem?, taken]
  rfl

end KeyPool

/-- **The key noted latest is that of a draw overtaken only by draws that it overlaps.**  When no
draw is in progress, either no draw has found a key, and the pool names the number before its first
key; or it names the key of a draw such that none that began after its end has found a key.  If no
two draws overlap this is the newest key. -/
theorem latest_note {arrange : Array UInt64 → Array UInt64} {start count : UInt64}
    {keys : AcknowledgedPool} (created : AcknowledgedPool.create? arrange start count = some keys)
    {draws : List Nat} {schedule : List ClaimMove} {state : ClaimState}
    (followed : follow ClaimState.step schedule (.opening keys draws) = some state)
    (quiet : state.isQuiet = true) :
    (state.keys.pool.last = start - 1 ∧
        (∀ index < claims schedule, keys.pool.slot? index = none) ∨
      ∃ draw : FinishedDraw schedule, keys.pool.slot? draw.slot = some state.keys.pool.last ∧
        ∀ index < claims schedule, draw.slot + draw.overlapping < index →
          keys.pool.slot? index = none) ∧
    (claims schedule ≤ UInt64.size → (∀ draw : FinishedDraw schedule, draw.overlapping = 0) →
      state.keys.pool.last = keys.pool.newest (claims schedule)) := by
  obtain ⟨-, rfl⟩ := AcknowledgedPool.create?_eq_some_iff.1 created
  have latest := (ClaimState.Noted.of_follow rfl followed).latest
  constructor
  · rcases latest with ⟨untouched, awaits⟩ | ⟨draw, noted, awaits⟩
    · refine .inl ⟨untouched, ?_⟩
      intro index below
      exact awaits.eq_none quiet (Nat.zero_le _) below
    · refine .inr ⟨draw, noted, ?_⟩
      intro index below behind
      exact awaits.eq_none quiet behind below
  · intro small apart
    rcases latest with ⟨untouched, awaits⟩ | ⟨draw, noted, awaits⟩
    · rw [untouched]
      symm
      apply KeyPool.newest_of_none small
      intro index below
      exact awaits.eq_none quiet (Nat.zero_le _) below
    · refine (KeyPool.newest_of_slot small draw.slot_lt noted ?_).symm
      intro index below behind
      rw [apart draw] at awaits
      exact awaits.eq_none quiet behind below

/-- In one schedule the first client is overtaken by the second, whose note it covers; a third draw
finds no key.  In the other one the two clients draw one after the other, and the second key is
noted. -/
theorem latest_note_of_overtaken :
    let schedule : List ClaimMove :=
      [.claim 0, .claim 1, .note 1, .note 0, .claim 1, .acknowledge 11, .note 1]
    let apart : List ClaimMove := [0, 1].flatMap fun client => [.claim client, .note client]
    ∃ keys, AcknowledgedPool.create? id 10 2 = some keys ∧
      (∃ state, follow ClaimState.step schedule (.opening keys [1, 2]) = some state ∧
        state.isQuiet = true ∧
        (state.keys.pool.last = 9 ∧
            (∀ index < claims schedule, keys.pool.slot? index = none) ∨
          ∃ draw : FinishedDraw schedule, keys.pool.slot? draw.slot = some state.keys.pool.last ∧
            ∀ index < claims schedule, draw.slot + draw.overlapping < index →
              keys.pool.slot? index = none)) ∧
      ∃ state, follow ClaimState.step apart (.opening keys [1, 2]) = some state ∧
        state.isQuiet = true ∧ claims apart ≤ UInt64.size ∧
        (∀ draw : FinishedDraw apart, draw.overlapping = 0) ∧
        state.keys.pool.last = keys.pool.newest (claims apart) := by
  intro schedule apart
  have created : AcknowledgedPool.create? id 10 2 = some ⟨⟨10, #[10, 11], 0, 9⟩, []⟩ := by
    decide +kernel
  have overtaken : follow ClaimState.step schedule (.opening ⟨⟨10, #[10, 11], 0, 9⟩, []⟩ [1, 2]) =
      some ⟨⟨⟨10, #[10, 11], 3, 10⟩, [11]⟩, [⟨0, none⟩, ⟨0, none⟩], [10, 10, 11]⟩ := by
    decide +kernel
  have followed : follow ClaimState.step apart (.opening ⟨⟨10, #[10, 11], 0, 9⟩, []⟩ [1, 2]) =
      some ⟨⟨⟨10, #[10, 11], 2, 11⟩, []⟩, [⟨0, none⟩, ⟨1, none⟩], [11, 10]⟩ := by
    decide +kernel
  have small : claims apart ≤ UInt64.size := by decide
  have overlapsNone := FinishedDraw.overlapping_eq_zero [0, 1]
  exact ⟨_, created, ⟨_, overtaken, rfl, (latest_note created overtaken rfl).1⟩, _, followed, rfl,
    small, overlapsNone, (latest_note created followed rfl).2 small overlapsNone⟩

/-- Two clients draw one key each.  The second claims the second key and notes it, and then the
first notes the first key: no draw is in progress, and the pool does not name its newest key. -/
theorem latest_note_not_newest :
    let schedule : List ClaimMove := [.claim 0, .claim 1, .note 1, .note 0]
    ∃ keys state, AcknowledgedPool.create? id 10 2 = some keys ∧
      follow ClaimState.step schedule (.opening keys [1, 1]) = some state ∧
      state.isQuiet = true ∧ keys.pool.newest (claims schedule) = 11 ∧
      state.keys.pool.last = 10 ∧ state.keys.pool.last ≠ keys.pool.newest (claims schedule) := by
  refine ⟨⟨⟨10, #[10, 11], 0, 9⟩, []⟩,
    ⟨⟨⟨10, #[10, 11], 2, 10⟩, []⟩, [⟨0, none⟩, ⟨0, none⟩], [10, 11]⟩, ?_⟩
  decide +kernel

end StoreBench.Keys
