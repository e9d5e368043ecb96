import StoreBench.Proofs.Totals
import StoreBench.Sync.Gate

/-!
Contract: parties that meet at the gate, each arriving or giving up its place.

The gate awaits exactly the parties that have done neither.  The flag of the gate is the number of
parties that own the right to start the measurement, before or after they have used it, and the
number of starts is that of the owners who have used it.

Owns:
- the parties about to make their calls, and the steps of a party by name;
- `GateState.Met`, the invariant of the gate and its parties;
- what holds before and after everybody has finished, and that somebody can always act.

Does not own: what the parties do elsewhere, which is in `Proofs.Phase`.
-/

namespace StoreBench.Sync

/-- What a party does at the gate, once. -/
inductive PartyCall
  | arrive
  | release
  deriving DecidableEq, Repr

/-- Where a party stands that has yet to make its call. -/
def PartyCall.stage : PartyCall → PartyStage
  | .arrive => .arriving
  | .release => .releasing

/-- Parties about to make their calls at a gate that awaits them all. -/
def GateState.opening (calls : List PartyCall) (warmupOps : UInt64) : GateState :=
  ⟨.closed calls.length warmupOps, calls.map PartyCall.stage⟩

/-! ## One party -/

namespace PartyStage

/-- The call that a party makes. -/
def call : PartyStage → PartyCall
  | .releasing | .released => .release
  | _ => .arrive

/-- Whether the party is awaited, as a number. -/
def awaited : PartyStage → Nat
  | .arriving | .releasing => 1
  | _ => 0

/-- Whether the party owns the right to start the measurement, as a number. -/
def owns : PartyStage → Nat
  | .starting | .passed true => 1
  | _ => 0

/-- Whether the party has started the measurement, as a number. -/
def started : PartyStage → Nat
  | .passed true => 1
  | _ => 0

/-- The party is done with the wait. -/
def Beyond : PartyStage → Prop
  | .claiming | .starting | .passed _ => True
  | _ => False

def HasFinished : PartyStage → Prop
  | .passed _ | .released => True
  | _ => False

/-- A step of a party, by what it does to the gate. -/
inductive Advance (gate : WarmupGate) : PartyStage → WarmupGate → PartyStage → Prop
  | arrived : Advance gate .arriving gate.countDown .waiting
  | admitted (isOpen : gate.isOpen = true) : Advance gate .waiting gate .claiming
  | won (first : gate.started = false) :
      Advance gate .claiming { gate with started := true } .starting
  | lost (late : gate.started = true) : Advance gate .claiming gate (.passed false)
  | startedIt : Advance gate .starting gate.start (.passed true)
  | gaveUp : Advance gate .releasing gate.countDown .released

theorem advance_of_advance? {gate after : WarmupGate} {stage next : PartyStage}
    (advances : stage.advance? gate = some (after, next)) : Advance gate stage after next := by
  cases stage with
  | arriving =>
    cases advances
    exact .arrived
  | waiting =>
    simp only [advance?] at advances
    split at advances
    · next isOpen =>
      cases advances
      exact .admitted isOpen
    · cases advances
  | claiming =>
    cases late : gate.started with
    | false =>
      have claim : gate.claim = (true, { gate with started := true }) := by
        rw [WarmupGate.claim, late]
        rfl
      rw [advance?, claim] at advances
      cases advances
      exact .won late
    | true =>
      have claim : gate.claim = (false, gate) := by
        cases gate
        cases late
        rfl
      rw [advance?, claim] at advances
      cases advances
      exact .lost late
  | starting =>
    cases advances
    exact .startedIt
  | releasing =>
    cases advances
    exact .gaveUp
  | passed won => cases advances
  | released => cases advances

/-- A party that has not finished can act, unless it waits at the closed gate. -/
theorem exists_advance? {gate : WarmupGate} {stage : PartyStage} (unfinished : ¬ stage.HasFinished)
    (admitted : stage = .waiting → gate.isOpen = true) :
    ∃ result, stage.advance? gate = some result := by
  cases stage with
  | waiting =>
    rw [advance?, if_pos (admitted rfl)]
    exact ⟨_, rfl⟩
  | passed won => exact absurd trivial unfinished
  | released => exact absurd trivial unfinished
  | _ => exact ⟨_, rfl⟩

end PartyStage

/-! ## All parties -/

namespace GateState

/-- The gate and its parties agree. -/
structure Met (calls : List PartyCall) (state : GateState) : Prop where
  made : state.parties.map PartyStage.call = calls
  awaited : state.gate.pending = total (state.parties.map PartyStage.awaited)
  owned : total (state.parties.map PartyStage.owns) = if state.gate.started then 1 else 0
  starts : state.gate.starts = total (state.parties.map PartyStage.started)
  admitted : ∀ stage ∈ state.parties, stage.Beyond → state.gate.isOpen = true
  beaten : PartyStage.passed false ∈ state.parties → state.gate.started = true

variable {calls : List PartyCall} {state after : GateState} {party : Nat}

theorem isOpen_iff {gate : WarmupGate} : gate.isOpen = true ↔ gate.pending = 0 := by
  rw [WarmupGate.isOpen, Latch.isOpen, beq_iff_eq]
  rfl

theorem advance_of_step (steps : state.step party = some after) :
    ∃ stage next gate, state.parties[party]? = some stage ∧ stage.Advance state.gate gate next ∧
      after = ⟨gate, state.parties.set party next⟩ := by
  rw [step] at steps
  obtain ⟨stage, found, rest⟩ := Option.bind_eq_some_iff.1 steps
  obtain ⟨⟨gate, next⟩, advances, rest⟩ := Option.bind_eq_some_iff.1 rest
  cases rest
  exact ⟨stage, next, gate, found, PartyStage.advance_of_advance? advances, rfl⟩

theorem met_opening (calls : List PartyCall) (warmupOps : UInt64) :
    (opening calls warmupOps).Met calls := by
  have fresh {weight : PartyStage → Nat} (amount : Nat)
      (same : ∀ call : PartyCall, weight call.stage = amount) :
      total ((opening calls warmupOps).parties.map weight) = calls.length * amount := by
    have each : ∀ stage ∈ (opening calls warmupOps).parties, weight stage = amount := by
      intro stage member
      obtain ⟨call, _, rfl⟩ := List.mem_map.1 member
      exact same call
    rw [total_map_of_eq each, opening, List.length_map]
  have unpassed : ∀ stage ∈ (opening calls warmupOps).parties, ¬ stage.Beyond := by
    intro stage member
    obtain ⟨call, _, rfl⟩ := List.mem_map.1 member
    cases call <;> exact id
  refine ⟨?_, ?_, ?_, ?_, ?_, ?_⟩
  · have same : PartyStage.call ∘ PartyCall.stage = id := by
      funext call
      cases call <;> rfl
    rw [opening, List.map_map, same, List.map_id]
  · rw [fresh 1 (by intro call; cases call <;> rfl), Nat.mul_one]
    rfl
  · rw [fresh 0 (by intro call; cases call <;> rfl), Nat.mul_zero]
    rfl
  · rw [fresh 0 (by intro call; cases call <;> rfl), Nat.mul_zero]
    rfl
  · intro stage member beyond
    exact absurd beyond (unpassed stage member)
  · intro member
    exact absurd trivial (unpassed _ member)

theorem Met.step (met : state.Met calls) (steps : state.step party = some after) :
    after.Met calls := by
  obtain ⟨stage, next, gate, found, advance, rfl⟩ := advance_of_step steps
  have member := List.mem_of_getElem? found
  have awaited := total_map_set PartyStage.awaited found next
  have owned := total_map_set PartyStage.owns found next
  have starts := total_map_set PartyStage.started found next
  have mine : stage.awaited ≤ total (state.parties.map PartyStage.awaited) := le_total_map member
  rw [← met.awaited] at awaited mine
  rw [met.owned] at owned
  rw [← met.starts] at starts
  -- A party is admitted only at the open gate, and an open gate stays open.
  have stays : state.gate.isOpen = true → gate.isOpen = true := by
    intro isOpen
    cases advance with
    | arrived | gaveUp =>
      rw [isOpen_iff] at isOpen ⊢
      show state.gate.pending - 1 = 0
      omega
    | _ => exact isOpen
  have others {property : PartyStage → Prop} (kept : ∀ other ∈ state.parties, property other)
      (new : property next) : ∀ other ∈ state.parties.set party next, property other := by
    intro other inside
    rcases List.mem_or_eq_of_mem_set inside with old | rfl
    · exact kept other old
    · exact new
  have admitted := met.admitted
  have beaten := met.beaten
  refine ⟨?_, ?_, ?_, ?_, ?_, ?_⟩
  · rw [map_set_of_eq found (by cases advance <;> rfl), met.made]
  · cases advance with
    | arrived | gaveUp =>
      simp only [PartyStage.awaited] at awaited mine
      show state.gate.pending - 1 = total ((state.parties.set party _).map PartyStage.awaited)
      omega
    | _ => exact awaited.symm
  · cases advance with
    | won first =>
      rw [first] at owned
      exact owned
    | startedIt => exact Nat.add_right_cancel owned
    | _ => exact owned
  · cases advance with
    | startedIt =>
      show state.gate.starts + 1 = _
      exact starts.symm
    | _ => exact starts.symm
  · apply others
    · intro other inside beyond
      exact stays (admitted other inside beyond)
    · intro beyond
      cases advance with
      | arrived | gaveUp => cases beyond
      | admitted isOpen => exact isOpen
      | won | lost => exact admitted _ member trivial
      | startedIt => exact admitted _ member trivial
  · intro inside
    rcases List.mem_or_eq_of_mem_set inside with old | rfl
    · cases advance with
      | won => rfl
      | _ => exact beaten old
    · cases advance with
      | lost late => exact late

theorem Met.of_reaches {warmupOps : UInt64}
    (reaches : Reaches GateState.step (opening calls warmupOps) state) : state.Met calls :=
  reaches.invariant (met_opening calls warmupOps) fun _ _ _ met steps => met.step steps

/-- Nobody is awaited once a party is done with the wait. -/
theorem Met.awaited_eq_zero (met : state.Met calls) {stage : PartyStage}
    (member : stage ∈ state.parties) (beyond : stage.Beyond) {other : PartyStage}
    (inside : other ∈ state.parties) : other.awaited = 0 := by
  have nobody := isOpen_iff.1 (met.admitted stage member beyond)
  have share : other.awaited ≤ total (state.parties.map PartyStage.awaited) := le_total_map inside
  rw [← met.awaited, nobody] at share
  exact Nat.le_zero.1 share

/-- As long as a party has not finished, some party can act: a party that waits does so for one
that is awaited, and that one can act. -/
theorem Met.exists_step (met : state.Met calls) {stage : PartyStage}
    (member : stage ∈ state.parties) (unfinished : ¬ stage.HasFinished) :
    ∃ party after, state.step party = some after := by
  have acts {other : PartyStage} (inside : other ∈ state.parties) (running : ¬ other.HasFinished)
      (admitted : other = .waiting → state.gate.isOpen = true) :
      ∃ party after, state.step party = some after := by
    obtain ⟨party, found⟩ := List.getElem?_of_mem inside
    obtain ⟨result, advances⟩ := PartyStage.exists_advance? running admitted
    refine ⟨party, ⟨result.1, state.parties.set party result.2⟩, ?_⟩
    rw [GateState.step, found, Option.bind_eq_bind, Option.bind_some, advances]
    rfl
  by_cases isOpen : state.gate.isOpen = true
  · exact acts member unfinished fun _ => isOpen
  · -- somebody is awaited
    have positive : total (state.parties.map PartyStage.awaited) ≠ 0 := by
      rw [← met.awaited]
      intro nobody
      exact isOpen (isOpen_iff.2 nobody)
    obtain ⟨other, inside, isAwaited⟩ := exists_of_total_map_ne_zero positive
    cases other with
    | arriving => exact acts inside id (by rintro ⟨⟩)
    | releasing => exact acts inside id (by rintro ⟨⟩)
    | _ => exact absurd rfl isAwaited

/-- Once everybody has finished, every owner has started the measurement. -/
theorem total_owns_of_finished {parties : List PartyStage}
    (finished : ∀ stage ∈ parties, stage.HasFinished) :
    total (parties.map PartyStage.owns) = total (parties.map PartyStage.started) := by
  apply congrArg total
  apply List.map_congr_left
  intro stage member
  have ended := finished stage member
  cases stage with
  | passed won => cases won <;> rfl
  | released => rfl
  | _ => cases ended

theorem total_started (parties : List PartyStage) :
    total (parties.map PartyStage.started) = parties.count (.passed true) := by
  induction parties with
  | nil => rfl
  | cons stage rest inductionHypothesis =>
    rw [List.map_cons, total, inductionHypothesis, List.count_cons, Nat.add_comm]
    apply congrArg
    cases stage with
    | passed won => cases won <;> rfl
    | _ => rfl

/-- Somebody who arrived has made sure that the flag is set, if all have finished. -/
theorem Met.started_iff_arrive (met : state.Met calls)
    (finished : ∀ stage ∈ state.parties, stage.HasFinished) :
    state.gate.started = true ↔ PartyCall.arrive ∈ calls := by
  rw [← met.made, List.mem_map]
  constructor
  · intro flag
    have owned := met.owned
    rw [flag, if_pos rfl] at owned
    apply Classical.byContradiction
    intro nobody
    rw [total_map_eq_zero] at owned
    · cases owned
    · intro stage member
      cases stage with
      | starting => exact absurd ⟨_, member, rfl⟩ nobody
      | passed won => exact absurd ⟨_, member, rfl⟩ nobody
      | _ => rfl
  · rintro ⟨stage, member, arrives⟩
    have ended := finished stage member
    cases stage with
    | passed won =>
      cases won with
      | false => exact met.beaten member
      | true =>
        have owner : (PartyStage.passed true).owns ≤ total (state.parties.map PartyStage.owns) :=
          le_total_map member
        rw [met.owned] at owner
        by_cases flag : state.gate.started = true
        · exact flag
        · rw [if_neg flag] at owner
          cases owner
    | released => cases arrives
    | _ => cases ended

/-- **The rendezvous.**  Whoever arrives and whoever gives up its place, and in whatever order the
parties act: the measurement is started at most once; it is not started, and nobody comes back
from the gate, before every party has arrived or given up its place; and as long as some party has
not finished one of them can act.  Once all have finished, the measurement was started exactly
once, by exactly one of those that arrived; or nobody arrived, and it was not started. -/
theorem rendezvous (calls : List PartyCall) (warmupOps : UInt64) {state : GateState}
    (reaches : Reaches GateState.step (opening calls warmupOps) state) :
    state.gate.starts ≤ 1 ∧
    (0 < state.gate.starts ∨
        (∃ stage ∈ state.parties, stage = .starting ∨ ∃ won, stage = .passed won) →
      ∀ stage ∈ state.parties, stage ≠ .arriving ∧ stage ≠ .releasing) ∧
    (∀ stage ∈ state.parties, ¬ stage.HasFinished →
      ∃ party after, state.step party = some after) ∧
    ((∀ stage ∈ state.parties, stage.HasFinished) →
      (.arrive ∈ calls → state.gate.starts = 1 ∧ state.winners = 1) ∧
      ((∀ call ∈ calls, call = .release) →
        state.gate.starts = 0 ∧ state.gate.started = false)) := by
  have met := Met.of_reaches reaches
  refine ⟨?_, ?_, fun stage member => met.exists_step member, ?_⟩
  · have less : total (state.parties.map PartyStage.started) ≤
        total (state.parties.map PartyStage.owns) := by
      apply total_map_le
      intro stage _
      cases stage with
      | passed won => cases won <;> decide
      | _ => decide
    have owned := met.owned
    rw [met.starts]
    split at owned <;> omega
  · intro begun stage member
    have beyond : ∃ other ∈ state.parties, other.Beyond := by
      rcases begun with starts | ⟨other, inside, passes⟩
      · apply Classical.byContradiction
        intro nobody
        rw [met.starts, total_map_eq_zero] at starts
        · exact absurd starts (Nat.lt_irrefl 0)
        · intro other inside
          cases other with
          | passed won => exact absurd ⟨_, inside, trivial⟩ nobody
          | _ => rfl
      · rcases passes with rfl | ⟨won, rfl⟩
        · exact ⟨_, inside, trivial⟩
        · exact ⟨_, inside, trivial⟩
    obtain ⟨other, inside, beyond⟩ := beyond
    have unawaited := met.awaited_eq_zero inside beyond member
    constructor
    · rintro rfl
      cases unawaited
    · rintro rfl
      cases unawaited
  · intro finished
    have owned := met.owned
    rw [total_owns_of_finished finished, ← met.starts] at owned
    have flag := met.started_iff_arrive finished
    constructor
    · intro arrives
      rw [if_pos (flag.2 arrives)] at owned
      refine ⟨owned, ?_⟩
      rw [winners, ← total_started, ← met.starts]
      exact owned
    · intro released
      have unclaimed : state.gate.started = false := by
        rw [← Bool.not_eq_true, flag]
        intro arrives
        cases released _ arrives
      rw [unclaimed] at owned
      exact ⟨owned, unclaimed⟩

/-- Two parties arrive and one between them gives up its place; the one that arrived last is
beaten, and it comes back before the other has started the measurement. -/
theorem rendezvous_with_release :
    ∃ state, follow GateState.step [2, 1, 0, 2, 0, 2, 0, 2]
        (opening [.arrive, .release, .arrive] 10) = some state ∧
      (∀ stage ∈ state.parties, stage.HasFinished) ∧
      state.gate.starts = 1 ∧ state.winners = 1 := by
  let final : GateState := ⟨⟨10, ⟨0⟩, true, 1⟩, [.passed false, .released, .passed true]⟩
  have followed : follow GateState.step [2, 1, 0, 2, 0, 2, 0, 2]
      (opening [.arrive, .release, .arrive] 10) = some final := by decide
  have finished : ∀ stage ∈ final.parties, stage.HasFinished := by
    simp [final, PartyStage.HasFinished]
  obtain ⟨_, _, _, ended⟩ := rendezvous [.arrive, .release, .arrive] 10
    (reaches_of_follow followed)
  exact ⟨final, followed, finished, (ended finished).1 (by decide)⟩

end GateState

end StoreBench.Sync
