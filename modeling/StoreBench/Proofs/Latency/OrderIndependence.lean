import StoreBench.Latency.Recorders
import StoreBench.Proofs.Latency.Exactness
import StoreBench.Proofs.Latency.Histories

/-!
Contract: the order in which calls come leaves no trace in a meter.

A meter is a function of what its history leaves behind: the latencies of each slot since the
last fresh start, whatever their order, the number of its warm-up calls since then, and the
latest expected number of warm-up calls.  Threads that share a meter therefore always leave it
the same, also where the atomic steps of their reports interleave: what a report under way has
done so far and what it still has to do amount to the whole report.

Owns:
- `Aggregate.Commutes`, which both ways of condensing latencies satisfy;
- `SameCalls`, two histories that leave the same calls behind, and that their meters are equal;
- `RecordingState.Recorded`, the invariant of threads with calls of their own that share a meter,
  and the meter that all their runs end with.

Does not own: what a reader sees while reports are on their way.
-/

namespace StoreBench.Latency

/-! ## Latencies commute -/

instance commutativeMax : Std.Commutative (max : UInt64 → UInt64 → UInt64) where
  comm left right := by
    have bounded (first second : UInt64) : max first second ≤ max second first :=
      (Std.LawfulOrderSup.max_le_iff first second _).2 ⟨Std.right_le_max, Std.left_le_max⟩
    exact UInt64.le_antisymm (bounded left right) (bounded right left)

theorem min_of_le {left right : UInt64} (ordered : left ≤ right) : min left right = left :=
  Std.LawfulOrderLeftLeaningMin.min_eq_left left right ordered

theorem max_of_le {left right : UInt64} (ordered : right ≤ left) : max left right = left := by
  apply UInt64.le_antisymm
  · exact (Std.LawfulOrderSup.max_le_iff ..).2 ⟨UInt64.le_refl _, ordered⟩
  · exact Std.left_le_max

namespace Summary

/-- Two summaries in one. -/
def merge (summary other : Summary) : Summary where
  count := summary.count + other.count
  total := summary.total + other.total
  least := min summary.least other.least
  greatest := max summary.greatest other.greatest

/-- The summary of a single latency. -/
def single (latency : UInt64) : Summary := ⟨1, latency, latency, latency⟩

theorem merge_single (summary : Summary) (latency : UInt64) :
    summary.merge (single latency) = summary.record latency := rfl

theorem merge_empty (summary : Summary) : summary.merge empty = summary := by
  obtain ⟨count, total, least, greatest⟩ := summary
  simp only [merge, empty, Nat.add_zero, UInt64.add_zero, min_of_le (le_noLeast _),
    max_of_le UInt64.zero_le]

theorem merge_right_comm (summary first second : Summary) :
    (summary.merge first).merge second = (summary.merge second).merge first := by
  simp only [merge, mk.injEq]
  exact ⟨by ac_rfl, by ac_rfl, by ac_rfl, by ac_rfl⟩

theorem record_comm (first second : UInt64) (summary : Summary) :
    (summary.record first).record second = (summary.record second).record first := by
  simp only [← merge_single]
  exact merge_right_comm ..

end Summary

/-- It does not matter which of two latencies is taken in first. -/
class Aggregate.Commutes (α : Type) [Aggregate α] : Prop where
  record_comm : ∀ (first second : UInt64) (cell : α),
    Aggregate.record second (Aggregate.record first cell) =
      Aggregate.record first (Aggregate.record second cell)

instance : Aggregate.Commutes Summary := ⟨Summary.record_comm⟩

namespace Distribution

theorem countIn_comm (first second : Nat) (classes : List (Nat × Nat)) :
    countIn second (countIn first classes) = countIn first (countIn second classes) := by
  induction classes with
  | nil => grind [countIn]
  | cons entry rest inductionHypothesis =>
    -- where the two classes come to stand, seen from the first class that is listed
    obtain ⟨lowest, count⟩ := entry
    grind [countIn]

theorem record_comm (first second : UInt64) (distribution : Distribution) :
    (distribution.record first).record second = (distribution.record second).record first := by
  simp only [record, mk.injEq]
  exact ⟨countIn_comm .., by ac_rfl, by ac_rfl⟩

end Distribution

instance : Aggregate.Commutes Distribution := ⟨Distribution.record_comm⟩

instance (strategy : Strategy) : Aggregate.Commutes strategy.Cell :=
  match strategy with
  | .basic => inferInstanceAs (Aggregate.Commutes Summary)
  | .histogram => inferInstanceAs (Aggregate.Commutes Distribution)

theorem Aggregate.condense_eq_of_perm {α : Type} [Aggregate α] [Commutes α]
    {first second : List UInt64} (same : first.Perm second) :
    (condense first : α) = condense second :=
  same.foldl_eq' (fun left _ right _ cell => Commutes.record_comm left right cell) _

/-! ## Histories that leave the same calls behind -/

/-- The number of warm-up calls of a slot since the last fresh start. -/
def warmupCalls (slot : Slot) (events : List Event) : Nat :=
  (sinceReset events).count (.warmup slot)

/-- Two histories leave the same calls behind: of each slot the same latencies, in whatever order,
and as many warm-up calls, and the same expected number of warm-up calls. -/
structure SameCalls (first second : List Event) : Prop where
  target : lastTarget first = lastTarget second
  reported : ∀ slot, (reported slot first).Perm (reported slot second)
  warmups : ∀ slot, warmupCalls slot first = warmupCalls slot second

/-- A measured call or a warm-up call. -/
def Event.IsCall : Event → Prop
  | .measured _ _ | .warmup _ => True
  | .target _ | .reset => False

theorem sinceReset_append {calls : List Event} (only : ∀ event ∈ calls, event.IsCall)
    (before : List Event) : sinceReset (before ++ calls) = sinceReset before ++ calls := by
  induction calls using List.reverseRecOn with
  | nil => rw [List.append_nil, List.append_nil]
  | append_singleton calls event inductionHypothesis =>
    have continues : event ≠ .reset := by
      rintro rfl
      exact only .reset (List.mem_append_right _ (List.mem_singleton_self _))
    rw [← List.append_assoc, sinceReset_concat continues,
      inductionHypothesis fun other inside => only other (List.mem_append_left _ inside),
      List.append_assoc]

theorem lastTarget_append {calls : List Event} (only : ∀ event ∈ calls, event.IsCall)
    (before : List Event) : lastTarget (before ++ calls) = lastTarget before := by
  induction calls using List.reverseRecOn with
  | nil => rw [List.append_nil]
  | append_singleton calls event inductionHypothesis =>
    have silent : event.target? = none := by
      have call := only event (List.mem_append_right _ (List.mem_singleton_self _))
      cases event with
      | measured | warmup => rfl
      | target | reset => cases call
    rw [← List.append_assoc, lastTarget_concat, silent, Option.getD_none]
    exact inductionHypothesis fun other inside => only other (List.mem_append_left _ inside)

theorem sameCalls_of_perm {first second : List Event} (same : first.Perm second)
    (only : ∀ event ∈ first, event.IsCall) (before : List Event) :
    SameCalls (before ++ first) (before ++ second) := by
  have onlySecond : ∀ event ∈ second, event.IsCall :=
    fun event inside => only event (same.mem_iff.2 inside)
  constructor
  · rw [lastTarget_append only, lastTarget_append onlySecond]
  · intro slot
    rw [reported, reported, sinceReset_append only, sinceReset_append onlySecond]
    exact (same.append_left _).filterMap _
  · intro slot
    rw [warmupCalls, warmupCalls, sinceReset_append only, sinceReset_append onlySecond]
    exact (same.append_left _).count_eq _

theorem PerSlot.ext {α : Type} {left right : PerSlot α}
    (same : ∀ slot, left.get slot = right.get slot) : left = right := by
  apply Vector.ext
  intro index inside
  have named : ∀ index < 10, ∃ slot ∈ Slot.all, slot.index = index := by decide
  obtain ⟨slot, _, rfl⟩ := named index inside
  exact same slot

/-- Changes that commute may be made in either order, at whatever slots. -/
theorem PerSlot.modify_comm {α : Type} (table : PerSlot α) (first second : Slot)
    {change other : α → α} (commute : ∀ value, other (change value) = change (other value)) :
    (table.modify first change).modify second other =
      (table.modify second other).modify first change := by
  apply PerSlot.ext
  intro slot
  simp only [get_modify]
  by_cases same : first = second
  · subst same
    by_cases here : slot = first
    · simp only [here, if_true, commute]
    · simp only [here, if_false]
  · by_cases here : slot = first
    · simp only [here, same, Ne.symm same, if_true, if_false]
    · simp only [here, Ne.symm same, if_false]

theorem PerSlot.modify_modify {α : Type} (table : PerSlot α) (slot : Slot)
    {change other both : α → α}
    (same : other (change (table.get slot)) = both (table.get slot)) :
    (table.modify slot change).modify slot other = table.modify slot both := by
  apply PerSlot.ext
  intro each
  simp only [get_modify]
  by_cases here : each = slot
  · simp only [here, if_true, same]
  · simp only [here, if_false]

namespace Meter

variable {α : Type} [Aggregate α]

theorem get_warmups_applyAll (slot : Slot) (events : List Event) :
    ((empty : Meter α).applyAll events).warmups.get slot = warmupCalls slot events := by
  induction events using List.reverseRecOn with
  | nil => exact PerSlot.get_replicate ..
  | append_singleton events event inductionHypothesis =>
    rw [applyAll_concat, warmupCalls]
    cases event with
    | warmup filed =>
      rw [sinceReset_concat (by nofun), List.count_append, List.count_singleton]
      show (PerSlot.modify _ filed _).get slot = _
      rw [PerSlot.get_modify]
      by_cases here : slot = filed
      · subst here
        rw [if_pos rfl, beq_self_eq_true, if_pos rfl]
        exact congrArg (· + 1) inductionHypothesis
      · rw [if_neg here, if_neg (by simpa using Ne.symm here), Nat.add_zero]
        exact inductionHypothesis
    | measured | target =>
      rw [sinceReset_concat (by nofun), List.count_append, List.count_singleton]
      exact inductionHypothesis
    | reset =>
      rw [sinceReset_concat_reset]
      exact PerSlot.get_replicate ..

omit [Aggregate α] in
theorem ext {left right : Meter α} (cells : ∀ slot, left.cells.get slot = right.cells.get slot)
    (warmups : ∀ slot, left.warmups.get slot = right.warmups.get slot)
    (target : left.target = right.target) : left = right := by
  obtain ⟨leftCells, leftWarmups, leftTarget⟩ := left
  obtain ⟨rightCells, rightWarmups, rightTarget⟩ := right
  rw [mk.injEq]
  exact ⟨PerSlot.ext cells, PerSlot.ext warmups, target⟩

/-- Histories that leave the same calls behind leave the same meter. -/
theorem applyAll_eq_of_sameCalls [Aggregate.Commutes α] {first second : List Event}
    (same : SameCalls first second) :
    (empty : Meter α).applyAll first = empty.applyAll second := by
  apply ext
  · intro slot
    rw [get_cells_applyAll, get_cells_applyAll]
    exact Aggregate.condense_eq_of_perm (same.reported slot)
  · intro slot
    rw [get_warmups_applyAll, get_warmups_applyAll, same.warmups]
  · rw [target_applyAll, target_applyAll, same.target]

section
variable [Aggregate.Commutes α]

theorem apply_comm {first second : Event} (firstCall : first.IsCall) (secondCall : second.IsCall)
    (meter : Meter α) : (meter.apply first).apply second = (meter.apply second).apply first := by
  cases first with
  | measured slot latency =>
    cases second with
    | measured other later =>
      exact congrArg (fun cells => { meter with cells })
        (PerSlot.modify_comm meter.cells slot other (Aggregate.Commutes.record_comm latency later))
    | warmup other => rfl
    | target | reset => cases secondCall
  | warmup slot =>
    cases second with
    | measured other later => rfl
    | warmup other =>
      exact congrArg (fun warmups => { meter with warmups })
        (PerSlot.modify_comm meter.warmups slot other fun _ => rfl)
    | target | reset => cases secondCall
  | target | reset => cases firstCall

/-- The same calls in another order, behind any other calls. -/
theorem applyAll_eq_of_perm {first second : List Event} (same : first.Perm second)
    (calls : ∀ event ∈ first, event.IsCall) (meter : Meter α) :
    meter.applyAll first = meter.applyAll second :=
  same.foldl_eq' (fun left inLeft right inRight meter =>
    apply_comm (calls left inLeft) (calls right inRight) meter) meter

end

end Meter

/-! ## Reports under way -/

namespace Report

variable {report : Report} {before after : Summary} {stage : ReportStage}

/-- What the report has still to add to the cell of its slot. -/
def due (report : Report) : Summary :=
  match report.stage with
  | .counting => .single report.latency
  | .summing => ⟨0, report.latency, report.latency, report.latency⟩
  | .readingLeast | .lowering _ => ⟨0, 0, report.latency, report.latency⟩
  | .readingGreatest | .raising _ => ⟨0, 0, noLeast, report.latency⟩
  | .done => .empty

/-- What a step adds to the cell is no longer due. -/
theorem merge_due_of_advance? {spurious : Bool} (within : report.Within before)
    (steps : report.advance? spurious before = some (after, stage)) :
    after.merge { report with stage }.due = before.merge report.due := by
  obtain ⟨slot, latency, place⟩ := report
  cases place with
  | counting =>
    cases steps
    rfl
  | summing =>
    cases steps
    simp only [due, Summary.merge, UInt64.add_zero]
  | readingLeast =>
    cases steps
    rfl
  | lowering seen =>
    simp only [advance?] at steps
    split at steps
    · next less =>
      split at steps
      · next exchanged =>
        cases steps
        have lowered : latency ≤ before.least := by
          rw [exchanged.1]
          exact UInt64.le_of_lt less
        simp only [due, Summary.merge, min_of_le (le_noLeast latency),
          Std.Commutative.comm before.least latency, min_of_le lowered]
      · cases steps
        rfl
    · next noLess =>
      cases steps
      have reached : before.least ≤ latency :=
        UInt64.le_trans within (UInt64.not_lt.1 noLess)
      simp only [due, Summary.merge, min_of_le (le_noLeast before.least), min_of_le reached]
  | readingGreatest =>
    cases steps
    rfl
  | raising seen =>
    simp only [advance?] at steps
    split at steps
    · next less =>
      split at steps
      · next exchanged =>
        cases steps
        have raised : before.greatest ≤ latency := by
          rw [exchanged.1]
          exact UInt64.le_of_lt less
        have least := min_of_le (le_noLeast before.least)
        simp only [due, Summary.merge_empty]
        simp only [Summary.merge, Nat.add_zero, UInt64.add_zero, least,
          Std.Commutative.comm before.greatest latency, max_of_le raised]
      · cases steps
        rfl
    · next noLess =>
      cases steps
      have reached : latency ≤ before.greatest :=
        UInt64.le_trans (UInt64.not_lt.1 noLess) within.2
      have least := min_of_le (le_noLeast before.least)
      simp only [due, Summary.merge_empty]
      simp only [Summary.merge, Nat.add_zero, UInt64.add_zero, least, max_of_le reached]
  | done => cases steps

end Report

/-! ## Steps of threads -/

namespace Strategy

variable {strategy : Strategy} {meter after : Meter strategy.Cell} {event : Event}
  {report : Report} {current : Option Report}

/-- The meter in which a report under way has made all its steps. -/
def finish : (strategy : Strategy) → Meter strategy.Cell → Report → Meter strategy.Cell
  | .basic, meter, report =>
    let meter : Meter Summary := meter
    { meter with cells := meter.cells.modify report.slot (·.merge report.due) }
  | .histogram, meter, _ => meter

/-- The extremes of its slot have reached what a report under way has seen of them.  No report
to a histogram is ever under way. -/
def Bounds : (strategy : Strategy) → Meter strategy.Cell → Report → Prop
  | .basic, meter, report =>
    let meter : Meter Summary := meter
    report.Within (meter.cells.get report.slot)
  | .histogram, _, _ => False

theorem finish_right_comm (meter : Meter strategy.Cell) (first second : Report) :
    strategy.finish (strategy.finish meter first) second =
      strategy.finish (strategy.finish meter second) first := by
  cases strategy with
  | basic =>
    simp only [finish, Meter.mk.injEq, and_true]
    exact PerSlot.modify_comm _ _ _ fun cell => Summary.merge_right_comm cell _ _
  | histogram => rfl

/-- Some of the reports under way may be finished first. -/
theorem finish_around (meter : Meter strategy.Cell) (front middle rear : List Report) :
    (front ++ (middle ++ rear)).foldl strategy.finish meter =
      (front ++ rear).foldl strategy.finish (middle.foldl strategy.finish meter) := by
  have first : (front ++ (middle ++ rear)).Perm (middle ++ (front ++ rear)) :=
    List.perm_append_comm_assoc ..
  rw [first.foldl_eq' (fun left _ right _ meter => finish_right_comm meter left right),
    List.foldl_append]

/-- A call may be taken in before the reports under way are finished. -/
theorem apply_finishAll (call : event.IsCall) (meter : Meter strategy.Cell)
    (reports : List Report) :
    (reports.foldl strategy.finish meter).apply event =
      reports.foldl strategy.finish (meter.apply event) := by
  refine (List.foldl_hom (Meter.apply · event) fun meter report => ?_).symm
  cases strategy with
  | histogram => rfl
  | basic =>
    cases event with
    | measured slot latency =>
      simp only [Meter.apply, Meter.record, finish, Meter.mk.injEq, and_true]
      exact PerSlot.modify_comm _ _ _ fun cell =>
        Summary.merge_right_comm cell (.single latency) _
    | warmup slot => rfl
    | target | reset => cases call

/-- A call that begins amounts to the whole call once the report it leaves is finished. -/
theorem finish_commence (call : event.IsCall) (meter : Meter strategy.Cell) :
    (strategy.commence event meter).2.toList.foldl strategy.finish
      (strategy.commence event meter).1 = meter.apply event := by
  cases strategy with
  | histogram => rfl
  | basic =>
    cases event with
    | measured | warmup => rfl
    | target | reset => cases call

theorem bounds_commence (call : event.IsCall) (meter : Meter strategy.Cell) :
    (∀ report ∈ (strategy.commence event meter).2.toList,
      strategy.Bounds (strategy.commence event meter).1 report) ∧
    ∀ report, strategy.Bounds meter report →
      strategy.Bounds (strategy.commence event meter).1 report := by
  cases strategy with
  | histogram => exact ⟨nofun, fun _ => id⟩
  | basic =>
    cases event with
    | measured slot latency =>
      refine ⟨fun report inside => ?_, fun _ => id⟩
      cases List.mem_singleton.1 inside
      trivial
    | warmup slot => exact ⟨nofun, fun _ => id⟩
    | target | reset => cases call

/-- What a report has done in a step, it need not do to be finished. -/
theorem finish_resume {spurious : Bool} (bounds : strategy.Bounds meter report)
    (resumes : strategy.resume spurious report meter = some (after, current)) :
    current.toList.foldl strategy.finish after = strategy.finish meter report := by
  cases strategy with
  | histogram => cases bounds
  | basic =>
    obtain ⟨⟨cell, stage⟩, steps, same⟩ := Option.map_eq_some_iff.1 resumes
    cases same
    have due := Report.merge_due_of_advance? bounds steps
    split
    · next ended =>
      subst ended
      have whole : cell = (meter.cells.get report.slot).merge report.due :=
        (Summary.merge_empty cell).symm.trans due
      simp only [Option.toList_none, List.foldl_nil, finish, Meter.mk.injEq, and_true]
      exact congrArg (meter.cells.set report.slot.index · report.slot.index_lt) whole
    · simp only [Option.toList_some, List.foldl_cons, List.foldl_nil, finish, Meter.mk.injEq,
        and_true]
      exact PerSlot.modify_modify _ _ due

theorem bounds_resume {spurious : Bool} (bounds : strategy.Bounds meter report)
    (resumes : strategy.resume spurious report meter = some (after, current)) :
    (∀ report ∈ current.toList, strategy.Bounds after report) ∧
      ∀ report, strategy.Bounds meter report → strategy.Bounds after report := by
  cases strategy with
  | histogram => cases bounds
  | basic =>
    obtain ⟨⟨cell, stage⟩, steps, same⟩ := Option.map_eq_some_iff.1 resumes
    cases same
    have progress := Report.progress_of_advance? steps
    constructor
    · intro left inside
      split at inside
      · cases inside
      · cases List.mem_singleton.1 inside
        show Report.Within _ (PerSlot.get (PerSlot.modify ..) _)
        rw [PerSlot.get_modify, if_pos rfl]
        exact progress.within bounds
    · intro other within
      show Report.Within _ (PerSlot.get (PerSlot.modify ..) _)
      rw [PerSlot.get_modify]
      split
      · next here =>
        have seen : other.Within (meter.cells.get report.slot) := here ▸ within
        exact seen.mono progress.least_le progress.le_greatest
      · exact within

end Strategy

/-! ## Threads that share a meter -/

namespace RecordingState

variable {strategy : Strategy} {before : List Event} {threads : List (List Event)}
  {state after : RecordingState strategy}

/-- The reports under way. -/
def reports (state : RecordingState strategy) : List Report :=
  state.recorders.flatMap (·.current.toList)

/-- The calls that no thread has begun. -/
def later (state : RecordingState strategy) : List Event := state.recorders.flatMap (·.later)

theorem reports_around (meter : Meter strategy.Cell) (front rear : List Recorder)
    (recorder : Recorder) :
    (⟨meter, front ++ recorder :: rear⟩ : RecordingState strategy).reports =
      front.flatMap (·.current.toList) ++
        (recorder.current.toList ++ rear.flatMap (·.current.toList)) := by
  rw [reports, List.flatMap_append, List.flatMap_cons]

theorem later_around (meter : Meter strategy.Cell) (front rear : List Recorder)
    (recorder : Recorder) :
    (⟨meter, front ++ recorder :: rear⟩ : RecordingState strategy).later =
      front.flatMap (·.later) ++ (recorder.later ++ rear.flatMap (·.later)) := by
  rw [later, List.flatMap_append, List.flatMap_cons]

/-- With all reports under way finished, the meter is the one after the calls begun so far. -/
structure Recorded (before : List Event) (threads : List (List Event))
    (state : RecordingState strategy) : Prop where
  bounds : ∀ report ∈ state.reports, strategy.Bounds state.meter report
  amounts : ∃ begun, (begun ++ state.later).Perm threads.flatten ∧
    state.reports.foldl strategy.finish state.meter = Meter.empty.applyAll (before ++ begun)

theorem recorded_opening (before : List Event) (threads : List (List Event)) :
    Recorded before threads
      (opening (Meter.empty.applyAll before : Meter strategy.Cell) threads) := by
  have idle :
      (opening (Meter.empty.applyAll before : Meter strategy.Cell) threads).reports = [] := by
    simp [opening, reports, List.flatMap_map]
  have unbegun :
      (opening (Meter.empty.applyAll before : Meter strategy.Cell) threads).later =
        threads.flatten := by
    simp [opening, later, List.flatMap_map, List.flatMap_id']
  constructor
  · rw [idle]
    nofun
  · refine ⟨[], ?_, ?_⟩
    · rw [unbegun, List.nil_append]
    · rw [idle, List.append_nil]
      rfl

/-- What holds of the reports under way holds of those of the others and of what is new. -/
theorem bounds_around {meter next : Meter strategy.Cell} {front middle rear new : List Report}
    (bounds : ∀ report ∈ front ++ (middle ++ rear), strategy.Bounds meter report)
    (own : ∀ report ∈ new, strategy.Bounds next report)
    (others : ∀ report, strategy.Bounds meter report → strategy.Bounds next report) :
    ∀ report ∈ front ++ (new ++ rear), strategy.Bounds next report := by
  intro report inside
  simp only [List.mem_append] at inside bounds
  rcases inside with inFront | isNew | inRear
  · exact others report (bounds report (.inl inFront))
  · exact own report isNew
  · exact others report (bounds report (.inr (.inr inRear)))

/-- A thread goes on with a report or begins its next call. -/
theorem Recorded.step {move : RecordingMove} (recorded : Recorded before threads state)
    (only : ∀ event ∈ threads.flatten, event.IsCall) (fires : state.step move = some after) :
    Recorded before threads after := by
  obtain ⟨bounds, begun, rest, amounts⟩ := recorded
  obtain ⟨meter, recorders⟩ := state
  simp only [RecordingState.step] at fires
  split at fires
  · next report later found =>
    obtain ⟨⟨next, current⟩, resumes, same⟩ := Option.map_eq_some_iff.1 fires
    cases same
    obtain ⟨front, rear, rfl, replaced⟩ := exists_split found
    rw [reports_around] at bounds amounts
    rw [later_around] at rest
    have bounded := bounds report (by simp)
    obtain ⟨own, others⟩ := Strategy.bounds_resume bounded resumes
    rw [replaced]
    refine ⟨?_, begun, ?_, ?_⟩
    · rw [reports_around]
      exact bounds_around bounds own others
    · rw [later_around]
      exact rest
    · rw [reports_around, Strategy.finish_around, Strategy.finish_resume bounded resumes,
        ← amounts, Strategy.finish_around]
      rfl
  · next event later found =>
    cases fires
    obtain ⟨front, rear, rfl, replaced⟩ := exists_split found
    rw [reports_around] at bounds amounts
    rw [later_around] at rest
    have call : event.IsCall := only event (rest.subset (by simp))
    obtain ⟨own, others⟩ := Strategy.bounds_commence call meter
    rw [replaced]
    refine ⟨?_, begun ++ [event], ?_, ?_⟩
    · rw [reports_around]
      exact bounds_around bounds own others
    · rw [later_around]
      refine List.Perm.trans ?_ rest
      rw [List.append_assoc]
      exact (List.perm_append_comm_assoc [event] _ _).append_left begun
    · rw [reports_around, Strategy.finish_around]
      show (front.flatMap _ ++ rear.flatMap _).foldl strategy.finish
        ((strategy.commence event meter).2.toList.foldl strategy.finish
          (strategy.commence event meter).1) = _
      rw [Strategy.finish_commence call, ← Strategy.apply_finishAll call,
        ← List.append_assoc before, Meter.applyAll_concat, ← amounts]
      rfl
  · cases fires

theorem Recorded.of_reaches (only : ∀ event ∈ threads.flatten, event.IsCall)
    (path : Reaches RecordingState.step (opening (Meter.empty.applyAll before) threads) state) :
    Recorded before threads state :=
  path.invariant (recorded_opening before threads) fun _ _ _ recorded fires =>
    recorded.step only fires

/-- Once every thread has made all its calls, the meter is the one after these calls one after the
other. -/
theorem Recorded.meter_eq (recorded : Recorded before threads state)
    (only : ∀ event ∈ threads.flatten, event.IsCall) (quiet : state.isQuiet = true) :
    state.meter = Meter.empty.applyAll (before ++ threads.flatten) := by
  obtain ⟨-, begun, rest, amounts⟩ := recorded
  have done : ∀ recorder ∈ state.recorders, recorder.current = none ∧ recorder.later = [] := by
    simpa [isQuiet] using quiet
  have idle : state.reports = [] :=
    List.flatMap_eq_nil_iff.2 fun recorder inside => by rw [(done recorder inside).1]; rfl
  have nothing : state.later = [] :=
    List.flatMap_eq_nil_iff.2 fun recorder inside => (done recorder inside).2
  rw [nothing, List.append_nil] at rest
  rw [idle, List.foldl_nil] at amounts
  rw [amounts]
  apply Meter.applyAll_eq_of_sameCalls
  exact sameCalls_of_perm rest (fun event inside => only event (rest.mem_iff.1 inside)) before

end RecordingState

/-! ## Observations -/

/-- The latency of a slot at a percentile, for the way of condensing that keeps percentiles. -/
def Strategy.percentile? : (strategy : Strategy) → Meter strategy.Cell → Slot → Float →
    Option UInt64
  | .basic, _, _, _ => none
  | .histogram, meter, slot, percentile =>
    let meter : Meter Distribution := meter
    (meter.cells.get slot).valueAtPercentile? percentile

/-- No question tells the two meters apart. -/
structure Meter.Alike {strategy : Strategy} (left right : Meter strategy.Cell) : Prop where
  statusText : left.statusText = right.statusText
  snapshot : ∀ slot, left.snapshot? slot = right.snapshot? slot
  percentile : ∀ slot percentile,
    strategy.percentile? left slot percentile = strategy.percentile? right slot percentile

theorem Meter.alike_of_eq {strategy : Strategy} {left right : Meter strategy.Cell}
    (same : left = right) : left.Alike right := by
  subst same
  exact ⟨rfl, fun _ => rfl, fun _ _ => rfl⟩

/-- **The order of calls leaves no trace.**  With either way of condensing latencies, two
histories that leave the same calls behind since their last fresh starts, in whatever order, and
the same expected number of warm-up calls, lead to meters that answer every question alike.  In
particular threads that make given calls at the same time, after any history, always lead to the
same answers, those of all their calls one after the other: whatever the order of their steps, where
a report without a lock goes on in atomic steps. -/
theorem answers_forget_order (strategy : Strategy) :
    (∀ first second, SameCalls first second →
      (Meter.empty.applyAll first : Meter strategy.Cell).Alike (Meter.empty.applyAll second)) ∧
    ∀ before threads, (∀ event ∈ threads.flatten, event.IsCall) →
      ∀ state, Reaches RecordingState.step
          (RecordingState.opening (Meter.empty.applyAll before : Meter strategy.Cell) threads)
          state →
        state.isQuiet = true →
        state.meter.Alike (Meter.empty.applyAll (before ++ threads.flatten)) := by
  constructor
  · intro first second same
    exact Meter.alike_of_eq (Meter.applyAll_eq_of_sameCalls same)
  · intro before threads only state path quiet
    have recorded := RecordingState.Recorded.of_reaches only path
    exact Meter.alike_of_eq (recorded.meter_eq only quiet)

/-- A history with a fresh start in it and one without; and two threads of which the second fails
to exchange the least latency, because the first was faster and once more for no reason. -/
theorem answers_forget_order_across_reset :
    let read : Slot := ⟨.read, false⟩
    let first : List Event := [.measured read 7, .target 5, .warmup read, .reset, .measured read 9,
      .warmup read, .measured read 4096]
    let second : List Event := [.warmup read, .measured read 4096, .target 5, .measured read 9]
    let threads : List (List Event) := [[.measured read 5], [.warmup read, .measured read 3]]
    let moves : List RecordingMove :=
      [0, 0, 0, 0, 1, 1, 1, 1, 1, 0, 1].map (⟨·, false⟩) ++ [⟨1, true⟩] ++
        [1, 1, 1, 0, 0].map (⟨·, false⟩)
    (SameCalls first second ∧
      (Meter.empty.applyAll first : Meter Strategy.histogram.Cell).Alike
        (Meter.empty.applyAll second)) ∧
    (∀ event ∈ threads.flatten, event.IsCall) ∧
    ∃ state : RecordingState .basic,
      follow RecordingState.step moves
        (RecordingState.opening (Meter.empty.applyAll first) threads) = some state ∧
      state.isQuiet = true ∧
      state.meter.Alike (Meter.empty.applyAll (first ++ threads.flatten)) := by
  intro read first second threads moves
  have same : SameCalls first second := by
    constructor
    · decide
    · rintro ⟨operation, failed⟩
      cases operation <;> cases failed <;> decide
    · rintro ⟨operation, failed⟩
      cases operation <;> cases failed <;> decide
  have only : ∀ event ∈ threads.flatten, event.IsCall := by
    simp [threads, Event.IsCall]
  have quiet : (follow RecordingState.step moves (RecordingState.opening
      (Meter.empty.applyAll first : Meter Strategy.basic.Cell) threads)).any
        RecordingState.isQuiet = true := by
    decide +kernel
  obtain ⟨state, followed, ended⟩ := (Option.any_eq_true _ _).1 quiet
  refine ⟨⟨same, (answers_forget_order .histogram).1 first second same⟩, only, state, followed,
    ended, ?_⟩
  exact (answers_forget_order .basic).2 first threads only state (reaches_of_follow followed) ended

end StoreBench.Latency
