import StoreBench.Proofs.Latency.Exactness

/-!
Contract: what a reader sees of the extremes of a slot while reports into it are on their way.

A report is counted in its first step and raises the greatest latency in its last one.  In between
the slot may be counted as used although its extremes are still those of no latency, or only the
least one has been lowered; so the extremes are the wrong way round.  That is over with the first
report that ends.

Owns:
- `ReportState.HasEnded`, which tells when the extremes of a slot can be relied on;
- the order of the extremes in every state, and of those in a snapshot.

Does not own: the extremes once all reports have ended, which are in `Proofs.Latency.Exactness`.
-/

namespace StoreBench.Latency

/-- A step that raises the greatest latency is the last one of its report. -/
theorem Report.greatest_eq_or_done {report : Report} {spurious : Bool} {before after : Summary}
    {stage : ReportStage} (steps : report.advance? spurious before = some (after, stage)) :
    after.greatest = before.greatest ∨ stage = .done := by
  obtain ⟨slot, latency, place⟩ := report
  cases place with
  | lowering seen =>
    simp only [advance?] at steps
    split at steps
    · split at steps
      · cases steps
        exact .inl rfl
      · cases steps
        exact .inl rfl
    · cases steps
      exact .inl rfl
  | raising seen =>
    simp only [advance?] at steps
    split at steps
    · split at steps
      · cases steps
        exact .inr rfl
      · cases steps
        exact .inl rfl
    · cases steps
      exact .inl rfl
  | done => cases steps
  | _ =>
    cases steps
    exact .inl rfl

namespace ReportState

/-- Some report into the slot has ended. -/
def HasEnded (slot : Slot) (state : ReportState) : Prop :=
  ∃ report ∈ state.reports, report.slot = slot ∧ report.stage = .done

variable {calls : List (Slot × UInt64)} {slot : Slot} {state before after : ReportState}

/-- A report that has ended makes no more steps. -/
theorem HasEnded.step {move : ReportMove} (ended : before.HasEnded slot)
    (fires : before.step move = some after) : after.HasEnded slot := by
  obtain ⟨mover, stage, found, steps, reports, _⟩ := advance_of_step fires
  obtain ⟨report, member, into, done⟩ := ended
  obtain ⟨index, stands⟩ := List.getElem?_of_mem member
  have apart : move.report ≠ index := by
    rintro same
    rw [← same, found] at stands
    cases stands
    rw [Report.advance?, done] at steps
    cases steps
  refine ⟨report, ?_, into, done⟩
  rw [reports]
  apply List.mem_of_getElem?
  rw [List.getElem?_set_ne apart]
  exact stands

theorem greatest_step {move : ReportMove}
    (holds : (before.cells.get slot).greatest = 0 ∨ before.HasEnded slot)
    (fires : before.step move = some after) :
    (after.cells.get slot).greatest = 0 ∨ after.HasEnded slot := by
  rcases holds with zero | ended
  · obtain ⟨mover, stage, found, steps, reports, others⟩ := advance_of_step fires
    by_cases into : slot = mover.slot
    · rcases Report.greatest_eq_or_done steps with same | done
      · exact .inl (by rw [into, same, ← into, zero])
      · refine .inr ⟨{ mover with stage }, ?_, into.symm, done⟩
        rw [reports]
        exact List.mem_set (List.getElem?_eq_some_iff.1 found).1 _
    · exact .inl (by rw [others slot into, zero])
  · exact .inr (ended.step fires)

/-- The greatest latency is raised by the first report that ends, and not before. -/
theorem greatest_of_reaches
    (path : Reaches step (opening (Meter.empty : Meter Summary).cells calls) state)
    (slot : Slot) : (state.cells.get slot).greatest = 0 ∨ state.HasEnded slot := by
  have fresh : (opening (Meter.empty : Meter Summary).cells calls).cells.get slot =
      Summary.empty := PerSlot.get_replicate _ _
  have atStart : ((opening (Meter.empty : Meter Summary).cells calls).cells.get slot).greatest = 0 ∨
      (opening (Meter.empty : Meter Summary).cells calls).HasEnded slot :=
    .inl (congrArg Summary.greatest fresh)
  exact path.invariant atStart fun _ _ _ holds fires => greatest_step holds fires

theorem Accounted.count_pos (accounted : Accounted calls slot state)
    (ended : state.HasEnded slot) : 0 < (state.cells.get slot).count := by
  obtain ⟨report, member, into, done⟩ := ended
  have one : share slot Report.counted report = 1 := by
    rw [share, if_pos into, Report.counted, done]
  have part : share slot Report.counted report ≤
      StoreBench.total (state.reports.map (share slot Report.counted)) := le_total_map member
  rw [accounted.count]
  omega

theorem Accounted.least_le_greatest (accounted : Accounted calls slot state)
    (ended : state.HasEnded slot) :
    (state.cells.get slot).least ≤ (state.cells.get slot).greatest := by
  obtain ⟨report, member, into, done⟩ := ended
  have within := accounted.within report member into
  rw [Report.Within, done] at within
  exact UInt64.le_trans within.1 within.2

/-- The extremes are in order once a report has ended; until then only if the least is zero. -/
theorem least_le_greatest_iff
    (path : Reaches step (opening (Meter.empty : Meter Summary).cells calls) state)
    (slot : Slot) :
    (state.cells.get slot).least ≤ (state.cells.get slot).greatest ↔
      state.HasEnded slot ∨ (state.cells.get slot).least = 0 := by
  constructor
  · intro ordered
    rcases greatest_of_reaches path slot with zero | ended
    · rw [zero] at ordered
      exact .inr (UInt64.le_zero_iff.1 ordered)
    · exact .inl ended
  · rintro (ended | zero)
    · exact (accounted_of_reaches path slot).least_le_greatest ended
    · rw [zero]
      exact UInt64.zero_le

end ReportState

/-- A snapshot shows the extremes of its slot as they stand. -/
theorem Meter.extremes_of_snapshot? {meter : Meter Summary} {slot : Slot} {snapshot : Snapshot}
    (shown : meter.snapshot? slot = some snapshot) :
    snapshot.least = (meter.cells.get slot).least ∧
      snapshot.greatest = (meter.cells.get slot).greatest := by
  unfold Meter.snapshot? at shown
  dsimp only at shown
  split at shown
  · cases shown
  · cases shown
    exact ⟨rfl, rfl⟩

/-- **When the extremes can be relied on.**  Whatever reports run at the same time into a fresh
meter, and wherever each of them stands: once one of the reports into a slot has ended, the slot is
counted as used and its least latency is not above the greatest.  As long as none has, the greatest
is still zero, and the two are in order only if the least is zero as well, however many reports are
counted already.  A snapshot that is taken at that moment shows the same. -/
theorem extremes_ordered_iff_ended (calls : List (Slot × UInt64)) (state : ReportState)
    (path : Reaches ReportState.step
      (ReportState.opening (Meter.empty : Meter Summary).cells calls) state) (slot : Slot) :
    let cell := state.cells.get slot
    (state.HasEnded slot → 0 < cell.count) ∧
    (¬ state.HasEnded slot → cell.greatest = 0) ∧
    (cell.least ≤ cell.greatest ↔ state.HasEnded slot ∨ cell.least = 0) ∧
    ∀ (meter : Meter Summary) (snapshot : Snapshot), meter.cells = state.cells →
      meter.snapshot? slot = some snapshot →
      (snapshot.least ≤ snapshot.greatest ↔ state.HasEnded slot ∨ snapshot.least = 0) := by
  have ordered := ReportState.least_le_greatest_iff path slot
  refine ⟨(ReportState.accounted_of_reaches path slot).count_pos,
    (ReportState.greatest_of_reaches path slot).resolve_right, ordered, ?_⟩
  intro meter snapshot same shown
  obtain ⟨least, greatest⟩ := Meter.extremes_of_snapshot? shown
  rw [least, greatest, same]
  exact ordered

/-- Two reads of which one has ended while the other has only been counted: the extremes are those
of the first. -/
theorem extremes_ordered_iff_ended_beside_first_step :
    ∃ state, follow ReportState.step ([1, 0, 0, 0, 0, 0, 0].map (⟨·, false⟩))
        (ReportState.opening (Meter.empty : Meter Summary).cells
          [(⟨.read, false⟩, 5), (⟨.read, false⟩, 3)]) = some state ∧
      state.isQuiet = false ∧ (state.cells.get ⟨.read, false⟩).count = 2 ∧
      (state.cells.get ⟨.read, false⟩).least ≤ (state.cells.get ⟨.read, false⟩).greatest := by
  have stands : (follow ReportState.step ([1, 0, 0, 0, 0, 0, 0].map (⟨·, false⟩))
      (ReportState.opening (Meter.empty : Meter Summary).cells
        [(⟨.read, false⟩, 5), (⟨.read, false⟩, 3)])).any (fun state =>
          !state.isQuiet && (state.cells.get ⟨.read, false⟩).count == 2 &&
            state.reports[0]? == some ⟨⟨.read, false⟩, 5, .done⟩) = true := by
    decide +kernel
  obtain ⟨state, followed, facts⟩ := (Option.any_eq_true _ _).1 stands
  simp only [Bool.and_eq_true, Bool.not_eq_true', beq_iff_eq] at facts
  obtain ⟨⟨unquiet, count⟩, first⟩ := facts
  have ended : state.HasEnded ⟨.read, false⟩ := ⟨_, List.mem_of_getElem? first, rfl, rfl⟩
  obtain ⟨-, -, ordered, -⟩ :=
    extremes_ordered_iff_ended _ state (reaches_of_follow followed) ⟨.read, false⟩
  exact ⟨state, followed, unquiet, count, ordered.2 (.inl ended)⟩

/-- After the first step of a report its slot is counted as used, and a snapshot shows the value
that stands for no least latency above a greatest latency of zero. -/
theorem extremes_inverted_after_first_step :
    ∃ state, follow ReportState.step [⟨0, false⟩]
        (ReportState.opening (Meter.empty : Meter Summary).cells [(⟨.read, false⟩, 5)]) =
          some state ∧
      0 < (state.cells.get ⟨.read, false⟩).count ∧
      ¬ (state.cells.get ⟨.read, false⟩).least ≤ (state.cells.get ⟨.read, false⟩).greatest ∧
      ∃ snapshot, { (Meter.empty : Meter Summary) with cells := state.cells }.snapshot?
          ⟨.read, false⟩ = some snapshot ∧
        snapshot.count = 1 ∧ snapshot.least = noLeast ∧ snapshot.greatest = 0 := by
  refine ⟨_, rfl, by decide, by decide, _, rfl, rfl, rfl, rfl⟩

end StoreBench.Latency
