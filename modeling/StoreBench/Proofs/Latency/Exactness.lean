import StoreBench.Latency.ConcurrentReports
import StoreBench.Proofs.Totals

/-!
Contract: reports that run at the same time are all counted.

Each report has added itself to the count and to the sum of its slot or has not, which its
stage tells; so both are sums over the stages of all reports.  The extremes only ever move
outwards.  A report that is past its improvement of an extreme is bounded by it, and one in
the midst of it has seen a value that the extreme has reached.

Owns:
- `Report.Progress`, all that one atomic step does;
- `Accounted`, what relates the cell of a slot to the stages of all reports;
- the statistics once every report has ended.

Does not own: what a reader sees while reports are on their way.
-/

namespace StoreBench.Latency

namespace Report

def counted (report : Report) : Nat :=
  match report.stage with
  | .counting => 0
  | _ => 1

def summed (report : Report) : Nat :=
  match report.stage with
  | .counting | .summing => 0
  | _ => report.latency.toNat

/-- The extremes have reached what the report has read of them, and its latency where the report
is past its improvement. -/
def Within (report : Report) (cell : Summary) : Prop :=
  match report.stage with
  | .counting | .summing | .readingLeast => True
  | .lowering seen => cell.least ≤ seen
  | .readingGreatest => cell.least ≤ report.latency
  | .raising seen => cell.least ≤ report.latency ∧ seen ≤ cell.greatest
  | .done => cell.least ≤ report.latency ∧ report.latency ≤ cell.greatest

/-- What one atomic step does to the cell of its slot. -/
structure Progress (report next : Report) (before after : Summary) : Prop where
  slot : next.slot = report.slot
  latency : next.latency = report.latency
  count : after.count + report.counted = before.count + next.counted
  total : (after.total.toNat + report.summed) % UInt64.size =
    (before.total.toNat + next.summed) % UInt64.size
  least_le : after.least ≤ before.least
  le_greatest : before.greatest ≤ after.greatest
  least_eq : after.least = before.least ∨ after.least = report.latency
  greatest_eq : after.greatest = before.greatest ∨ after.greatest = report.latency
  within : report.Within before → next.Within after

/-- A step changes nothing but what its stage calls for. -/
theorem progress_of_advance? {report : Report} {spurious : Bool} {before after : Summary}
    {stage : ReportStage} (steps : report.advance? spurious before = some (after, stage)) :
    report.Progress { report with stage } before after := by
  obtain ⟨slot, latency, place⟩ := report
  have refl := @UInt64.le_refl
  cases place with
  | counting =>
    cases steps
    exact ⟨rfl, rfl, rfl, rfl, refl _, refl _, .inl rfl, .inl rfl, fun _ => trivial⟩
  | summing =>
    cases steps
    refine ⟨rfl, rfl, rfl, ?_, refl _, refl _, .inl rfl, .inl rfl, fun _ => trivial⟩
    simp [summed, UInt64.toNat_add]
  | readingLeast =>
    cases steps
    exact ⟨rfl, rfl, rfl, rfl, refl _, refl _, .inl rfl, .inl rfl, fun _ => refl _⟩
  | lowering seen =>
    simp only [advance?] at steps
    split at steps
    · next less =>
      split at steps
      · next exchanged =>
        cases steps
        refine ⟨rfl, rfl, rfl, rfl, ?_, refl _, .inr rfl, .inl rfl, fun _ => refl _⟩
        rw [exchanged.1]
        exact UInt64.le_of_lt less
      · cases steps
        exact ⟨rfl, rfl, rfl, rfl, refl _, refl _, .inl rfl, .inl rfl, fun _ => refl _⟩
    · next noLess =>
      cases steps
      exact ⟨rfl, rfl, rfl, rfl, refl _, refl _, .inl rfl, .inl rfl,
        fun within => UInt64.le_trans within (UInt64.not_lt.1 noLess)⟩
  | readingGreatest =>
    cases steps
    exact ⟨rfl, rfl, rfl, rfl, refl _, refl _, .inl rfl, .inl rfl, fun within => ⟨within, refl _⟩⟩
  | raising seen =>
    simp only [advance?] at steps
    split at steps
    · next less =>
      split at steps
      · next exchanged =>
        cases steps
        refine ⟨rfl, rfl, rfl, rfl, refl _, ?_, .inl rfl, .inr rfl, fun within => ?_⟩
        · rw [exchanged.1]
          exact UInt64.le_of_lt less
        · exact ⟨within.1, refl _⟩
      · cases steps
        exact ⟨rfl, rfl, rfl, rfl, refl _, refl _, .inl rfl, .inl rfl,
          fun within => ⟨within.1, refl _⟩⟩
    · next noLess =>
      cases steps
      exact ⟨rfl, rfl, rfl, rfl, refl _, refl _, .inl rfl, .inl rfl,
        fun within => ⟨within.1, UInt64.le_trans (UInt64.not_lt.1 noLess) within.2⟩⟩
  | done => cases steps

/-- Extremes that move outwards stay beyond what a report has seen of them. -/
theorem Within.mono {report : Report} {before after : Summary} (within : report.Within before)
    (least_le : after.least ≤ before.least) (le_greatest : before.greatest ≤ after.greatest) :
    report.Within after := by
  obtain ⟨slot, latency, place⟩ := report
  cases place with
  | counting => trivial
  | summing => trivial
  | readingLeast => trivial
  | lowering seen => exact UInt64.le_trans least_le within
  | readingGreatest => exact UInt64.le_trans least_le within
  | raising seen =>
    exact ⟨UInt64.le_trans least_le within.1, UInt64.le_trans within.2 le_greatest⟩
  | done => exact ⟨UInt64.le_trans least_le within.1, UInt64.le_trans within.2 le_greatest⟩

end Report

namespace ReportState

/-- A move is one step of one report in the cell of its slot; the cells of the other slots stay
as they are. -/
theorem advance_of_step {move : ReportMove} {before after : ReportState}
    (fires : before.step move = some after) :
    ∃ report stage, before.reports[move.report]? = some report ∧
      report.advance? move.spurious (before.cells.get report.slot) =
        some (after.cells.get report.slot, stage) ∧
      after.reports = before.reports.set move.report { report with stage } ∧
      ∀ slot, slot ≠ report.slot → after.cells.get slot = before.cells.get slot := by
  simp only [step, bind, Option.bind_eq_some_iff] at fires
  obtain ⟨report, found, ⟨cell, stage⟩, steps, same⟩ := fires
  cases same
  refine ⟨report, stage, found, ?_, rfl, fun slot apart => ?_⟩
  · rw [PerSlot.get_modify, if_pos rfl]
    exact steps
  · rw [PerSlot.get_modify, if_neg apart]

theorem step_progress {move : ReportMove} {before after : ReportState}
    (fires : before.step move = some after) :
    ∃ report next, before.reports[move.report]? = some report ∧
      after.reports = before.reports.set move.report next ∧
      report.Progress next (before.cells.get report.slot) (after.cells.get report.slot) ∧
      ∀ slot, slot ≠ report.slot → after.cells.get slot = before.cells.get slot := by
  obtain ⟨report, stage, found, steps, reports, others⟩ := advance_of_step fires
  exact ⟨report, _, found, reports, Report.progress_of_advance? steps, others⟩

/-- No move raises the least latency of any slot or lowers the greatest. -/
theorem step_outwards {move : ReportMove} {before after : ReportState}
    (fires : before.step move = some after) (slot : Slot) :
    (after.cells.get slot).least ≤ (before.cells.get slot).least ∧
      (before.cells.get slot).greatest ≤ (after.cells.get slot).greatest := by
  obtain ⟨report, next, _, _, progress, others⟩ := step_progress fires
  by_cases same : slot = report.slot
  · subst same
    exact ⟨progress.least_le, progress.le_greatest⟩
  · rw [others slot same]
    exact ⟨UInt64.le_refl _, UInt64.le_refl _⟩

def callOf (report : Report) : Slot × UInt64 := (report.slot, report.latency)

/-- A weight of the reports into one slot. -/
def share (slot : Slot) (weight : Report → Nat) (report : Report) : Nat :=
  if report.slot = slot then weight report else 0

/-- What relates the cell of a slot to the stages of all reports. -/
structure Accounted (calls : List (Slot × UInt64)) (slot : Slot) (state : ReportState) :
    Prop where
  made : state.reports.map callOf = calls
  count : (state.cells.get slot).count = total (state.reports.map (share slot Report.counted))
  total : (state.cells.get slot).total.toNat =
    total (state.reports.map (share slot Report.summed)) % UInt64.size
  /-- An extreme is the latency of some report, or that of none. -/
  least : (state.cells.get slot).least = noLeast ∨ (slot, (state.cells.get slot).least) ∈ calls
  greatest : (state.cells.get slot).greatest = 0 ∨ (slot, (state.cells.get slot).greatest) ∈ calls
  within : ∀ report ∈ state.reports, report.slot = slot → report.Within (state.cells.get slot)

theorem accounted_opening (calls : List (Slot × UInt64)) (slot : Slot) :
    Accounted calls slot (opening (Meter.empty : Meter Summary).cells calls) := by
  have fresh : (opening (Meter.empty : Meter Summary).cells calls).cells.get slot =
      Summary.empty := PerSlot.get_replicate _ _
  have none : ∀ weight : Report → Nat,
      (∀ slot latency, weight ⟨slot, latency, .counting⟩ = 0) →
      total ((opening (Meter.empty : Meter Summary).cells calls).reports.map (share slot weight)) =
        0 := by
    intro weight unbegun
    simp only [opening, List.map_map]
    induction calls with
    | nil => rfl
    | cons call rest inductionHypothesis =>
      simp only [List.map_cons, StoreBench.total]
      rw [inductionHypothesis (PerSlot.get_replicate _ _)]
      simp [share, unbegun]
  constructor
  · simp [opening, callOf, Function.comp_def]
  · rw [fresh, none Report.counted fun _ _ => rfl]
    rfl
  · rw [fresh, none Report.summed fun _ _ => rfl]
    rfl
  · exact .inl (by rw [fresh]; rfl)
  · exact .inl (by rw [fresh]; rfl)
  · intro report member _
    simp only [opening, List.mem_map] at member
    obtain ⟨_, _, rfl⟩ := member
    trivial

theorem accounted_step {calls : List (Slot × UInt64)} {slot : Slot} {move : ReportMove}
    {before after : ReportState} (accounted : Accounted calls slot before)
    (fires : before.step move = some after) : Accounted calls slot after := by
  have outwards := step_outwards fires slot
  obtain ⟨report, next, found, reports, progress, others⟩ := step_progress fires
  have inside : report ∈ before.reports := List.mem_of_getElem? found
  have counts := total_map_set (share slot Report.counted) found next
  have sums := total_map_set (share slot Report.summed) found next
  rw [← reports] at counts sums
  simp only [share, progress.slot] at counts sums
  have made : after.reports.map callOf = calls := by
    rw [reports, ← accounted.made]
    refine map_set_of_eq found ?_
    rw [callOf, callOf, progress.slot, progress.latency]
  by_cases same : report.slot = slot
  · subst same
    rw [if_pos rfl, if_pos rfl] at counts sums
    have call : (report.slot, report.latency) ∈ calls := by
      rw [← accounted.made]
      exact List.mem_map_of_mem inside
    have counted := progress.count
    have summed := progress.total
    have countedBefore := accounted.count
    have summedBefore := accounted.total
    have summedLt := (after.cells.get report.slot).total.toNat_lt
    have size : UInt64.size = 18446744073709551616 := rfl
    refine ⟨made, by omega, ?_, ?_, ?_, fun other member intoSlot => ?_⟩
    · rw [size] at summed summedBefore ⊢
      omega
    · rcases progress.least_eq with kept | lowered
      · rw [kept]
        exact accounted.least
      · exact .inr (lowered ▸ call)
    · rcases progress.greatest_eq with kept | raised
      · rw [kept]
        exact accounted.greatest
      · exact .inr (raised ▸ call)
    · rw [reports] at member
      rcases List.mem_or_eq_of_mem_set member with stays | rfl
      · exact (accounted.within other stays intoSlot).mono outwards.1 outwards.2
      · exact progress.within (accounted.within report inside rfl)
  · rw [if_neg same, if_neg same] at counts sums
    have cell := others slot (Ne.symm same)
    refine ⟨made, ?_, ?_, ?_, ?_, fun other member intoSlot => ?_⟩
    · rw [cell, accounted.count]
      exact counts.symm
    · rw [cell, accounted.total]
      exact congrArg (· % UInt64.size) sums.symm
    · rw [cell]
      exact accounted.least
    · rw [cell]
      exact accounted.greatest
    · rw [reports] at member
      rw [cell]
      rcases List.mem_or_eq_of_mem_set member with stays | rfl
      · exact accounted.within other stays intoSlot
      · exact (same (progress.slot ▸ intoSlot)).elim

theorem accounted_of_reaches {calls : List (Slot × UInt64)} {state : ReportState}
    (path : Reaches step (opening (Meter.empty : Meter Summary).cells calls) state)
    (slot : Slot) : Accounted calls slot state :=
  path.invariant (accounted_opening calls slot) fun _ _ _ accounted fires =>
    accounted_step accounted fires

def latenciesOf (slot : Slot) (calls : List (Slot × UInt64)) : List UInt64 :=
  (calls.filter (·.1 = slot)).map Prod.snd

theorem mem_latenciesOf {slot : Slot} {latency : UInt64} {calls : List (Slot × UInt64)} :
    latency ∈ latenciesOf slot calls ↔ (slot, latency) ∈ calls := by
  simp [latenciesOf]

/-- Once every report has ended, each has added its call in full. -/
theorem total_share_of_isQuiet {reports : List Report}
    (quiet : ∀ report ∈ reports, report.stage = .done) (slot : Slot) :
    total (reports.map (share slot Report.counted)) =
        (latenciesOf slot (reports.map callOf)).length ∧
      total (reports.map (share slot Report.summed)) =
        total ((latenciesOf slot (reports.map callOf)).map UInt64.toNat) := by
  induction reports with
  | nil => exact ⟨rfl, rfl⟩
  | cons report rest inductionHypothesis =>
    have ended := quiet report List.mem_cons_self
    have tail := inductionHypothesis fun other inRest => quiet other (List.mem_cons_of_mem _ inRest)
    simp only [latenciesOf] at tail ⊢
    by_cases same : report.slot = slot
    · simp [share, same, callOf, Report.counted, Report.summed, ended, StoreBench.total, tail,
        Nat.add_comm]
    · simp [share, same, callOf, StoreBench.total, tail]

end ReportState

theorem le_noLeast (latency : UInt64) : latency ≤ noLeast := by
  rw [UInt64.le_iff_toNat_le]
  exact Nat.le_of_lt_succ latency.toNat_lt

/-- The greater of two words is one of them and is bounded by what bounds both. -/
instance lawfulOrderMax : Std.LawfulOrderMax UInt64 where
  max_eq_or left right := by
    show (if left ≤ right then right else left) = left ∨
      (if left ≤ right then right else left) = right
    split
    · exact .inr rfl
    · exact .inl rfl
  max_le_iff left right bound := by
    show (if left ≤ right then right else left) ≤ bound ↔ _
    split
    · next ordered => exact ⟨fun below => ⟨UInt64.le_trans ordered below, below⟩, And.right⟩
    · next reversed =>
      have ordered := UInt64.le_of_lt (UInt64.not_le.1 reversed)
      exact ⟨fun below => ⟨below, UInt64.le_trans ordered below⟩, And.left⟩

/-- A lower bound that is one of the latencies, or stands for none, is their minimum. -/
theorem eq_min?_getD {latencies : List UInt64} {least : UInt64}
    (bounds : ∀ latency ∈ latencies, least ≤ latency)
    (attained : least = noLeast ∨ least ∈ latencies) : least = latencies.min?.getD noLeast := by
  cases latencies with
  | nil => simpa using attained
  | cons first rest =>
    have inside : least ∈ first :: rest := by
      rcases attained with rfl | inside
      · have above := bounds first List.mem_cons_self
        have top : first = noLeast := UInt64.le_antisymm (le_noLeast first) above
        exact top ▸ List.mem_cons_self
      · exact inside
    rw [List.min?_eq_some_iff.2 ⟨inside, bounds⟩, Option.getD_some]

/-- An upper bound that is one of the latencies, or stands for none, is their maximum. -/
theorem eq_max?_getD {latencies : List UInt64} {greatest : UInt64}
    (bounds : ∀ latency ∈ latencies, latency ≤ greatest)
    (attained : greatest = 0 ∨ greatest ∈ latencies) : greatest = latencies.max?.getD 0 := by
  cases latencies with
  | nil => simpa using attained
  | cons first rest =>
    have inside : greatest ∈ first :: rest := by
      rcases attained with rfl | inside
      · have bottom : first = 0 := UInt64.le_zero_iff.1 (bounds first List.mem_cons_self)
        exact bottom ▸ List.mem_cons_self
      · exact inside
    rw [List.max?_eq_some_iff.2 ⟨inside, bounds⟩, Option.getD_some]

/-- **Concurrent reports lose nothing.**  Whatever reports run at the same time into a fresh meter,
and in whichever order their steps come (a thread with several reports makes them one after the
other), the least latency of a slot is never raised and the greatest never lowered; and once all
reports have ended, every slot has the number, the sum, the minimum and the maximum of the
latencies reported into it. -/
theorem reports_exact (calls : List (Slot × UInt64)) (state : ReportState)
    (path : Reaches ReportState.step
      (ReportState.opening (Meter.empty : Meter Summary).cells calls) state) :
    (∀ move after, state.step move = some after → ∀ slot,
      (after.cells.get slot).least ≤ (state.cells.get slot).least ∧
        (state.cells.get slot).greatest ≤ (after.cells.get slot).greatest) ∧
    (state.isQuiet = true → ∀ slot,
      let cell := state.cells.get slot
      let latencies := ReportState.latenciesOf slot calls
      cell.count = latencies.length ∧
        cell.total.toNat = total (latencies.map UInt64.toNat) % UInt64.size ∧
        cell.least = latencies.min?.getD noLeast ∧
        cell.greatest = latencies.max?.getD 0) := by
  refine ⟨fun move after fires slot => ReportState.step_outwards fires slot, fun quiet slot => ?_⟩
  have accounted := ReportState.accounted_of_reaches path slot
  have ended : ∀ report ∈ state.reports, report.stage = .done := by
    simpa [ReportState.isQuiet] using quiet
  have shares := ReportState.total_share_of_isQuiet ended slot
  rw [accounted.made] at shares
  -- Every latency of the slot belongs to a report that has ended.
  have bounds : ∀ latency ∈ ReportState.latenciesOf slot calls,
      (state.cells.get slot).least ≤ latency ∧ latency ≤ (state.cells.get slot).greatest := by
    intro latency member
    rw [ReportState.mem_latenciesOf, ← accounted.made, List.mem_map] at member
    obtain ⟨report, inside, same⟩ := member
    cases same
    have within := accounted.within report inside rfl
    rw [Report.Within, ended report inside] at within
    exact within
  refine ⟨?_, ?_, eq_min?_getD (fun latency member => (bounds latency member).1) ?_,
    eq_max?_getD (fun latency member => (bounds latency member).2) ?_⟩
  · rw [accounted.count, shares.1]
  · rw [accounted.total, shares.2]
  · exact accounted.least.imp_right ReportState.mem_latenciesOf.2
  · exact accounted.greatest.imp_right ReportState.mem_latenciesOf.2

/-- Two reports that read the same least latency: the exchange of the second fails once because
the first was faster and once for no reason, and both are counted. -/
theorem reports_exact_after_failed_exchanges :
    ∃ state, follow ReportState.step
        ([0, 0, 0, 1, 1, 1, 0, 1].map (⟨·, false⟩) ++ [⟨1, true⟩] ++
          [1, 0, 0, 1, 1].map (⟨·, false⟩))
        (ReportState.opening (Meter.empty : Meter Summary).cells
          [(⟨.read, false⟩, 5), (⟨.read, false⟩, 3)]) = some state ∧
      state.isQuiet = true ∧ (state.cells.get ⟨.read, false⟩).count = 2 ∧
      (state.cells.get ⟨.read, false⟩).least = 3 ∧
      (state.cells.get ⟨.read, false⟩).greatest = 5 := by
  have quiet : (follow ReportState.step
      ([0, 0, 0, 1, 1, 1, 0, 1].map (⟨·, false⟩) ++ [⟨1, true⟩] ++
        [1, 0, 0, 1, 1].map (⟨·, false⟩))
      (ReportState.opening (Meter.empty : Meter Summary).cells
        [(⟨.read, false⟩, 5), (⟨.read, false⟩, 3)])).any ReportState.isQuiet = true := by
    decide +kernel
  obtain ⟨state, followed, ended⟩ := (Option.any_eq_true _ _).1 quiet
  obtain ⟨count, -, least, greatest⟩ :=
    (reports_exact _ state (reaches_of_follow followed)).2 ended ⟨.read, false⟩
  exact ⟨state, followed, ended, count.trans (by decide), least.trans (by decide),
    greatest.trans (by decide)⟩

end StoreBench.Latency
