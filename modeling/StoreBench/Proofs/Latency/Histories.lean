import Mathlib.Data.List.Induction
import StoreBench.Proofs.Latency.Tallies

/-!
Contract: a meter after any history, read off the history itself.

Owns:
- what a history leaves behind: the latencies of each slot since the last fresh start, the
  calls of either kind since then, and the latest expected number of warm-up calls;
- `Aggregate.KeepsExtremes`, which both ways of condensing latencies satisfy;
- `Extent`, the part of a snapshot that does not depend on the way of condensing, and its
  text in the status message;
- the agreement of both ways on extents and headers after every history.

Does not own: means and percentiles, on which the two ways differ by design.
-/

namespace StoreBench.Latency

/-! ## What a history leaves behind -/

namespace Event

/-- The latency that an event files under `slot`. -/
def latencyFor? (slot : Slot) : Event → Option UInt64
  | .measured filed latency => if filed = slot then some latency else none
  | _ => none

def isMeasured : Event → Bool
  | .measured _ _ => true
  | _ => false

def isWarmup : Event → Bool
  | .warmup _ => true
  | _ => false

/-- The number of warm-up calls that an event announces. -/
def target? : Event → Option UInt64
  | .target calls => some calls
  | _ => none

end Event

/-- The events behind the last fresh start. -/
def sinceReset (events : List Event) : List Event :=
  (events.reverse.takeWhile (· ≠ .reset)).reverse

/-- The latencies of a slot since the last fresh start, in the order of their reports. -/
def reported (slot : Slot) (events : List Event) : List UInt64 :=
  (sinceReset events).filterMap (Event.latencyFor? slot)

/-- The latest expected number of warm-up calls; a fresh start does not withdraw it. -/
def lastTarget (events : List Event) : UInt64 :=
  (events.reverse.findSome? Event.target?).getD 0

theorem sinceReset_concat_reset (events : List Event) : sinceReset (events ++ [.reset]) = [] := by
  simp [sinceReset]

theorem sinceReset_concat {event : Event} (continues : event ≠ .reset) (events : List Event) :
    sinceReset (events ++ [event]) = sinceReset events ++ [event] := by
  simp [sinceReset, continues]

theorem reported_concat {event : Event} (continues : event ≠ .reset) (slot : Slot)
    (events : List Event) :
    reported slot (events ++ [event]) =
      reported slot events ++ (event.latencyFor? slot).toList := by
  rw [reported, sinceReset_concat continues, List.filterMap_append, reported]
  cases filed : event.latencyFor? slot with
  | none => simp [filed]
  | some latency => simp [filed]

theorem lastTarget_concat (events : List Event) (event : Event) :
    lastTarget (events ++ [event]) = event.target?.getD (lastTarget events) := by
  rw [lastTarget, List.reverse_append, List.reverse_singleton, List.singleton_append,
    List.findSome?_cons]
  cases event.target? <;> rfl

/-! ## A meter after a history -/

namespace Meter

variable {α : Type} [Aggregate α]

theorem applyAll_concat (meter : Meter α) (events : List Event) (event : Event) :
    meter.applyAll (events ++ [event]) = (meter.applyAll events).apply event := by
  rw [applyAll, List.foldl_append]
  rfl

theorem applyAll_append (meter : Meter α) (events more : List Event) :
    meter.applyAll (events ++ more) = (meter.applyAll events).applyAll more := List.foldl_append

/-- The cell of a slot condenses the latencies of that slot since the last fresh start. -/
theorem get_cells_applyAll (slot : Slot) (events : List Event) :
    ((empty : Meter α).applyAll events).cells.get slot =
      (reported slot events).foldl (fun cell latency => Aggregate.record latency cell)
        Aggregate.empty := by
  induction events using List.reverseRecOn with
  | nil => exact PerSlot.get_replicate ..
  | append_singleton events event inductionHypothesis =>
    rw [applyAll_concat]
    cases event with
    | measured filed latency =>
      rw [reported_concat (by nofun), List.foldl_append, ← inductionHypothesis]
      show (PerSlot.modify _ filed _).get slot = _
      rw [PerSlot.get_modify]
      by_cases here : slot = filed
      · subst here
        rw [if_pos rfl, Event.latencyFor?, if_pos rfl]
        rfl
      · rw [if_neg here, Event.latencyFor?, if_neg (Ne.symm here)]
        rfl
    | warmup | target =>
      rw [reported_concat (by nofun)]
      show _ = (reported slot events ++ []).foldl _ _
      rw [List.append_nil]
      exact inductionHypothesis
    | reset =>
      rw [reported, sinceReset_concat_reset]
      exact PerSlot.get_replicate ..

/-- A meter counts the calls of either kind since the last fresh start. -/
theorem totals_applyAll [Aggregate.Counts α] (events : List Event) :
    ((empty : Meter α).applyAll events).measuredTotal =
        (sinceReset events).countP Event.isMeasured ∧
      ((empty : Meter α).applyAll events).warmupTotal =
        (sinceReset events).countP Event.isWarmup := by
  induction events using List.reverseRecOn with
  | nil => exact totals_reset (empty : Meter α)
  | append_singleton events event inductionHypothesis =>
    obtain ⟨measured, warmups⟩ := inductionHypothesis
    rw [applyAll_concat]
    cases event with
    | measured slot latency =>
      rw [sinceReset_concat (by nofun), List.countP_append, List.countP_append]
      exact ⟨(measuredTotal_record ..).trans (congrArg (· + 1) measured), warmups⟩
    | warmup slot =>
      rw [sinceReset_concat (by nofun), List.countP_append, List.countP_append]
      exact ⟨measured, (warmupTotal_recordWarmup ..).trans (congrArg (· + 1) warmups)⟩
    | target calls =>
      rw [sinceReset_concat (by nofun), List.countP_append, List.countP_append]
      exact ⟨measured, warmups⟩
    | reset =>
      rw [sinceReset_concat_reset]
      exact totals_reset _

theorem target_applyAll (events : List Event) :
    ((empty : Meter α).applyAll events).target = lastTarget events := by
  induction events using List.reverseRecOn with
  | nil => rfl
  | append_singleton events event inductionHypothesis =>
    rw [applyAll_concat, lastTarget_concat, ← inductionHypothesis]
    cases event <;> rfl

end Meter

/-! ## Extremes -/

/-- The extremes are exact: every latency that is taken in moves them to itself if it lies
beyond them, and a fresh start puts both back. -/
class Aggregate.KeepsExtremes (α : Type) [Aggregate α] : Prop where
  least_empty : Aggregate.least (Aggregate.empty : α) = noLeast
  greatest_empty : Aggregate.greatest (Aggregate.empty : α) = 0
  least_record : ∀ (latency : UInt64) (cell : α),
    Aggregate.least (Aggregate.record latency cell) = min (Aggregate.least cell) latency
  greatest_record : ∀ (latency : UInt64) (cell : α),
    Aggregate.greatest (Aggregate.record latency cell) = max (Aggregate.greatest cell) latency

instance : Aggregate.KeepsExtremes Summary := ⟨rfl, rfl, fun _ _ => rfl, fun _ _ => rfl⟩

instance : Aggregate.KeepsExtremes Distribution := ⟨rfl, rfl, fun _ _ => rfl, fun _ _ => rfl⟩

instance (strategy : Strategy) : Aggregate.KeepsExtremes strategy.Cell :=
  match strategy with
  | .basic => inferInstanceAs (Aggregate.KeepsExtremes Summary)
  | .histogram => inferInstanceAs (Aggregate.KeepsExtremes Distribution)

namespace Aggregate

variable {α : Type} [Aggregate α]

def condense (latencies : List UInt64) : α :=
  latencies.foldl (fun cell latency => record latency cell) empty

theorem condense_concat (latencies : List UInt64) (latency : UInt64) :
    (condense (latencies ++ [latency]) : α) = record latency (condense latencies) := by
  rw [condense, List.foldl_append]
  rfl

theorem count_condense [Counts α] (latencies : List UInt64) :
    count (condense latencies : α) = latencies.length := by
  induction latencies using List.reverseRecOn with
  | nil => exact Counts.count_empty
  | append_singleton latencies latency inductionHypothesis =>
    rw [condense_concat, Counts.count_record, inductionHypothesis, List.length_append,
      List.length_singleton]

theorem least_condense [KeepsExtremes α] (latencies : List UInt64) :
    least (condense latencies : α) = latencies.foldl min noLeast := by
  induction latencies using List.reverseRecOn with
  | nil => exact KeepsExtremes.least_empty
  | append_singleton latencies latency inductionHypothesis =>
    rw [condense_concat, KeepsExtremes.least_record, inductionHypothesis, List.foldl_append]
    rfl

theorem greatest_condense [KeepsExtremes α] (latencies : List UInt64) :
    greatest (condense latencies : α) = latencies.foldl max 0 := by
  induction latencies using List.reverseRecOn with
  | nil => exact KeepsExtremes.greatest_empty
  | append_singleton latencies latency inductionHypothesis =>
    rw [condense_concat, KeepsExtremes.greatest_record, inductionHypothesis, List.foldl_append]
    rfl

end Aggregate

/-! ## Extents -/

/-- Number and extremes of the latencies of a slot. -/
structure Extent where
  slot : Slot
  count : Nat
  least : UInt64
  greatest : UInt64
  deriving DecidableEq, Repr

/-- The extent of the latencies of a slot, if there are any. -/
def Extent.of? (slot : Slot) (latencies : List UInt64) : Option Extent :=
  if latencies.length = 0 then none
  else some ⟨slot, latencies.length, latencies.foldl min noLeast, latencies.foldl max 0⟩

/-- What a status message shows of an extent. -/
def Extent.text (extent : Extent) : String :=
  "[" ++ extent.slot.name ++ ": Count=" ++ toString extent.count ++
    " Max=" ++ shown extent.greatest.toFloat ++
    " Min=" ++ shown extent.least.toFloat

namespace Snapshot

/-- A snapshot without mean and percentiles. -/
def extent (snapshot : Snapshot) : Extent where
  slot := snapshot.slot
  count := snapshot.count
  least := snapshot.least
  greatest := snapshot.greatest

/-- The end of the line of a slot: its mean and its percentiles. -/
def averageText (snapshot : Snapshot) : String :=
  " Avg=" ++ shown snapshot.mean ++ String.join (snapshot.percentiles.map percentileText) ++ "]"

theorem line_eq (snapshot : Snapshot) :
    snapshot.line = snapshot.extent.text ++ snapshot.averageText := by
  simp only [line, Extent.text, extent, averageText, String.append_assoc]

end Snapshot

namespace Meter

variable {α : Type} [Aggregate α] [Aggregate.Counts α] [Aggregate.KeepsExtremes α]

/-- Number and extremes in a snapshot are those of the latencies reported since the last
fresh start. -/
theorem extent_snapshot (slot : Slot) (events : List Event) :
    (((empty : Meter α).applyAll events).snapshot? slot).map Snapshot.extent =
      Extent.of? slot (reported slot events) := by
  have cell : ((empty : Meter α).applyAll events).cells.get slot =
      Aggregate.condense (reported slot events) := get_cells_applyAll slot events
  rw [snapshot?, cell, Extent.of?, Aggregate.count_condense]
  split
  · rfl
  · simp only [Option.map_some, Snapshot.extent, Aggregate.least_condense,
      Aggregate.greatest_condense]

-- The histogram counts a latency of zero and one beyond its longest, and keeps both exactly.
example :
    (((empty : Meter Distribution).applyAll [.measured ⟨.read, false⟩ 7, .reset,
        .measured ⟨.read, false⟩ 0, .measured ⟨.read, false⟩ 200000000000]).snapshot?
          ⟨.read, false⟩).map Snapshot.extent =
      some ⟨⟨.read, false⟩, 2, 0, 200000000000⟩ := by
  rfl

theorem extent_snapshots (events : List Event) :
    ((empty : Meter α).applyAll events).snapshots.map Snapshot.extent =
      Slot.all.filterMap fun slot => Extent.of? slot (reported slot events) := by
  rw [snapshots, List.map_filterMap]
  simp only [extent_snapshot]

omit [Aggregate.Counts α] [Aggregate.KeepsExtremes α] in
theorem statusText_eq_lines (meter : Meter α) :
    meter.statusText = meter.header ++ String.join
      (meter.snapshots.map fun snapshot =>
        "\n" ++ snapshot.extent.text ++ snapshot.averageText) := by
  simp only [statusText, Snapshot.line_eq, String.append_assoc]

omit [Aggregate α] [Aggregate.Counts α] [Aggregate.KeepsExtremes α] in
/-- The first line shows the calls since the last fresh start and the warm-up's progress. -/
theorem header_eq [Aggregate α] {β : Type} [Aggregate β] {left : Meter α} {right : Meter β}
    (measured : left.measuredTotal = right.measuredTotal)
    (warmups : left.warmupTotal = right.warmupTotal) (target : left.target = right.target) :
    left.header = right.header := by
  simp only [header, warmupText, measured, warmups, target]

end Meter

/-- **Both ways of condensing latencies show the same, but for mean and percentiles.**  After
every history each slot has a snapshot with one of them iff it has one with the other, with
the number and the extremes of the latencies that were reported since the last fresh start.
The status messages begin with the same line, and go on with lines for the same slots in the
same order that are equal up to the mean. -/
theorem strategies_agree (events : List Event) :
    let basic : Meter Strategy.basic.Cell := Meter.empty.applyAll events
    let histogram : Meter Strategy.histogram.Cell := Meter.empty.applyAll events
    (∀ slot, (basic.snapshot? slot).map Snapshot.extent = Extent.of? slot (reported slot events)
        ∧ (histogram.snapshot? slot).map Snapshot.extent =
          Extent.of? slot (reported slot events))
      ∧ basic.header = histogram.header
      ∧ basic.snapshots.map Snapshot.extent = histogram.snapshots.map Snapshot.extent
      ∧ basic.statusText = basic.header ++ String.join (basic.snapshots.map fun snapshot =>
          "\n" ++ snapshot.extent.text ++ snapshot.averageText)
      ∧ histogram.statusText = histogram.header ++
          String.join (histogram.snapshots.map fun snapshot =>
            "\n" ++ snapshot.extent.text ++ snapshot.averageText) := by
  intro basic histogram
  have basicTotals := @Meter.totals_applyAll Strategy.basic.Cell _ _ events
  have histogramTotals := @Meter.totals_applyAll Strategy.histogram.Cell _ _ events
  refine ⟨fun slot => ⟨Meter.extent_snapshot slot events, Meter.extent_snapshot slot events⟩,
    ?_, ?_, Meter.statusText_eq_lines basic, Meter.statusText_eq_lines histogram⟩
  · apply Meter.header_eq
    · exact basicTotals.1.trans histogramTotals.1.symm
    · exact basicTotals.2.trans histogramTotals.2.symm
    · exact (Meter.target_applyAll events).trans (Meter.target_applyAll events).symm
  · exact (Meter.extent_snapshots events).trans (Meter.extent_snapshots events).symm

end StoreBench.Latency
