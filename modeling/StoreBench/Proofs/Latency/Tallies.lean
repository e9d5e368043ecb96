import StoreBench.Latency.StatusText
import StoreBench.Latency.Strategy
import StoreBench.Proofs.Totals

/-!
Contract: how many calls a meter has taken in.

Owns:
- `Aggregate.Counts`, which both ways of condensing latencies satisfy: every latency counts one;
- the numbers of measured calls and of warm-up calls after each event;
- `Meter.Silent`, the slots that no call was taken in for;
- these numbers in the snapshots and in the status message.

Does not own: the latencies themselves.
-/

namespace StoreBench.Latency

/-- Every latency that is taken in counts one. -/
class Aggregate.Counts (α : Type) [Aggregate α] : Prop where
  count_empty : Aggregate.count (Aggregate.empty : α) = 0
  count_record : ∀ (latency : UInt64) (cell : α),
    Aggregate.count (Aggregate.record latency cell) = Aggregate.count cell + 1

instance : Aggregate.Counts Summary := ⟨rfl, fun _ _ => rfl⟩

theorem Distribution.total_countIn (lowest : Nat) (classes : List (Nat × Nat)) :
    total ((countIn lowest classes).map Prod.snd) = total (classes.map Prod.snd) + 1 := by
  induction classes with
  | nil => rfl
  | cons entry rest inductionHypothesis =>
    obtain ⟨first, count⟩ := entry
    rw [countIn]
    split
    · simp only [List.map_cons, total]
      omega
    · split
      · simp only [List.map_cons, total]
        omega
      · simp only [List.map_cons, total, inductionHypothesis]
        omega

instance : Aggregate.Counts Distribution :=
  ⟨rfl, fun _ distribution => Distribution.total_countIn _ distribution.classes⟩

instance (strategy : Strategy) : Aggregate.Counts strategy.Cell :=
  match strategy with
  | .basic => inferInstanceAs (Aggregate.Counts Summary)
  | .histogram => inferInstanceAs (Aggregate.Counts Distribution)

/-! ## Sums over all slots -/

theorem mem_slots (slot : Slot) : slot ∈ Slot.all := by
  obtain ⟨operation, failed⟩ := slot
  cases operation <;> cases failed <;> decide

theorem nodup_slots : Slot.all.Nodup := by decide

namespace PerSlot

variable {α : Type} (table : PerSlot α) (weight : α → Nat)

/-- A change at one slot changes the sum by as much. -/
theorem total_modify (slot : Slot) (change : α → α) :
    total ((table.modify slot change).toList.map weight) + weight (table.get slot) =
      total (table.toList.map weight) + weight (change (table.get slot)) := by
  have kept : ∀ other, other ≠ slot →
      weight ((table.modify slot change).get other) = weight (table.get other) := by
    intro other apart
    rw [get_modify, if_neg apart]
  have sum := total_map_update nodup_slots (mem_slots slot) kept
  rw [get_modify, if_pos rfl] at sum
  rw [toList, toList, List.map_map, List.map_map]
  exact sum

theorem weight_le_total (slot : Slot) :
    weight (table.get slot) ≤ total (table.toList.map weight) :=
  le_total_map (List.mem_map_of_mem (mem_slots slot))

theorem total_replicate {value : α} (weightless : weight value = 0) :
    total ((replicate value).toList.map weight) = 0 := by
  apply total_map_eq_zero
  intro member inside
  obtain ⟨slot, _, rfl⟩ := List.mem_map.1 inside
  rw [get_replicate, weightless]

end PerSlot

/-! ## The calls of a meter -/

namespace Meter

variable {α : Type} [Aggregate α]

omit [Aggregate α] in
theorem warmupTotal_recordWarmup (slot : Slot) (meter : Meter α) :
    (meter.recordWarmup slot).warmupTotal = meter.warmupTotal + 1 := by
  have sum := PerSlot.total_modify meter.warmups id slot (· + 1)
  rw [List.map_id, List.map_id] at sum
  show total (meter.warmups.modify slot (· + 1)).toList = total meter.warmups.toList + 1
  simp only [id] at sum
  omega

theorem measuredTotal_record [Aggregate.Counts α] (slot : Slot) (latency : UInt64)
    (meter : Meter α) : (meter.record slot latency).measuredTotal = meter.measuredTotal + 1 := by
  have sum := PerSlot.total_modify meter.cells Aggregate.count slot (Aggregate.record latency)
  rw [Aggregate.Counts.count_record] at sum
  show total ((meter.cells.modify slot (Aggregate.record latency)).toList.map Aggregate.count) =
    total (meter.cells.toList.map Aggregate.count) + 1
  omega

theorem totals_reset [Aggregate.Counts α] (meter : Meter α) :
    meter.reset.measuredTotal = 0 ∧ meter.reset.warmupTotal = 0 := by
  constructor
  · exact PerSlot.total_replicate _ Aggregate.Counts.count_empty
  · have none : total ((PerSlot.replicate 0).toList.map id) = 0 := PerSlot.total_replicate id rfl
    rw [List.map_id] at none
    exact none

/-- A meter counts no more calls than the events that it was given, so that none of its numbers
exceeds 64 bits before as many events have come in. -/
theorem total_applyAll_le [Aggregate.Counts α] (events : List Event) (meter : Meter α) :
    (meter.applyAll events).measuredTotal + (meter.applyAll events).warmupTotal ≤
      meter.measuredTotal + meter.warmupTotal + events.length := by
  induction events generalizing meter with
  | nil => exact Nat.le_refl _
  | cons event later inductionHypothesis =>
    have one : (meter.apply event).measuredTotal + (meter.apply event).warmupTotal ≤
        meter.measuredTotal + meter.warmupTotal + 1 := by
      cases event with
      | measured slot latency =>
        rw [apply, measuredTotal_record]
        exact Nat.le_of_eq (Nat.add_right_comm _ _ _)
      | warmup slot =>
        rw [apply, warmupTotal_recordWarmup]
        exact Nat.le_refl _
      | target calls => exact Nat.le_succ _
      | reset =>
        rw [apply, (totals_reset meter).1, (totals_reset meter).2]
        exact Nat.zero_le _
    have others := inductionHypothesis (meter.apply event)
    rw [List.length_cons]
    calc ((meter.apply event).applyAll later).measuredTotal +
          ((meter.apply event).applyAll later).warmupTotal
      _ ≤ (meter.apply event).measuredTotal + (meter.apply event).warmupTotal +
          later.length := others
      _ ≤ meter.measuredTotal + meter.warmupTotal + (later.length + 1) := by omega

theorem count_le_measuredTotal (meter : Meter α) (slot : Slot) :
    Aggregate.count (meter.cells.get slot) ≤ meter.measuredTotal :=
  PerSlot.weight_le_total meter.cells Aggregate.count slot

omit [Aggregate α] in
theorem warmups_le_warmupTotal (meter : Meter α) (slot : Slot) :
    meter.warmups.get slot ≤ meter.warmupTotal := by
  have share := PerSlot.weight_le_total meter.warmups id slot
  rwa [List.map_id] at share

/-- No call of the slot was taken in. -/
def Silent (slot : Slot) (meter : Meter α) : Prop :=
  meter.snapshot? slot = none ∧ meter.warmups.get slot = 0

theorem silent_reset [Aggregate.Counts α] (slot : Slot) (meter : Meter α) :
    meter.reset.Silent slot := by
  constructor
  · apply if_pos
    rw [reset, empty, PerSlot.get_replicate]
    exact Aggregate.Counts.count_empty
  · rw [reset, empty, PerSlot.get_replicate]

theorem Silent.record {slot other : Slot} {meter : Meter α} (silent : meter.Silent slot)
    (different : slot ≠ other) (latency : UInt64) : (meter.record other latency).Silent slot := by
  refine ⟨?_, silent.2⟩
  have kept : (meter.record other latency).cells.get slot = meter.cells.get slot :=
    (PerSlot.get_modify ..).trans (if_neg different)
  rw [snapshot?, kept]
  exact silent.1

theorem Silent.recordWarmup {slot other : Slot} {meter : Meter α} (silent : meter.Silent slot)
    (different : slot ≠ other) : (meter.recordWarmup other).Silent slot := by
  refine ⟨silent.1, ?_⟩
  have kept : (meter.recordWarmup other).warmups.get slot = meter.warmups.get slot :=
    (PerSlot.get_modify ..).trans (if_neg different)
  rw [kept]
  exact silent.2

/-- The status message begins with the number of all calls. -/
theorem statusText_eq (meter : Meter α) :
    ∃ rest, meter.statusText =
      toString (meter.measuredTotal + meter.warmupTotal) ++ " operations;" ++ rest :=
  ⟨meter.warmupText ++ String.join (meter.snapshots.map fun snapshot => "\n" ++ snapshot.line), by
    rw [statusText, header, String.append_assoc]
    rfl⟩

end Meter

end StoreBench.Latency
