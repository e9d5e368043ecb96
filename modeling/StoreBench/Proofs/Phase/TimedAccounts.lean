import StoreBench.Proofs.Phase.CallerHistories

/-!
Contract: what the calls of all callers add up to.

Owns:
- the numbers of warm-up calls and measured calls among calls that have claimed their numbers;
- the account of callers that have ended all their calls: replies, store, tracker and meter.
-/

namespace StoreBench.Phase

open Latency

theorem totals_eventsOf {α : Type} [Aggregate α] [Aggregate.Counts α] (meter : Meter α)
    (target : UInt64) (claims : List TimedCall) :
    (meter.applyAll (eventsOf target claims)).warmupTotal =
        meter.warmupTotal + min target.toNat claims.length ∧
      (meter.applyAll (eventsOf target claims)).measuredTotal =
        meter.measuredTotal + (claims.length - target.toNat) := by
  induction claims using List.reverseRecOn with
  | nil => simp [eventsOf, Meter.applyAll]
  | append_singleton claims call inductionHypothesis =>
    obtain ⟨warmups, measured⟩ := inductionHypothesis
    rw [eventsOf_concat, Meter.applyAll_concat, List.length_append, List.length_singleton]
    obtain early | late := Nat.lt_or_ge claims.length target.toNat
    case inl =>
      rw [TimedCall.event, decide_eq_true early]
      exact ⟨(Meter.warmupTotal_recordWarmup ..).trans (by rw [warmups]; omega),
        measured.trans (by omega)⟩
    case inr =>
      rw [TimedCall.event, decide_eq_false (Nat.not_lt_of_le late)]
      exact ⟨warmups.trans (by omega),
        (Meter.measuredTotal_record ..).trans (by rw [measured]; omega)⟩

theorem Answer.slot_eq (answer : Answer) :
    answer.slot = ⟨answer.request.call.operation, !answer.status.isOk⟩ := by
  rw [slot, Operation.slot, Slot.forStatus]
  cases answer.status <;> rfl

theorem elapsedBetween_eq (before after : UInt64) :
    elapsedBetween before after = UInt64.ofNat (after.toNat - before.toNat) := by
  rw [elapsedBetween]
  split
  case isTrue ordered =>
    rw [← UInt64.toNat_sub_of_le _ _ ordered, UInt64.ofNat_toNat]
  case isFalse reversed =>
    rw [UInt64.le_iff_toNat_le] at reversed
    rw [Nat.sub_eq_zero_of_le (by omega)]
    rfl

/-- **Timing is transparent, and it keeps account.**  Callers that make any data calls at the same
time, through any clients, can always end their calls.  Once they have, the store has replied to all
of them and been left as without the timing, and every caller has got these replies.  The calls that
were answered with a status have claimed their numbers, each once; in the order of the numbers the
first ones are counted as warm-up, and each later one is measured once, in the slot of its operation
and outcome, with the time between the readings of the clock on both sides of it.  The calls that
failed are neither numbered nor filed. -/
theorem timed_calls_accounted {σ : Type} (strategy : Strategy) (clients : Store.Clients σ)
    (world : σ) (target : UInt64) (meter : Meter strategy.Cell) (count : Nat)
    {moves : List CallerMove} {finish : Callers strategy.Cell σ}
    (followed : follow (Callers.step clients) moves
      (Callers.opening world target meter count) = some finish) :
    let history := (Callers.opening world target meter count).notesAlong clients moves
    let calls := served history
    let claims := claimed history
    let slot (call : TimedCall) : Slot := ⟨call.request.call.operation, !call.status.isOk⟩
    let latency (call : TimedCall) : UInt64 := UInt64.ofNat (call.after.toNat - call.before.toNat)
    (∃ later quiet,
      follow (Callers.step clients) later finish = some quiet ∧ quiet.isQuiet = true) ∧
    (finish.isQuiet = true →
      serveAll clients (calls.map Exchange.request) world =
        (calls.map Exchange.reply, finish.timed.world) ∧
      (∀ caller, ∃ finished : List FinishedCall,
        historyOf caller history = finished.flatMap (·.notes caller)) ∧
      (claims.map TimedCall.toAnswer).Perm (calls.filterMap Exchange.answer?) ∧
      finish.timed.tracker = ⟨if 0 < target then claims.length else 0, target⟩ ∧
      finish.timed.meter = meter.applyAll
        ((claims.take target.toNat).map (fun call => .warmup (slot call)) ++
          (claims.drop target.toNat).map fun call => .measured (slot call) (latency call)) ∧
      finish.timed.meter.warmupTotal = meter.warmupTotal + min target.toNat claims.length ∧
      finish.timed.meter.measuredTotal = meter.measuredTotal + (claims.length - target.toNat) ∧
      ∃ rest, finish.timed.meter.statusText =
        toString (meter.measuredTotal + meter.warmupTotal +
          (calls.filterMap Exchange.answer?).length) ++ " operations;" ++ rest) := by
  intro history calls claims slot latency
  refine ⟨Callers.exists_quiet clients finish, fun quiet => ?_⟩
  have accounted := Callers.Accounted.of_follow followed
  have nothingUnclaimed : finish.callers.flatMap Caller.unclaimed = [] :=
    Callers.flatMap_eq_nil_of_isQuiet quiet rfl
  have nothingDue : finish.callers.flatMap Caller.due = [] :=
    Callers.flatMap_eq_nil_of_isQuiet quiet rfl
  have numbered : (calls.filterMap Exchange.answer?).Perm (claims.map TimedCall.toAnswer) := by
    simpa only [nothingUnclaimed, List.append_nil] using accounted.claims
  have meter_eq : finish.timed.meter = meter.applyAll (eventsOf target claims) := by
    have filed := accounted.meter
    rw [nothingDue] at filed
    exact filed
  obtain ⟨warmups, measured⟩ := totals_eventsOf meter target claims
  rw [← meter_eq] at warmups measured
  refine ⟨accounted.world, fun caller => ?returns, numbered.symm, accounted.tracker, ?files,
    warmups, measured, ?status⟩
  case returns =>
    obtain ⟨finished, whole⟩ := accounted.goesOn caller
    rw [Callers.pending_eq_nil_of_isQuiet quiet, List.append_nil] at whole
    exact ⟨finished, whole⟩
  case files =>
    rw [meter_eq, eventsOf]
    simp only [Answer.slot_eq, TimedCall.elapsed, elapsedBetween_eq, slot, latency]
  case status =>
    obtain ⟨rest, text⟩ := finish.timed.meter.statusText_eq
    have sum : finish.timed.meter.measuredTotal + finish.timed.meter.warmupTotal =
        meter.measuredTotal + meter.warmupTotal + (calls.filterMap Exchange.answer?).length := by
      rw [numbered.length_eq, List.length_map, warmups, measured]
      omega
    exact ⟨rest, by rw [text, sum]⟩

/-- The second caller is served first, but the first caller claims the only number of the warm-up.
The third caller fails, and then the clock runs back during its next call. -/
theorem timed_calls_accounted_of_three_callers :
    let clients : Store.Clients Nat := {
      init := fun _ world => (.ok (), world)
      cleanup := fun _ world => (.ok (), world)
      call := fun client _ world =>
        (⟨if client = 2 then .error (.store .workerPanicked)
            else .ok (if client = 1 then .notFound else .ok), [], []⟩, world + 1) }
    let moves : List CallerMove := [
      .begin 0 ⟨0, .read "t" "a" none⟩ 10, .begin 1 ⟨1, .update "t" "b" []⟩ 11,
      .begin 2 ⟨2, .delete "t" "c"⟩ 12, .proceed 1 13, .proceed 0 14, .proceed 2 15,
      .proceed 1 20, .proceed 0 25, .proceed 0 26, .proceed 1 27, .proceed 1 28, .proceed 0 29,
      .begin 2 ⟨0, .insert "t" "c" []⟩ 30, .proceed 2 31, .proceed 2 28, .proceed 2 32,
      .proceed 2 33]
    let start : Callers Strategy.basic.Cell Nat := Callers.opening 0 1 Meter.empty 3
    ∃ finish, follow (Callers.step clients) moves start = some finish ∧ finish.isQuiet = true ∧
      finish.timed.world = 4 ∧ finish.timed.tracker.calls = 3 ∧
      finish.timed.meter = Meter.empty.applyAll [.warmup ⟨.read, false⟩,
        .measured ⟨.update, true⟩ 9, .measured ⟨.insert, false⟩ 0] := by
  intro clients moves start
  have quiet : (follow (Callers.step clients) moves start).any Callers.isQuiet = true := by
    decide +kernel
  obtain ⟨finish, followed, ended⟩ := (Option.any_eq_true _ _).1 quiet
  obtain ⟨-, account⟩ := timed_calls_accounted .basic clients 0 1 Meter.empty 3 followed
  obtain ⟨world, -, -, tracker, files, -, -, -⟩ := account ended
  refine ⟨finish, followed, ended, ?_, ?_, ?_⟩
  · exact (congrArg Prod.snd world).symm
  · rw [tracker]
    rfl
  · exact files

end StoreBench.Phase
