import StoreBench.Proofs.Config.WarmupCheck
import StoreBench.Proofs.Phase.Accounting
import StoreBench.Proofs.Phase.Results

/-!
Contract: a configuration that passes its check leaves every worker something to measure.

The check compares the warm-up of a worker with its share of the operations, and the run phase
measures what all of them together have behind their warm-ups.  Both are the same question, for
the operations behind the warm-up are the sum of what each worker has left.

Owns: the figures of every report of a phase, and those of a run phase whose configuration has been
checked.

Does not own: that a phase comes to its end, and what its stores and its workload do.
-/

namespace StoreBench.Phase

open Latency

variable {α ω σ : Type} [Aggregate α]

namespace State

variable {config : Config} {setting : Setting ω σ} {state : State α ω σ} {world : σ} {work : ω}
  {meter : Meter α} {now : UInt64}

/-- The workers of a phase that has returned, and in which nothing has failed, have performed their
operations. -/
theorem performed_of_unharmed
    (reaches : Reaches (step setting) (opening setting world work meter now) state)
    (returned : state.returned = true) (unharmed : state.Unharmed) {index : Nat} {worker : Worker}
    (found : state.workers[index]? = some worker) :
    worker.outcome = some (.ok (setting.operations.getD index 0)) := by
  obtain ⟨moves, followed⟩ := exists_follow reaches
  have ended := (Coordinated.of_reaches reaches).all_ended unharmed.1 returned found
  rcases (Recorded.of_follow followed).ended found ended with ⟨performed, _⟩ | ⟨reason, failed, _⟩
  · exact performed
  · exact absurd ⟨reason, failed⟩ (unharmed.2 worker (List.mem_of_getElem? found))

/-- A phase answers a report exactly if it has returned and nothing has failed. -/
theorem exists_report_iff
    (reaches : Reaches (step setting) (opening setting world work meter now) state) :
    (∃ report, state.report? setting = some (.ok report)) ↔
      state.returned = true ∧ state.Unharmed := by
  have coordinated := Coordinated.of_reaches reaches
  constructor
  · rintro ⟨report, answered⟩
    exact ⟨(outcome_of_report answered).1, (coordinated.performed answered).1⟩
  · rintro ⟨returned, unharmed⟩
    refine coordinated.exists_report unharmed.1 returned fun worker member => ?_
    obtain ⟨index, found⟩ := List.getElem?_of_mem member
    exact ⟨_, performed_of_unharmed reaches returned unharmed found⟩

/-- Whatever the stores and the workload did on the way, a report is of all operations of the
phase, and of those behind the warm-up of all workers as measured. -/
theorem figures_of_report (splits : setting.Splits config)
    (reaches : Reaches (step setting) (opening setting world work meter now) state)
    {report : Report} (answered : state.report? setting = some (.ok report)) :
    report.operations = config.phaseOps setting.kind ∧
      report.measured.toNat =
        (config.phaseOps setting.kind).toNat - config.workers.toNat * setting.warmup.toNat := by
  have coordinated := Coordinated.of_reaches reaches
  have size := (InOrder.of_reaches reaches).size
  have returned := (outcome_of_report answered).1
  have unharmed := (coordinated.performed answered).1
  obtain ⟨only, answer, operations, measured, _⟩ :=
    coordinated.exists_report_of_performed splits unharmed.1 returned size
      (performed_of_unharmed reaches returned unharmed)
  rw [answered] at answer
  cases answer
  exact ⟨operations, measured⟩

end State

/-- **A checked run phase measures every worker.**  Take any configuration.  The operations of each
phase are split evenly among its workers, of whom there is at least one, and nothing overflows; the
warm-up of all workers is that of each, and not more than what was asked for.  If there is a
warm-up and the other options pass, the check passes exactly if there are less than 2^60 workers and
their share of the run phase exceeds the warm-up of each, which is the same as every worker keeping
something to measure.  The error tells the operations of the first worker that keeps nothing; and
from 2^60 workers on the check breaks off.  So whenever the check passes, each run phase, with any
workload and any stores that fail wherever they like, answers a report as soon as it has returned
and nothing has failed, and its report has measured at least one operation for each worker. -/
theorem checked_run_measures_every_worker (config : Config) (exits : Bool)
    (workload : Mix.Workload ω) (clients : Store.Clients σ) (world : σ) (work : ω)
    (meter : Meter α) (now : UInt64) :
    let workers := config.workers.toNat
    let warmup := config.warmupPerWorker.toNat
    let operations := config.mix.operationCount.toNat
    let setting := settingOf config .run exits workload clients
    workers = max config.threads.toNat 1 ∧ (∀ kind, config.SplitsEvenly kind) ∧
    warmup = config.warmupOps.toNat / workers ∧
    config.warmupTarget.toNat = warmup * workers ∧ warmup * workers ≤ config.warmupOps.toNat ∧
    (config.checkOptions = .ok () → 0 < config.warmupOps →
      (config.validate = .ok () ↔ workers < 0x1000000000000000 ∧ warmup < operations / workers) ∧
      (warmup < operations / workers ↔
        ∀ own ∈ config.opsPerWorker .run, config.warmupPerWorker < own) ∧
      (∀ short, workers < 0x1000000000000000 →
        (config.opsPerWorker .run).find? (· ≤ config.warmupPerWorker) = some short →
          config.validate =
            .error (.failed (.config (.warmupTooLong config.warmupPerWorker short)))) ∧
      (0x1000000000000000 ≤ workers → config.validate = .error .panicked)) ∧
    (config.validate = .ok () → 0 < config.warmupOps → ∀ state,
      Reaches (State.step setting) (State.opening setting world work meter now) state →
      ((∃ report, state.report? setting = some (.ok report)) ↔
        state.returned = true ∧ state.Unharmed) ∧
      ∀ report, state.report? setting = some (.ok report) →
        report.operations = config.mix.operationCount ∧
        report.measured.toNat = operations - warmup * workers ∧
        workers ≤ report.measured.toNat) := by
  intro workers warmup operations setting
  have warmups : warmup = config.warmupOps.toNat / workers := config.toNat_warmupPerWorker
  refine ⟨config.toNat_workers, config.splitsEvenly, warmups, config.toNat_warmupTarget, ?_, ?_, ?_⟩
  · rw [warmups]
    exact Nat.div_mul_le_self _ _
  · intro passes warms
    refine ⟨?_, ?_, ?_, ?_⟩
    · rw [Config.validate_eq_ok_iff_of_warmup passes warms, Config.isFeasible_iff,
        Config.warmup_lt_share_iff]
    · rw [Config.forall_opsPerWorker_iff, Config.warmup_lt_share_iff]
    · intro short feasible found
      rw [Config.validate_eq_of_warmup passes warms, if_pos (Config.isFeasible_iff.2 feasible),
        Config.checkWarmup_eq, found]
      rfl
    · intro vast
      have infeasible : ¬ config.isFeasible = true :=
        fun feasible => Nat.not_lt.2 vast (Config.isFeasible_iff.1 feasible)
      rw [Config.validate_eq_of_warmup passes warms, if_neg infeasible]
  · intro passes warms state reaches
    refine ⟨State.exists_report_iff reaches, fun report answered => ?_⟩
    obtain ⟨all, measured⟩ := State.figures_of_report
      (splits_settingOf config .run exits workload clients) reaches answered
    have options := Config.checkOptions_of_validate passes
    have enough := ((Config.validate_eq_ok_iff_of_warmup options warms).1 passes).2
    have share : warmup + 1 ≤ operations / workers := Config.warmup_lt_share_iff.1 enough
    have behind : report.measured.toNat = operations - warmup * workers := by
      rw [Nat.mul_comm]
      exact measured
    -- one operation more than the warm-up of each is still within the operations
    have rest : (warmup + 1) * workers ≤ operations :=
      (Nat.le_div_iff_mul_le config.workers_pos).1 share
    rw [Nat.succ_mul] at rest
    refine ⟨all, behind, ?_⟩
    rw [behind]
    omega

/-- Two workers with three and two reads, and a warm-up of three that leaves one for each: three
reads are measured.  With one read less for each, the check finds the second worker short. -/
theorem checked_run_measures_every_worker_of_uneven_split :
    let config := { Config.default with
      threads := 2, warmupOps := 3, mix := { Mix.Options.default with operationCount := 5 } }
    let short := { config with mix := { config.mix with operationCount := 3 } }
    let script := Script.reads []
    let setting := settingOf config .run false script.workload script.clients
    config.checkOptions = .ok () ∧ 0 < config.warmupOps ∧ config.validate = .ok () ∧
    short.checkOptions = .ok () ∧
      short.validate = .error (.failed (.config (.warmupTooLong 1 1))) ∧
    ∃ state : State Summary Progress (List ScriptedStore),
      Reaches (State.step setting)
        (State.opening setting [⟨0, 0⟩, ⟨0, 0⟩] (Progress.opening 2) Meter.empty 0) state ∧
      ∃ report, state.report? setting = some (.ok report) ∧ report.operations = 5 ∧
        report.measured.toNat = 3 ∧ config.workers.toNat = 2 := by
  intro config short script setting
  have options : config.checkOptions = .ok () := by decide +kernel
  have shortOptions : short.checkOptions = .ok () := by decide +kernel
  let schedule : List Move := [.spawn none, .spawn none] ++ Move.turns 0 12 ++ Move.turns 1 28 ++
    Move.turns 0 24 ++ [.join, .join, .stopTime 0, .rouse, .write, .conclude]
  have ran : (follow (State.step setting) schedule
      (State.opening setting [⟨0, 0⟩, ⟨0, 0⟩] (Progress.opening 2) (Meter.empty : Meter Summary)
        0)).any (fun state => state.returned && state.spawnFault.isNone &&
          state.workers.all fun worker => worker.outcome.any Except.isOk) = true := by
    decide +kernel
  obtain ⟨state, followed, facts⟩ := (Option.any_eq_true _ _).1 ran
  simp only [Bool.and_eq_true, Option.isNone_iff_eq_none, List.all_eq_true] at facts
  obtain ⟨⟨returned, unhindered⟩, ended⟩ := facts
  have reaches := reaches_of_follow followed
  have unharmed : state.Unharmed := by
    refine ⟨unhindered, ?_⟩
    rintro worker member ⟨reason, failed⟩
    have well := ended worker member
    rw [failed] at well
    cases well
  have checked (config : Config) := checked_run_measures_every_worker config false script.workload
    script.clients [⟨0, 0⟩, ⟨0, 0⟩] (Progress.opening 2) (Meter.empty : Meter Summary) 0
  obtain ⟨_, _, _, _, _, checks, measures⟩ := checked config
  obtain ⟨_, _, _, _, _, shortChecks, _⟩ := checked short
  have passes := (checks options (by decide)).1.2 (by decide)
  obtain ⟨answers, figures⟩ := measures passes (by decide) state reaches
  obtain ⟨report, answered⟩ := answers.2 ⟨returned, unharmed⟩
  obtain ⟨all, measured, _⟩ := figures report answered
  have one : short.warmupPerWorker = 1 := by decide
  have named := (shortChecks shortOptions (by decide)).2.2.1 1 (by decide) (by decide)
  rw [one] at named
  exact ⟨options, by decide, passes, shortOptions, named, state, reaches, report, answered, all,
    measured.trans (by decide), by decide⟩

/-- One operation for each worker and a warm-up that rounds down to none leave every worker its
operation to measure; but the workers are 2^60, and the check breaks off. -/
theorem check_breaks_off_for_too_many_workers :
    let config := { Config.default with
      threads := 1152921504606846976, warmupOps := 1,
      mix := { Mix.Options.default with operationCount := 1152921504606846976 } }
    config.checkOptions = .ok () ∧ 0 < config.warmupOps ∧
      config.warmupPerWorker.toNat < config.mix.operationCount.toNat / config.workers.toNat ∧
      config.validate = .error .panicked := by
  intro config
  have options : config.checkOptions = .ok () := by decide +kernel
  have infeasible : config.isFeasible = false := by decide
  refine ⟨options, by decide, by decide, ?_⟩
  rw [Config.validate_eq_of_warmup options (by decide), infeasible]
  rfl

end StoreBench.Phase
