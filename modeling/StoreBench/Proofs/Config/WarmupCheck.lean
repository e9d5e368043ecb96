import StoreBench.Proofs.Config.Split
import StoreBench.Proofs.Outcome

/-!
Contract: what the check of the warm-up looks for, and when it cannot.

The check goes through the operations of all workers for one that has none left behind its
warm-up.  It is enough to compare the share of a worker with its warm-up; but the list of all
workers has to be made first, and no memory holds it if they are too many.

Owns: the check of the warm-up and that of the whole configuration, in terms of the share.

Does not own: the checks that come before.
-/

namespace StoreBench.Config

variable {config : Config}

/-- The check of the warm-up answers for the first worker that has nothing left to do. -/
theorem checkWarmup_eq (config : Config) :
    config.checkWarmup =
      match (config.opsPerWorker .run).find? (· ≤ config.warmupPerWorker) with
      | some short => .error (.config (.warmupTooLong config.warmupPerWorker short))
      | none => .ok () := by
  rw [find?_opsPerWorker, checkWarmup]
  cases (config.spread .run).find? (· ≤ config.warmupPerWorker) <;> rfl

theorem checkWarmup_eq_ok_iff :
    config.checkWarmup = .ok () ↔ config.warmupPerWorker < config.share .run := by
  rw [← forall_opsPerWorker_iff, checkWarmup_eq]
  cases short : (config.opsPerWorker .run).find? (· ≤ config.warmupPerWorker) with
  | none =>
    refine ⟨fun _ operations member => ?_, fun _ => rfl⟩
    have long := List.find?_eq_none.1 short operations member
    exact UInt64.not_le.1 (by simpa using long)
  | some few =>
    refine ⟨nofun, fun all => ?_⟩
    have long := all few (List.mem_of_find?_eq_some short)
    have within := List.find?_some short
    exact absurd (by simpa using within) (UInt64.not_le.2 long)

/-- Once the options have passed, a warm-up is checked if a memory may hold the operations of all
workers. -/
theorem validate_eq_of_warmup (passes : config.checkOptions = .ok ())
    (warms : 0 < config.warmupOps) :
    config.validate =
      if config.isFeasible then config.checkWarmup.mapError Stop.failed
      else .error .panicked := by
  rw [validate, passes]
  simp only [warms, if_true]
  cases config.isFeasible <;> rfl

theorem checkOptions_of_validate (passes : config.validate = .ok ()) :
    config.checkOptions = .ok () := by
  rw [validate] at passes
  obtain ⟨⟨⟩, options, _⟩ := bind_eq_ok_iff.1 passes
  cases checked : config.checkOptions with
  | ok => rfl
  | error fault =>
    rw [checked] at options
    cases options

theorem validate_eq_ok_iff_of_warmup (passes : config.checkOptions = .ok ())
    (warms : 0 < config.warmupOps) :
    config.validate = .ok () ↔
      config.isFeasible = true ∧ config.warmupPerWorker < config.share .run := by
  rw [validate_eq_of_warmup passes warms, ← checkWarmup_eq_ok_iff]
  cases config.isFeasible with
  | false => exact ⟨nofun, nofun⟩
  | true =>
    cases config.checkWarmup with
    | ok => exact ⟨fun _ => ⟨rfl, rfl⟩, fun _ => rfl⟩
    | error fault => exact ⟨nofun, nofun⟩

/-- A memory may hold the operations of all workers if there are less than 2^60. -/
theorem isFeasible_iff : config.isFeasible = true ↔ config.workers.toNat < 0x1000000000000000 := by
  rw [isFeasible, canHold, decide_eq_true_iff]
  omega

theorem toNat_warmupPerWorker (config : Config) :
    config.warmupPerWorker.toNat = config.warmupOps.toNat / config.workers.toNat :=
  UInt64.toNat_div _ _

/-- What the share of a worker of the run phase has to exceed. -/
theorem warmup_lt_share_iff :
    config.warmupPerWorker < config.share .run ↔
      config.warmupPerWorker.toNat <
        config.mix.operationCount.toNat / config.workers.toNat := by
  rw [UInt64.lt_iff_toNat_lt, share, UInt64.toNat_div]
  rfl

end StoreBench.Config
