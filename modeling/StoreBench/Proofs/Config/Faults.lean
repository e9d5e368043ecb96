import StoreBench.Config.Basic
import StoreBench.Proofs.Outcome

/-!
Contract: what the check of a configuration fails with.

Owns: that every failure of the check is about the configuration, check by check.

Does not own: which configurations pass.
-/

namespace StoreBench

variable {failure : Failure}

/-- The failure is about a configuration. -/
def Failure.IsConfig (failure : Failure) : Prop := ∃ fault, failure = .config fault

theorem Mix.Options.isConfig_of_validate {options : Options}
    (fails : options.validate = .error failure) : failure.IsConfig := by
  unfold validate at fails
  cases faulty : options.proportions.find? (isBadProportion ·.2) with
  | some entry =>
    rw [faulty] at fails
    cases fails
    exact ⟨_, rfl⟩
  | none =>
    rw [faulty] at fails
    dsimp only at fails
    rw [guard_eq_error_iff, guard_eq_error_iff, guard_eq_error_iff, check_eq_error_iff] at fails
    rcases fails with ⟨-, rfl⟩ | ⟨-, ⟨-, rfl⟩ | ⟨-, ⟨-, rfl⟩ | ⟨-, -, rfl⟩⟩⟩
    · exact ⟨_, rfl⟩
    · exact ⟨_, rfl⟩
    · exact ⟨_, rfl⟩
    · exact ⟨_, rfl⟩

theorem Store.Format.isConfig_of_named {text : String} (fails : named text = .error failure) :
    failure.IsConfig := by
  rw [named] at fails
  split at fails
  · cases fails
  · cases fails
    exact ⟨_, rfl⟩

namespace Config

variable {config : Config}

theorem isConfig_of_strategy (fails : config.strategy = .error failure) : failure.IsConfig := by
  rw [strategy] at fails
  split at fails
  · cases fails
  · cases fails
    exact ⟨_, rfl⟩

theorem isConfig_of_checkOptions (fails : config.checkOptions = .error failure) :
    failure.IsConfig := by
  unfold checkOptions at fails
  dsimp only at fails
  rw [guard_eq_error_iff, bind_eq_error_iff, discard_eq_error_iff] at fails
  rcases fails with ⟨-, rfl⟩ | ⟨-, unknown | ⟨_, -, fails⟩⟩
  · exact ⟨_, rfl⟩
  · exact isConfig_of_strategy unknown
  · rw [guard_eq_error_iff, bind_eq_error_iff] at fails
    rcases fails with ⟨-, rfl⟩ | ⟨-, bad | ⟨_, -, unknown⟩⟩
    · exact ⟨_, rfl⟩
    · exact Mix.Options.isConfig_of_validate bad
    · exact Store.Format.isConfig_of_named (discard_eq_error_iff.1 unknown)

theorem isConfig_of_checkWarmup (fails : config.checkWarmup = .error failure) :
    failure.IsConfig := by
  rw [checkWarmup] at fails
  split at fails
  · cases fails
    exact ⟨_, rfl⟩
  · cases fails

/-- A check that fails says what is wrong with the configuration, or breaks off. -/
theorem isConfig_of_validate {stop : Stop} (fails : config.validate = .error stop) :
    stop = .panicked ∨ ∃ failure : Failure, stop = .failed failure ∧ failure.IsConfig := by
  rw [validate] at fails
  rcases bind_eq_error_iff.1 fails with bad | ⟨_, -, fails⟩
  · obtain ⟨failure, failed, rfl⟩ := mapError_eq_error_iff.1 bad
    exact .inr ⟨failure, rfl, isConfig_of_checkOptions failed⟩
  · split at fails
    · split at fails
      · obtain ⟨failure, failed, rfl⟩ := mapError_eq_error_iff.1 fails
        exact .inr ⟨failure, rfl, isConfig_of_checkWarmup failed⟩
      · cases fails
        exact .inl rfl
    · cases fails

end Config

end StoreBench
