import Mathlib.Control.Monad.Basic
import StoreBench.CommandLine.Request
import StoreBench.Proofs.Config.Faults

/-!
Contract: the configuration that a command line with a file leads to.

The options of a command line replace values of the file.  The file has to pass the check as it
stands, and then once more with the replacements; so a replacement can spoil a file, but not mend
one.

Owns:
- `Config.IsIn`, the files with the text of a configuration;
- what the two checks let pass, and which of them fails;
- when this is the same as a check of the final values only.

Does not own: the reading of the text, or which configurations pass the check.
-/

namespace StoreBench

/-- What is read under the path is the text of the configuration. -/
def Config.IsIn (read : String → Except FileFault (List UInt8)) (path : String)
    (config : Config) : Prop :=
  ∃ text, (read path).bind decodeText = .ok text ∧ (Toml.parse? text).bind ofToml? = some config

theorem Config.IsIn.ofContents_eq {read : String → Except FileFault (List UInt8)} {path : String}
    {config : Config} (within : config.IsIn read path) :
    ofContents path (read path) = (do config.validate; return config) := by
  obtain ⟨text, found, known⟩ := within
  obtain ⟨record, parsed, known⟩ := Option.bind_eq_some_iff.1 known
  rw [ofContents, found]
  simp only [parse, parsed, known]

/-- A file whose text is that of a configuration, of which something is known. -/
theorem Config.exists_isIn (read : String → Except FileFault (List UInt8)) (path : String)
    {α : Type} {text : String} {about : Config → α} {answer : α}
    (found : (read path).bind decodeText = .ok text)
    (known : ((Toml.parse? text).bind ofToml?).map about = some answer) :
    ∃ config : Config, config.IsIn read path ∧ about config = answer := by
  obtain ⟨config, parsed, same⟩ := Option.map_eq_some_iff.1 known
  exact ⟨config, ⟨text, found, parsed⟩, same⟩

namespace CommandLine.Request

variable {read : String → Except FileFault (List UInt8)} {request : Request} {path : String}
  {config : Config}

/-- The two checks one after the other. -/
theorem config_eq (named : request.file = some path) (within : config.IsIn read path) :
    request.config read = (do
      config.validate
      (request.change config).validate
      return request.change config) := by
  rw [Request.config, named]
  simp only [within.ofContents_eq, bind_assoc, pure_bind]

theorem config_eq_ok_iff (named : request.file = some path) (within : config.IsIn read path)
    {result : Config} : request.config read = .ok result ↔
      result = request.change config ∧ config.validate = .ok () ∧
        (request.change config).validate = .ok () := by
  rw [config_eq named within, bind_eq_ok_iff]
  constructor
  · rintro ⟨⟨⟩, first, rest⟩
    obtain ⟨⟨⟩, second, ⟨⟩⟩ := bind_eq_ok_iff.1 rest
    exact ⟨rfl, first, second⟩
  · rintro ⟨rfl, first, second⟩
    exact ⟨(), first, bind_eq_ok_iff.2 ⟨(), second, rfl⟩⟩

theorem config_eq_error_iff (named : request.file = some path) (within : config.IsIn read path)
    {stop : Stop} : request.config read = .error stop ↔
      config.validate = .error stop ∨
        config.validate = .ok () ∧ (request.change config).validate = .error stop := by
  rw [config_eq named within, bind_eq_error_iff]
  constructor
  · rintro (first | ⟨⟨⟩, passes, rest⟩)
    · exact .inl first
    · rcases bind_eq_error_iff.1 rest with second | ⟨_, _, ⟨⟩⟩
      exact .inr ⟨passes, second⟩
  · rintro (first | ⟨passes, second⟩)
    · exact .inl first
    · exact .inr ⟨(), passes, bind_eq_error_iff.2 (.inl second)⟩

/-- What a check of the final values only would answer is the answer just if the file passes by
itself, or fails as they do. -/
theorem config_eq_final_iff (named : request.file = some path) (within : config.IsIn read path) :
    (request.config read = do
        (request.change config).validate
        return request.change config) ↔
      config.validate = .ok () ∨
        ∃ stop, config.validate = .error stop ∧
          (request.change config).validate = .error stop := by
  rw [config_eq named within]
  cases config.validate with
  | ok => exact ⟨fun _ => .inl rfl, fun _ => rfl⟩
  | error first =>
    constructor
    · intro same
      rcases bind_eq_error_iff.1 same.symm with second | ⟨_, _, ⟨⟩⟩
      exact .inr ⟨first, rfl, second⟩
    · rintro (⟨⟨⟩⟩ | ⟨_, ⟨⟩, second⟩)
      rw [second]
      rfl

/-- **A file is checked before its values are replaced, and once more after.**  Let a file hold the
text of a configuration.  The command line leads to that configuration, with the given values in the
place of the file's, exactly if both pass the check; otherwise it ends as the first of the two
checks that fails, with a fault of the configuration.  A check of the final values only would do the
same just if the file passes by itself, or fails as they do. -/
theorem file_checked_before_changes (named : request.file = some path)
    (within : config.IsIn read path) :
    let changed : Config := { config with
      threads := request.threads.getD config.threads
      targetRate := request.targetRate.or config.targetRate
      measurement := request.measurement.getD config.measurement
      warmupOps := request.warmupOps.getD config.warmupOps
      statusInterval := request.statusInterval.getD config.statusInterval }
    (∀ result, request.config read = .ok result ↔
      result = changed ∧ config.validate = .ok () ∧ changed.validate = .ok ()) ∧
    (∀ stop, request.config read = .error stop ↔
      config.validate = .error stop ∨
        config.validate = .ok () ∧ changed.validate = .error stop) ∧
    (∀ stop, request.config read = .error stop →
      stop = .panicked ∨ ∃ fault, stop = .failed (.config fault)) ∧
    ((request.config read = do changed.validate; return changed) ↔
      config.validate = .ok () ∨
        ∃ stop, config.validate = .error stop ∧ changed.validate = .error stop) := by
  refine ⟨fun _ => config_eq_ok_iff named within, fun _ => config_eq_error_iff named within,
    fun stop fails => ?_, config_eq_final_iff named within⟩
  have cause {checked : Config} (bad : checked.validate = .error stop) :
      stop = .panicked ∨ ∃ fault, stop = .failed (.config fault) := by
    rcases Config.isConfig_of_validate bad with broken | ⟨_, rfl, fault, rfl⟩
    · exact .inl broken
    · exact .inr ⟨fault, rfl⟩
  rcases (config_eq_error_iff named within).1 fails with first | ⟨-, second⟩
  · exact cause first
  · exact cause second

/-- A valid file that a replacement spoils: with more workers than operations, some of them have
nothing to do after the warm-up. -/
theorem file_checked_before_changes_spoiled :
    let text := "warmup_ops = 8\n"
    let read : String → Except FileFault (List UInt8) := fun _ => .ok text.toUTF8.toList
    let request : Request := { nothing with
      run := true, file := some "bench.toml", threads := some 1001 }
    ∃ config : Config, config.IsIn read "bench.toml" ∧
      config.validate = .ok () ∧
      request.config read = .error (.failed (.config (.warmupTooLong 0 0))) := by
  intro text read request
  have found : (read "bench.toml").bind Config.decodeText = .ok text := by decide +kernel
  have known : ((Toml.parse? text).bind Config.ofToml?).map
      (fun config => (config.validate, (request.change config).validate)) =
        some (.ok (), .error (.failed (.config (.warmupTooLong 0 0)))) := by
    decide +kernel
  obtain ⟨config, within, checked⟩ := Config.exists_isIn read "bench.toml" found known
  obtain ⟨passes, fails⟩ := Prod.mk.inj checked
  have named : request.file = some "bench.toml" := rfl
  obtain ⟨-, failing, -⟩ := file_checked_before_changes named within
  exact ⟨config, within, passes, (failing _).2 (.inr ⟨passes, fails⟩)⟩

/-- A file that a replacement does not mend, although the final values pass the check. -/
theorem changes_mend_no_file :
    let text := "threads = 0\n"
    let read : String → Except FileFault (List UInt8) := fun _ => .ok text.toUTF8.toList
    let request : Request := { nothing with
      run := true, file := some "bench.toml", threads := some 4 }
    ∃ config : Config, config.IsIn read "bench.toml" ∧
      (request.change config).validate = .ok () ∧
      request.config read = .error (.failed (.config .noThreads)) := by
  intro text read request
  have found : (read "bench.toml").bind Config.decodeText = .ok text := by decide +kernel
  have known : ((Toml.parse? text).bind Config.ofToml?).map
      (fun config => (config.validate, (request.change config).validate)) =
        some (.error (.failed (.config .noThreads)), .ok ()) := by
    decide +kernel
  obtain ⟨config, within, checked⟩ := Config.exists_isIn read "bench.toml" found known
  obtain ⟨fails, passes⟩ := Prod.mk.inj checked
  refine ⟨config, within, passes, ?_⟩
  rw [config_eq rfl within, fails]
  rfl

end CommandLine.Request

end StoreBench
