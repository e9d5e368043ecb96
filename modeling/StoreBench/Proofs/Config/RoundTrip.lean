import StoreBench.Config.Text
import StoreBench.Proofs.Config.WarmupCheck
import StoreBench.Proofs.Mix.RunnableOptions
import StoreBench.Proofs.Toml.Documents

/-!
Contract: a configuration is read back from the file that it is written to.

The table of a configuration names every option, under the same name and as the same kind of value
as it is looked up there; only a limit that is not set is missing, and that is its default.  So
what is read from the table is the configuration, and what is left is the text of the table.

Owns:
- the round trip of options and configurations through tables, and of texts through bytes;
- when a configuration can be written, and the round trip through a text and through a file.

Does not own: the text of a table, and the folder that a file is in.
-/

namespace StoreBench

open Toml (ArePlain IsBare Value)

/-! ## Tables -/

/-- A table can be a record. -/
theorem guard_table {α : Type} (inline : Bool) (entries : List (String × Value))
    (next : Option α) : (do guard (Value.table inline entries).isRecord; next) = next := rfl

theorem Toml.Value.toWord?_word (number : UInt64) : (Value.word number).toWord? = some number := by
  rw [Value.word, Value.toWord?, if_pos]
  · exact congrArg some UInt64.ofNat_toNat
  · exact ⟨Int.natCast_nonneg _, number.toNat_lt⟩

theorem Mix.InsertOrder.ofName?_name (order : InsertOrder) : ofName? order.name = some order := by
  cases order <;> decide

theorem Mix.Options.ofToml?_toToml (options : Options) :
    ofToml? options.toToml = some options := by
  rw [ofToml?, toToml, guard_table]
  simp [Value.partOr, Value.part?, Value.entry?, Value.toWord?_word, Value.toText?,
    Value.toFloat?, Value.toBool?, Value.toChoice?, InsertOrder.ofName?_name]

theorem Store.Options.ofToml?_toToml (options : Options) :
    ofToml? options.toToml = some options := by
  rw [ofToml?, toToml, guard_table]
  simp [Value.partOr, Value.part?, Value.entry?, Value.toText?, Value.toBool?]

namespace Config

variable {config : Config}

/-- **A configuration is read back from its table**, with or without a limit. -/
theorem ofToml?_toToml (config : Config) : ofToml? config.toToml = some config := by
  obtain ⟨threads, measurement, warmupOps, targetRate, statusInterval, mix, store⟩ := config
  rw [ofToml?, toToml, guard_table]
  cases targetRate <;>
    simp [Value.partOr, Value.part?, Value.entry?, Value.toWord?_word, Value.toText?,
      Mix.Options.ofToml?_toToml, Store.Options.ofToml?_toToml]

/-! ## Texts -/

/-- The entries of a table. -/
def entriesOf (table : Value) : List (String × Value) := table.tableEntries?.getD []

/-- The options that stand in no inner table. -/
def ownEntries (config : Config) : List (String × Value) :=
  (entriesOf config.toToml).filter fun entry => entry.2.tableEntries?.isNone

/-- The options of the workload and of the store. -/
def innerTables (config : Config) : List (String × List (String × Value)) :=
  [("workload", entriesOf config.mix.toToml), ("storage", entriesOf config.store.toToml)]

theorem ownEntries_eq (config : Config) :
    config.ownEntries =
      [("threads", .word config.threads), ("measurement_type", .text config.measurement),
        ("warmup_ops", .word config.warmupOps)] ++
      config.targetRate.toList.map (fun rate => ("target_ops_per_sec", .word rate)) ++
      [("status_interval_secs", .word config.statusInterval)] := by
  obtain ⟨_, _, _, _ | _, _, _, _⟩ := config <;> rfl

/-- The table of a configuration is one that can be written line by line. -/
theorem toToml_eq_document (config : Config) :
    config.toToml = Toml.document config.ownEntries config.innerTables := by
  obtain ⟨_, _, _, _ | _, _, _, _⟩ := config <;> rfl

/-! ### Names and kinds -/

theorem isPlain_word (number : UInt64) : (Value.word number).IsPlain :=
  Toml.isPlain_natural number.toNat

theorem arePlain_ownEntries (config : Config) : ArePlain config.ownEntries := by
  have limit : ArePlain
      (config.targetRate.toList.map fun rate => ("target_ops_per_sec", .word rate)) := by
    cases config.targetRate with
    | none => exact .nil
    | some rate => exact .cons (by decide +kernel) (isPlain_word _) .nil
  rw [ownEntries_eq]
  refine .append (.append ?_ limit) (.cons (by decide +kernel) (isPlain_word _) .nil)
  exact .cons (by decide +kernel) (isPlain_word _) <|
    .cons (by decide +kernel) (Toml.isPlain_text _) <|
    .cons (by decide +kernel) (isPlain_word _) .nil

/-- A proportion that passes the check is a finite number. -/
theorem isPlain_proportion {options : Mix.Options} (passes : options.validate = .ok ())
    (operation : Operation) : (Value.float (options.proportionOf operation)).IsPlain := by
  have good := (Mix.validate_eq_ok_iff.1 passes).good operation
  rw [Mix.Options.isBadProportion, Bool.or_eq_false_iff, Bool.not_eq_false'] at good
  exact Toml.isPlain_float good.1

theorem arePlain_workload {options : Mix.Options} (passes : options.validate = .ok ()) :
    ArePlain (entriesOf options.toToml) :=
  .cons (by decide +kernel) (Toml.isPlain_text _) <|
  .cons (by decide +kernel) (isPlain_word _) <|
  .cons (by decide +kernel) (isPlain_word _) <|
  .cons (by decide +kernel) (isPlain_word _) <|
  .cons (by decide +kernel) (isPlain_word _) <|
  .cons (by decide +kernel) (isPlain_proportion passes .read) <|
  .cons (by decide +kernel) (isPlain_proportion passes .update) <|
  .cons (by decide +kernel) (isPlain_proportion passes .insert) <|
  .cons (by decide +kernel) (isPlain_proportion passes .scan) <|
  .cons (by decide +kernel) (isPlain_proportion passes .delete) <|
  .cons (by decide +kernel) (isPlain_word _) <|
  .cons (by decide +kernel) (Toml.isPlain_boolean _) <|
  .cons (by decide +kernel) (Toml.isPlain_boolean _) <|
  .cons (by decide +kernel) (Toml.isPlain_text _) .nil

theorem arePlain_storage (options : Store.Options) : ArePlain (entriesOf options.toToml) :=
  .cons (by decide +kernel) (Toml.isPlain_text _) <|
  .cons (by decide +kernel) (Toml.isPlain_boolean _) .nil

/-! ### Which configurations can be written -/

/-- The whole numbers of a configuration. -/
def words (config : Config) : List UInt64 :=
  [config.threads, config.warmupOps] ++ config.targetRate.toList ++
    [config.statusInterval, config.mix.recordCount, config.mix.operationCount,
      config.mix.fieldCount, config.mix.fieldLength, config.mix.maxScanLength]

theorem isSome_scalarText?_word (number : UInt64) :
    (Toml.scalarText? (.word number)).isSome = true ↔ number.toNat ≤ 0x7FFFFFFFFFFFFFFF := by
  rw [Value.word, Toml.scalarText?, Toml.isWritable]
  split
  · next writable =>
    rw [Bool.and_eq_true, decide_eq_true_iff, decide_eq_true_iff] at writable
    simp only [Option.isSome_some, true_iff]
    omega
  · next large =>
    rw [Bool.and_eq_true, decide_eq_true_iff, decide_eq_true_iff] at large
    simp only [Option.isSome_none, Bool.false_eq_true, false_iff]
    omega

/-- What is no whole number can always be written. -/
theorem isSome_scalarText?_other :
    (∀ value, (Toml.scalarText? (.text value)).isSome = true) ∧
      (∀ value, (Toml.scalarText? (.float value)).isSome = true) ∧
      ∀ value, (Toml.scalarText? (.boolean value)).isSome = true :=
  ⟨fun _ => rfl, fun _ => rfl, fun _ => rfl⟩

theorem isSome_render?_iff :
    (Toml.render? config.toToml).isSome = true ↔
      ∀ word ∈ config.words, word.toNat ≤ 0x7FFFFFFFFFFFFFFF := by
  have single := fun entry member => (config.arePlain_ownEntries entry member).2.single
  rw [toToml_eq_document, Toml.isSome_render?_document single]
  simp only [innerTables, entriesOf, Mix.Options.toToml, Store.Options.toToml,
    Value.tableEntries?, Option.getD_some, List.map_cons, List.map_nil, ownEntries_eq, words,
    List.forall_mem_append, List.forall_mem_cons, List.forall_mem_map, isSome_scalarText?_word,
    isSome_scalarText?_other, List.not_mem_nil, false_imp_iff, implies_true, true_and, and_true,
    and_assoc]

theorem render_eq_ok_iff {text : String} :
    config.render = .ok text ↔ Toml.render? config.toToml = some text := by
  rw [render]
  cases Toml.render? config.toToml with
  | none => exact ⟨nofun, nofun⟩
  | some written => rw [Except.ok.injEq, Option.some.injEq]

/-- A configuration that cannot be written fails in one way. -/
theorem render_of_isNone (unwritten : Toml.render? config.toToml = none) :
    config.render = .error (.config .unserializable) := by
  rw [render, unwritten]

/-! ### The round trip through a text -/

theorem validate_mix (passes : config.validate = .ok ()) : config.mix.validate = .ok () := by
  have passes := checkOptions_of_validate passes
  rw [checkOptions, guard_eq_ok_iff, bind_eq_ok_iff] at passes
  obtain ⟨-, -, -, passes⟩ := passes
  rw [guard_eq_ok_iff, bind_eq_ok_iff] at passes
  obtain ⟨-, ⟨⟩, passes, -⟩ := passes
  exact passes

theorem parse?_render {text : String} (passes : config.validate = .ok ())
    (written : config.render = .ok text) : Toml.parse? text = some config.toToml := by
  rw [render_eq_ok_iff, toToml_eq_document] at written
  rw [toToml_eq_document]
  refine Toml.parse?_document written config.arePlain_ownEntries ?_ ?_ ?_
  · simp only [innerTables, List.forall_mem_cons]
    exact ⟨⟨by decide +kernel, arePlain_workload (validate_mix passes)⟩,
      ⟨by decide +kernel, arePlain_storage _⟩, nofun⟩
  · rw [ownEntries_eq]
    cases config.targetRate with
    | none =>
      show ["threads", "measurement_type", "warmup_ops", "status_interval_secs", "workload",
        "storage"].Nodup
      decide +kernel
    | some rate =>
      show ["threads", "measurement_type", "warmup_ops", "target_ops_per_sec",
        "status_interval_secs", "workload", "storage"].Nodup
      decide +kernel
  · simp only [innerTables, List.forall_mem_cons]
    refine ⟨?_, ?_, nofun⟩
    · show ["table", "record_count", "operation_count", "field_count", "field_length",
        "read_proportion", "update_proportion", "insert_proportion", "scan_proportion",
        "delete_proportion", "max_scan_length", "read_all_fields", "write_all_fields",
        "insert_order"].Nodup
      decide +kernel
    · show ["format", "deserialize_on_read"].Nodup
      decide +kernel

/-- **A configuration that passes its check is read back from its text.** -/
theorem parse_render {text : String} (path : Option String) (passes : config.validate = .ok ())
    (written : config.render = .ok text) : parse path text = .ok config := by
  rw [parse, parse?_render passes written]
  simp only [ofToml?_toToml, passes]
  rfl

/-! ## Files -/

theorem toList_loop (bytes : ByteArray) (start : Nat) (taken : List UInt8) :
    ByteArray.toList.loop bytes start taken =
      taken.reverse ++ bytes.data.toList.drop start := by
  fun_induction ByteArray.toList.loop bytes start taken with
  | case1 start taken inside inductionHypothesis =>
    have here : bytes.get! start = bytes.data.toList[start] := getElem!_pos bytes.data start inside
    rw [inductionHypothesis, List.reverse_cons, List.append_assoc, here, List.singleton_append,
      List.getElem_cons_drop]
  | case2 start taken behind =>
    rw [List.drop_of_length_le, List.append_nil]
    exact Nat.le_of_not_lt behind

/-- What a text is written as is read back as the text. -/
theorem decodeText_toUTF8 (text : String) : decodeText text.toUTF8.toList = .ok text := by
  have whole : (⟨text.toUTF8.toList.toArray⟩ : ByteArray) = text.toUTF8 := by
    rw [ByteArray.toList, toList_loop, List.reverse_nil, List.nil_append, List.drop_zero,
      Array.toArray_toList]
  rw [decodeText, whole, String.fromUTF8?, String.toUTF8_eq_toByteArray, dif_pos text.isValidUTF8]
  rfl

theorem toFile_eq_error_iff {folder : Folder} {path : String} :
    config.toFile folder path = .error (.config .unserializable) ↔
      ∃ word ∈ config.words, 0x7FFFFFFFFFFFFFFF < word.toNat := by
  rw [toFile, bind_eq_error_iff]
  cases written : Toml.render? config.toToml with
  | none =>
    have large := mt isSome_render?_iff.2 (Option.not_isSome_iff_eq_none.2 written)
    simp only [Classical.not_forall, Nat.not_le] at large
    obtain ⟨word, member, large⟩ := large
    exact ⟨fun _ => ⟨word, member, large⟩, fun _ => .inl (render_of_isNone written)⟩
  | some text =>
    have small := isSome_render?_iff.1 (Option.isSome_of_eq_some written)
    rw [render_eq_ok_iff.2 written]
    constructor
    · rintro (failed | ⟨_, _, failed⟩)
      · cases failed
      · split at failed <;> cases failed
    · rintro ⟨word, member, large⟩
      exact absurd (small word member) (Nat.not_le.2 large)

/-- What is written to the file that a path leads to is there to be read. -/
def Keeps (folder : Folder) (path : String) : Prop :=
  ∀ bytes, ∃ later, folder.write path bytes = .ok later ∧ later.read path = .ok bytes

theorem ofFile_of_read {later : Folder} {path text : String}
    (passes : config.validate = .ok ()) (written : config.render = .ok text)
    (found : later.read path = .ok text.toUTF8.toList) : ofFile later path = .ok config := by
  rw [ofFile, ofContents, found]
  simp only [Except.bind, decodeText_toUTF8]
  exact parse_render _ passes written

/-- **A configuration that passes its check is read back from the file that it is written to**,
unless one of its whole numbers needs all 64 bits: then nothing is written. -/
theorem ofFile_toFile (config : Config) (passes : config.validate = .ok ()) :
    (∀ folder path, config.toFile folder path = .error (.config .unserializable) ↔
      ∃ word ∈ config.words, 0x7FFFFFFFFFFFFFFF < word.toNat) ∧
    ∀ folder path, Keeps folder path →
      (∀ word ∈ config.words, word.toNat ≤ 0x7FFFFFFFFFFFFFFF) →
      ∃ later, config.toFile folder path = .ok later ∧ ofFile later path = .ok config := by
  refine ⟨fun folder path => toFile_eq_error_iff, fun folder path keeps small => ?_⟩
  obtain ⟨text, written⟩ := Option.isSome_iff_exists.1 (isSome_render?_iff.2 small)
  rw [← render_eq_ok_iff] at written
  obtain ⟨later, kept, found⟩ := keeps text.toUTF8.toList
  refine ⟨later, ?_, ofFile_of_read passes written found⟩
  rw [toFile, written]
  simp only [bind, Except.bind, kept]

/-- A file with a name that is not too long keeps what is written to it, whatever else is there. -/
theorem keeps_of_target {folder : Folder} {path : String} {spot : Spot}
    (sound : Folder.pathFault? path = none) (leads : Folder.target path = .file spot false)
    (short : Folder.isTooLong spot.name = false) (keeping : spot ≠ .nullDevice) :
    Keeps folder path := by
  intro bytes
  have written : folder.write path bytes =
      .ok ⟨(spot, bytes) :: folder.files.filter (·.1 != spot)⟩ := by
    simp [Folder.write, sound, leads, short, keeping]
  refine ⟨_, written, Folder.read_of_write ?_ written⟩
  rw [leads]
  exact fun same => keeping (Folder.Target.file.inj same).1

theorem keeps_empty : Keeps .empty "c" := by
  have parts : "c".splitOn "/" = ["c"] := by
    rw [String.splitOn, if_neg (by decide)]
    iterate 2 unfold String.splitOnAux
    decide +kernel
  have leads : Folder.target "c" = .file ⟨.around 0, "c"⟩ false := by
    rw [Folder.target, parts]
    decide
  exact keeps_of_target (by decide +kernel) leads (by decide +kernel) (by decide)

/-- No option is the default but the format of the store, of which there is one; so none is filled
in when the file is read. -/
theorem ofFile_toFile_all_changed :
    let config : Config := {
      threads := 4, measurement := "hdrhistogram", warmupOps := 200, targetRate := some 5000,
      statusInterval := 0,
      mix := {
        table := "orders \"b\"", recordCount := 0x7FFFFFFFFFFFFFFF, operationCount := 4000,
        fieldCount := 3, fieldLength := 0, readProportion := 0.1, updateProportion := 0.2,
        insertProportion := 1e-7, scanProportion := 3.5, deleteProportion := 0.25,
        maxScanLength := 7, readAllFields := false, writeAllFields := true,
        insertOrder := .random },
      store := { Store.Options.default with decodesOnRead := true } }
    config.validate = .ok () ∧ Keeps .empty "c" ∧
      (∀ word ∈ config.words, word.toNat ≤ 0x7FFFFFFFFFFFFFFF) ∧
      ∃ later, config.toFile .empty "c" = .ok later ∧ ofFile later "c" = .ok config := by
  intro config
  have passes : config.validate = .ok () := ok_of_toOption (by decide +kernel)
  have small : ∀ word ∈ config.words, word.toNat ≤ 0x7FFFFFFFFFFFFFFF := by
    simp [words, config]
  exact ⟨passes, keeps_empty, small, (ofFile_toFile config passes).2 _ _ keeps_empty small⟩

end Config

end StoreBench
