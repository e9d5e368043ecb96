import StoreBench.Config.Basic
import StoreBench.Folder
import StoreBench.Toml.Printer
import StoreBench.Toml.Reader
import StoreBench.Toml.Record

/-!
Contract: the text of a configuration.

Owns:
- the tables that options and configurations are written as, and what is read from tables;
- `Config.parse`, `Config.render` and the file forms of both;
- `Config.template`, a text with comments that describes the default configuration.
-/

namespace StoreBench

open Toml (Value)

/-! ## Options of the workload -/

namespace Mix

def InsertOrder.name : InsertOrder → String
  | .ordered => "ordered"
  | .random => "random"

def InsertOrder.ofName? (name : String) : Option InsertOrder :=
  [InsertOrder.ordered, .random].find? (·.name == name)

def Options.toToml (options : Options) : Value :=
  .table false [
    ("table", .text options.table),
    ("record_count", .word options.recordCount),
    ("operation_count", .word options.operationCount),
    ("field_count", .word options.fieldCount),
    ("field_length", .word options.fieldLength),
    ("read_proportion", .float options.readProportion),
    ("update_proportion", .float options.updateProportion),
    ("insert_proportion", .float options.insertProportion),
    ("scan_proportion", .float options.scanProportion),
    ("delete_proportion", .float options.deleteProportion),
    ("max_scan_length", .word options.maxScanLength),
    ("read_all_fields", .boolean options.readAllFields),
    ("write_all_fields", .boolean options.writeAllFields),
    ("insert_order", .text options.insertOrder.name)]

def Options.ofToml? (record : Value) : Option Options := do
  guard record.isRecord
  return {
    table := ← record.partOr 0 "table" default.table Value.toText?
    recordCount := ← record.partOr 1 "record_count" default.recordCount Value.toWord?
    operationCount := ← record.partOr 2 "operation_count" default.operationCount Value.toWord?
    fieldCount := ← record.partOr 3 "field_count" default.fieldCount Value.toWord?
    fieldLength := ← record.partOr 4 "field_length" default.fieldLength Value.toWord?
    readProportion := ← record.partOr 5 "read_proportion" default.readProportion Value.toFloat?
    updateProportion :=
      ← record.partOr 6 "update_proportion" default.updateProportion Value.toFloat?
    insertProportion :=
      ← record.partOr 7 "insert_proportion" default.insertProportion Value.toFloat?
    scanProportion := ← record.partOr 8 "scan_proportion" default.scanProportion Value.toFloat?
    deleteProportion :=
      ← record.partOr 9 "delete_proportion" default.deleteProportion Value.toFloat?
    maxScanLength := ← record.partOr 10 "max_scan_length" default.maxScanLength Value.toWord?
    readAllFields := ← record.partOr 11 "read_all_fields" default.readAllFields Value.toBool?
    writeAllFields := ← record.partOr 12 "write_all_fields" default.writeAllFields Value.toBool?
    insertOrder := ← record.partOr 13 "insert_order" default.insertOrder fun value =>
      value.toChoice?.bind InsertOrder.ofName? }

end Mix

/-! ## Options of the store -/

namespace Store

def Options.toToml (options : Options) : Value :=
  .table false [
    ("format", .text options.format),
    ("deserialize_on_read", .boolean options.decodesOnRead)]

def Options.ofToml? (record : Value) : Option Options := do
  guard record.isRecord
  return {
    format := ← record.partOr 0 "format" default.format Value.toText?
    decodesOnRead :=
      ← record.partOr 1 "deserialize_on_read" default.decodesOnRead Value.toBool? }

end Store

/-! ## Configurations -/

namespace Config

/-- The table of a configuration; a limit that is not set is left out. -/
def toToml (config : Config) : Value :=
  .table false <|
    [("threads", .word config.threads),
      ("measurement_type", .text config.measurement),
      ("warmup_ops", .word config.warmupOps)] ++
    (config.targetRate.map fun rate => ("target_ops_per_sec", .word rate)).toList ++
    [("status_interval_secs", .word config.statusInterval),
      ("workload", config.mix.toToml),
      ("storage", config.store.toToml)]

/-- The configuration of a record. -/
def ofToml? (record : Value) : Option Config := do
  guard record.isRecord
  return {
    threads := ← record.partOr 0 "threads" default.threads Value.toWord?
    measurement := ← record.partOr 1 "measurement_type" default.measurement Value.toText?
    warmupOps := ← record.partOr 2 "warmup_ops" default.warmupOps Value.toWord?
    targetRate := ← record.partOr 3 "target_ops_per_sec" none fun value => value.toWord?.map some
    statusInterval := ← record.partOr 4 "status_interval_secs" default.statusInterval Value.toWord?
    mix := ← record.partOr 5 "workload" default.mix Mix.Options.ofToml?
    store := ← record.partOr 6 "storage" default.store Store.Options.ofToml? }

/-- The configuration of a text, found in the file of a path if there is one.  Only a configuration
that passes its check is read. -/
def parse (path : Option String) (text : String) : Except Stop Config :=
  match Toml.parse? text with
  | none => .error (.failed (.config (.unparsable path "malformed text")))
  | some record =>
    match ofToml? record with
    | none => .error (.failed (.config (.unparsable path "unexpected value")))
    | some config => do
      config.validate
      return config

/-- The text of a configuration; fails if a number is too large for one. -/
def render (config : Config) : Except Failure String :=
  match Toml.render? config.toToml with
  | some text => .ok text
  | none => .error (.config .unserializable)

def decodeText (bytes : List UInt8) : Except FileFault String :=
  match String.fromUTF8? ⟨bytes.toArray⟩ with
  | some text => .ok text
  | none => .error .notText

/-- The configuration of what was found under a path. -/
def ofContents (path : String) (contents : Except FileFault (List UInt8)) :
    Except Stop Config :=
  match contents.bind decodeText with
  | .ok text => parse (some path) text
  | .error fault => .error (.failed (.config (.unreadable path fault.text)))

/-- The configuration of a file. -/
def ofFile (folder : Folder) (path : String) : Except Stop Config :=
  ofContents path (folder.read path)

/-- The folder after a configuration was written to a file. -/
def toFile (config : Config) (folder : Folder) (path : String) : Except Failure Folder := do
  let text ← config.render
  match folder.write path text.toUTF8.toList with
  | .ok folder => .ok folder
  | .error fault => .error (.file fault)

/-- A text that describes the default configuration, with a comment on every option. -/
def template : String :=
  String.join <| [
    "# strata-bench configuration",
    "",
    "# Worker threads per phase (default: 1)",
    "threads = 1",
    "",
    "# Latency aggregation: \"basic\" (count/min/max/avg) or \"hdrhistogram\" (adds percentiles)",
    "measurement_type = \"basic\"",
    "",
    "# Warm-up operations across all threads before measurement starts.",
    "# Split evenly per thread; run phase only. 0 disables warm-up.",
    "warmup_ops = 0",
    "",
    "# Aggregate throughput cap in operations per second. Omit for no limit.",
    "# target_ops_per_sec = 10000",
    "",
    "# Seconds between status lines. 0 disables periodic status.",
    "status_interval_secs = 10",
    "",
    "[workload]",
    "table = \"usertable\"",
    "record_count = 1000",
    "operation_count = 1000",
    "field_count = 10",
    "field_length = 100",
    "read_proportion = 0.95",
    "update_proportion = 0.05",
    "insert_proportion = 0.0",
    "scan_proportion = 0.0",
    "delete_proportion = 0.0",
    "max_scan_length = 100",
    "read_all_fields = true",
    "write_all_fields = false",
    "# \"ordered\" or \"random\"",
    "insert_order = \"ordered\"",
    "",
    "[storage]",
    "# Row format: \"single\"",
    "format = \"single\"",
    "deserialize_on_read = false"].map (· ++ "\n")

end Config

end StoreBench
