import StoreBench.Text.Utf8

/-!
Contract: everything that can go wrong, by cause, and the wording of each cause.

Owns:
- the causes, grouped into configuration, store, data, file system and worker
  failures;
- `Failure.message`, the only place that words them;
- `Failure.inWorker`, which names the worker that a failure ended;
- `Stop`, the two ways in which an activity ends early.
-/

namespace StoreBench

/-- A configuration that cannot be used. -/
inductive ConfigFault
  | noThreads
  | unknownMeasurement (name : String)
  /-- A throughput cap of zero operations per second. -/
  | zeroTarget
  /-- A proportion that is negative or not a finite number, as it prints. -/
  | badProportion (option shown : String)
  /-- Every proportion is zero, so no transaction could be chosen. -/
  | noProportion
  | noFields
  /-- Transactions on existing records, and no records. -/
  | noRecords
  /-- Scans of at most zero rows. -/
  | noScanLength
  | unknownFormat (name : String)
  /-- Some thread has no operation left after its share of the warm-up. -/
  | warmupTooLong (warmup operations : UInt64)
  /-- The configuration file could not be read. -/
  | unreadable (path reason : String)
  /-- The configuration text is not a configuration; read from a file if `path` is given. -/
  | unparsable (path : Option String) (reason : String)
  /-- An option is too large for the configuration format. -/
  | unserializable
  /-- Any other configuration fault, in its own words. -/
  | custom (text : String)
  deriving DecidableEq, Repr

/-- A store that is misused or gives up. -/
inductive StoreFault
  /-- A data call on a client that was not opened. -/
  | usedBeforeInit
  /-- A second opening of a client. -/
  | initializedTwice
  /-- A closing of a client that was not opened. -/
  | cleanedUpBeforeInit
  /-- One release more than there were acquisitions. -/
  | unmatchedRelease (name : String)
  /-- A name or value whose length does not fit the row format. -/
  | fieldTooLong (bytes : Nat)
  /-- A worker stopped without an answer. -/
  | workerPanicked
  /-- Any other store fault, in its own words. -/
  | custom (text : String)
  deriving DecidableEq, Repr

/-- Stored bytes that are not a row. -/
inductive DataFault
  /-- The data ends inside a length. -/
  | truncatedLength
  /-- The data ends before the announced number of bytes. -/
  | truncatedChunk (bytes : Nat)
  /-- A field name is not text. -/
  | nameNotText (fault : Text.Utf8.Fault)
  /-- Any other data fault, in its own words. -/
  | custom (text : String)
  deriving DecidableEq, Repr

/-- A file operation that the operating system refuses. -/
inductive FileFault
  | notFound
  | notDirectory
  | isDirectory
  | nameTooLong
  /-- A name with a character that ends names. -/
  | nulInName
  /-- A file that should hold text and does not. -/
  | notText
  /-- Any other file fault, in its own words. -/
  | custom (text : String)
  deriving DecidableEq, Repr

/-- What a phase, a store or a configuration can fail with. -/
inductive Failure
  | config (fault : ConfigFault)
  | store (fault : StoreFault)
  | data (fault : DataFault)
  | file (fault : FileFault)
  /-- A failure that ended the worker numbered `thread`. -/
  | worker (thread : Nat) (source : Failure)
  deriving DecidableEq, Repr

namespace ConfigFault

def text : ConfigFault → String
  | .noThreads => "threads must be >= 1"
  | .unknownMeasurement name =>
      s!"unknown measurement type '{name}'. Expected \"basic\" or \"hdrhistogram\""
  | .zeroTarget => "target_ops_per_sec must be >= 1; omit it to disable throttling"
  | .badProportion option shown => s!"{option} must be >= 0, got {shown}"
  | .noProportion => "all operation proportions are zero"
  | .noFields => "field_count must be >= 1"
  | .noRecords =>
      "record_count must be >= 1 when reads, updates, scans or deletes are enabled"
  | .noScanLength => "max_scan_length must be >= 1 when scans are enabled"
  | .unknownFormat name => s!"unknown row format '{name}'"
  | .warmupTooLong warmup operations =>
      s!"warmup_ops gives {warmup} warm-up operations per thread, " ++
        s!"but a thread only runs {operations} operations"
  | .unreadable path reason => s!"failed to read config file '{path}': {reason}"
  | .unparsable none reason => s!"failed to parse config: {reason}"
  | .unparsable (some path) reason => s!"failed to parse config file '{path}': {reason}"
  | .unserializable => "failed to serialize config: out-of-range value for u64 type"
  | .custom text => text

end ConfigFault

namespace StoreFault

def text : StoreFault → String
  | .usedBeforeInit => "memory backend used before init"
  | .initializedTwice => "memory backend initialized twice"
  | .cleanedUpBeforeInit => "memory backend cleaned up before init"
  | .unmatchedRelease name => s!"release of '{name}' without matching acquire"
  | .fieldTooLong bytes => s!"field of {bytes} bytes exceeds u32"
  | .workerPanicked => "worker thread panicked"
  | .custom text => text

end StoreFault

namespace DataFault

def text : DataFault → String
  | .truncatedLength => "truncated length prefix"
  | .truncatedChunk bytes => s!"truncated chunk of {bytes} bytes"
  | .nameNotText fault => "field name not UTF-8: " ++ fault.message
  | .custom text => text

end DataFault

namespace FileFault

def text : FileFault → String
  | .notFound => "No such file or directory (os error 2)"
  | .notDirectory => "Not a directory (os error 20)"
  | .isDirectory => "Is a directory (os error 21)"
  | .nameTooLong => "File name too long (os error 36)"
  | .nulInName => "file name contained an unexpected NUL byte"
  | .notText => "stream did not contain valid UTF-8"
  | .custom text => text

end FileFault

namespace Failure

/-- The wording of a failure: its group, then its cause. -/
def message : Failure → String
  | .config fault => "Configuration error: " ++ fault.text
  | .store fault => "Backend error: " ++ fault.text
  | .data fault => "Data corruption: " ++ fault.text
  | .file fault => "I/O error: " ++ fault.text
  | .worker thread source => s!"Worker thread {thread} failed: " ++ source.message

/-- The failure of the worker numbered `thread`.  A failure that already names a worker
keeps that name. -/
def inWorker (thread : Nat) : Failure → Failure
  | .worker inner source => .worker inner source
  | other => .worker thread other

/-- Naming a worker a second time changes nothing. -/
theorem inWorker_inWorker (first second : Nat) (failure : Failure) :
    (failure.inWorker first).inWorker second = failure.inWorker first := by
  cases failure <;> rfl

end Failure

/-- How an activity ends before it is complete. -/
inductive Stop
  /-- It answers a failure. -/
  | failed (fault : Failure)
  /-- It breaks off without an answer. -/
  | panicked
  deriving DecidableEq, Repr

end StoreBench
