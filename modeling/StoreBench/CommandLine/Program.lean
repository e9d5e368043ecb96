import StoreBench.CommandLine.Arguments
import StoreBench.Keys.Shuffle
import StoreBench.Latency.StatusText
import StoreBench.Phase.Finished
import StoreBench.Phase.Session

/-!
Contract: the benchmark as a program.

Owns:
- `Ending`, how the program ends, with what it writes;
- `benchmark`, the requested phases one after the other;
- `execute`, the program from its arguments to its ending.
-/

namespace StoreBench.CommandLine

/-- How the program ends. -/
inductive Ending
  /-- Its arguments are no request. -/
  | refused (fault : Fault)
  /-- Something failed, and there is no account. -/
  | failed (fault : Failure)
  /-- It broke off. -/
  | panicked
  /-- All phases are done. -/
  | finished (asJson : Bool) (phases : List Phase.Finished)

/-- A short explanation of the options. -/
def usage : String :=
  "Usage: strata-bench --load|--run [--config FILE] [--threads N] [--target OPS] " ++
    "[--measurement TYPE] [--warmup N] [--status-interval SECS] [--json]"

def Fault.text : Fault → String
  | .unknownArgument argument => s!"error: unexpected argument '{argument}' found"
  | .missingValue setting =>
    s!"error: a value is required for '{setting.shown}' but none was supplied"
  | .badValue setting value reason =>
    s!"error: invalid value '{value}' for '{setting.shown}': {reason.text}"
  | .repeated choice => s!"error: the argument '{choice.shown}' cannot be used multiple times"
  | .unneededValue switch value =>
    s!"error: unexpected value '{value}' for '{switch.shown}' found; no more were expected"
  | .noPhase =>
    "error: the following required arguments were not provided:\n  <--load|--run>"
  | .help => usage

namespace Ending

def exitStatus : Ending → Nat
  | .refused .help => 0
  | .refused _ => 2
  | .failed _ => 1
  | .panicked => 101
  | .finished .. => 0

/-- What is written as the answer. -/
def output : Ending → Option String
  | .refused .help => some usage
  | .finished asJson phases => some (Phase.Finished.account asJson phases)
  | _ => none

/-- What is written as a complaint. -/
def complaint : Ending → Option String
  | .refused .help => none
  | .refused fault => some (fault.text ++ "\n\n" ++ usage)
  | .failed fault => some ("strata-bench: " ++ fault.message)
  | .panicked => some "the benchmark broke off"
  | .finished .. => none

end Ending

section

variable {α : Type} [Latency.Aggregate α]

/-- Runs phases one after the other up to the first that fails. -/
def runPhases (seed : UInt64) (config : Config) :
    List Phase.Kind → Phase.Session α → Except Failure (List Phase.Finished)
  | [], _ => .ok []
  | kind :: rest, session =>
    match session.runPhase seed config true kind with
    | (_, some fault, _) => .error fault
    | (some (.error fault), none, _) => .error fault
    | (none, none, _) => .error (.store .workerPanicked)
    | (some (.ok report), none, later) => do
      let others ← runPhases seed config rest later
      return ⟨report, later.meter.statusText⟩ :: others

end

/-- Runs the phases of a benchmark on a store of its own.  It breaks off if the operations of all
workers are too many to hold, before the first phase and so instead of it. -/
def benchmark (seed : UInt64) (config : Config) (phases : List Phase.Kind) :
    Except Stop (List Phase.Finished) := do
  let strategy ← config.strategy.mapError Stop.failed
  let work ← Mix.Transactions.create (Keys.shuffle (Keys.WordStream.ofSeed seed)) config.mix
  unless config.isFeasible do throw .panicked
  let session : Phase.Session strategy.Cell := .opening work
  (runPhases seed config phases session).mapError Stop.failed

/-- The program: reads its arguments, reads the configuration, runs the phases. -/
def execute (seed : UInt64) (read : String → Except FileFault (List UInt8))
    (arguments : List String) : Ending :=
  match Request.ofArguments arguments with
  | .error fault => .refused fault
  | .ok request =>
    match request.config read >>= (benchmark seed · request.phases) with
    | .ok phases => .finished request.json phases
    | .error (.failed fault) => .failed fault
    | .error .panicked => .panicked

end StoreBench.CommandLine
