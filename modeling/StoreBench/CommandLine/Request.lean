import StoreBench.CommandLine.Choice
import StoreBench.Config.Text

/-!
Contract: what a command line asks for.

Owns:
- `Request`, and the configuration that it leads to;
- `Fault` and `NumberFault`, the faults of a command line.

Does not own: the reading of arguments, which is in `CommandLine.Arguments`.
-/

namespace StoreBench.CommandLine

/-- Why a text is not a whole number of 64 bits. -/
inductive NumberFault
  | empty
  | badDigit
  | tooLarge
  deriving DecidableEq, Repr

def NumberFault.text : NumberFault → String
  | .empty => "cannot parse integer from empty string"
  | .badDigit => "invalid digit found in string"
  | .tooLarge => "number too large to fit in target type"

/-- Why arguments are not a request. -/
inductive Fault
  /-- An argument that means nothing. -/
  | unknownArgument (argument : String)
  /-- An option without its value. -/
  | missingValue (setting : Setting)
  | badValue (setting : Setting) (value : String) (reason : NumberFault)
  /-- An option that is given twice. -/
  | repeated (choice : Choice)
  /-- A value for an option that takes none. -/
  | unneededValue (switch : Switch) (value : String)
  /-- No phase to run. -/
  | noPhase
  /-- The request to explain the options, which leaves everything else undone. -/
  | help
  deriving DecidableEq, Repr

/-- What is asked for: phases, the form of the account, and changes to a configuration. -/
structure Request where
  load : Bool
  run : Bool
  json : Bool
  /-- The path of a configuration file. -/
  file : Option String
  threads : Option UInt64
  targetRate : Option UInt64
  measurement : Option String
  warmupOps : Option UInt64
  statusInterval : Option UInt64
  deriving DecidableEq, Repr

namespace Request

def nothing : Request := ⟨false, false, false, none, none, none, none, none, none⟩

/-- The phases in the order in which they run, whatever the order of the arguments. -/
def phases (request : Request) : List Phase.Kind :=
  (if request.load then [.load] else []) ++ (if request.run then [.run] else [])

/-- A configuration with the requested changes. -/
def change (request : Request) (config : Config) : Config :=
  { config with
    threads := request.threads.getD config.threads
    targetRate := request.targetRate.or config.targetRate
    measurement := request.measurement.getD config.measurement
    warmupOps := request.warmupOps.getD config.warmupOps
    statusInterval := request.statusInterval.getD config.statusInterval }

/-- The configuration: that of the file, or the default one, with the requested changes.  The file
has to pass the check by itself, and the result once more. -/
def config (request : Request) (read : String → Except FileFault (List UInt8)) :
    Except Stop Config := do
  let start ← match request.file with
    | some path => Config.ofContents path (read path)
    | none => pure Config.default
  let changed := request.change start
  changed.validate
  return changed

end Request

end StoreBench.CommandLine
