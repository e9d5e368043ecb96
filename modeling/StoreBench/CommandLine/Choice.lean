/-!
Contract: the options of the command line.

Owns: `Switch`, `Setting` and `Choice`, with the names and letters that select them and the way in
which a complaint shows them.
-/

namespace StoreBench.CommandLine

inductive Switch
  | load
  | run
  | json
  | help
  deriving DecidableEq, Repr

inductive Setting
  | file
  | threads
  | targetRate
  | measurement
  | warmupOps
  | statusInterval
  deriving DecidableEq, Repr

inductive Choice
  | switch (switch : Switch)
  | setting (setting : Setting)
  deriving DecidableEq, Repr

def Choice.ofName? : String → Option Choice
  | "load" => some (.switch .load)
  | "run" => some (.switch .run)
  | "json" => some (.switch .json)
  | "help" => some (.switch .help)
  | "config" => some (.setting .file)
  | "threads" => some (.setting .threads)
  | "target" => some (.setting .targetRate)
  | "measurement" => some (.setting .measurement)
  | "warmup" => some (.setting .warmupOps)
  | "status-interval" => some (.setting .statusInterval)
  | _ => none

def Choice.ofLetter? : Char → Option Choice
  | 'h' => some (.switch .help)
  | 'c' => some (.setting .file)
  | 't' => some (.setting .threads)
  | _ => none

def Switch.shown : Switch → String
  | .load => "--load"
  | .run => "--run"
  | .json => "--json"
  | .help => "--help"

/-- How a setting is shown: its name, and what its value is. -/
def Setting.shown : Setting → String
  | .file => "--config <FILE>"
  | .threads => "--threads <N>"
  | .targetRate => "--target <OPS>"
  | .measurement => "--measurement <TYPE>"
  | .warmupOps => "--warmup <N>"
  | .statusInterval => "--status-interval <SECS>"

def Choice.shown : Choice → String
  | .switch option => option.shown
  | .setting option => option.shown

end StoreBench.CommandLine
