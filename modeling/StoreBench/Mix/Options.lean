import StoreBench.Decimal.Layout
import StoreBench.Failure

/-!
Contract: the options of the standard workload.

Owns: `Options`, their defaults and their check.
-/

namespace StoreBench.Mix

/-- The order in which the initial records are stored. -/
inductive InsertOrder
  | ordered
  | random
  deriving DecidableEq, Repr, Inhabited

/-- What kinds of transactions to make, on records of what shape. -/
structure Options where
  table : String
  recordCount : UInt64
  operationCount : UInt64
  fieldCount : UInt64
  fieldLength : UInt64
  readProportion : Float
  updateProportion : Float
  insertProportion : Float
  scanProportion : Float
  deleteProportion : Float
  maxScanLength : UInt64
  readAllFields : Bool
  writeAllFields : Bool
  insertOrder : InsertOrder
  deriving BEq, Repr

namespace Options

/-- Mostly reads of small records. -/
def default : Options where
  table := "usertable"
  recordCount := 1000
  operationCount := 1000
  fieldCount := 10
  fieldLength := 100
  readProportion := 0.95
  updateProportion := 0.05
  insertProportion := 0.0
  scanProportion := 0.0
  deleteProportion := 0.0
  maxScanLength := 100
  readAllFields := true
  writeAllFields := false
  insertOrder := .ordered

instance : Inhabited Options := ⟨default⟩

/-- The proportions with their names. -/
def proportions (options : Options) : List (String × Float) :=
  [("read_proportion", options.readProportion),
    ("update_proportion", options.updateProportion),
    ("insert_proportion", options.insertProportion),
    ("scan_proportion", options.scanProportion),
    ("delete_proportion", options.deleteProportion)]

def isBadProportion (proportion : Float) : Bool := !proportion.isFinite || proportion < 0.0

/-- Whether some transactions are about initial records. -/
def touchesRecords (options : Options) : Bool :=
  options.readProportion > 0.0 || options.updateProportion > 0.0 ||
    options.scanProportion > 0.0 || options.deleteProportion > 0.0

/-- Fails with the first fault of the options: a bad proportion, then no proportion, no fields, no
records, no scan length. -/
def validate (options : Options) : Except Failure Unit := do
  if let some (name, proportion) := options.proportions.find? (isBadProportion ·.2) then
    throw (.config (.badProportion name (Decimal.Layout.plain.text proportion)))
  if options.proportions.all (·.2 == 0.0) then throw (.config .noProportion)
  if options.fieldCount = 0 then throw (.config .noFields)
  if options.touchesRecords && options.recordCount == 0 then throw (.config .noRecords)
  if options.scanProportion > 0.0 && options.maxScanLength == 0 then
    throw (.config .noScanLength)

end Options

end StoreBench.Mix
