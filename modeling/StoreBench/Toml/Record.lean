import StoreBench.Toml.Value

/-!
Contract: values of a configuration text as records with named parts.

A record is written as a table, or as a list of its parts in their order.  A part that is missing
has a default, and what belongs to no part is passed over.

Owns: the parts of a record, and the reading of plain parts.
-/

namespace StoreBench.Toml.Value

/-- Whether a value can be a record.  A moment is one with no part that anything asks for. -/
def isRecord : Value → Bool
  | .table .. | .array _ | .moment _ => true
  | _ => false

def part? (record : Value) (position : Nat) (name : String) : Option Value :=
  match record with
  | .array entries => entries[position]?
  | _ => record.entry? name

/-- Reads a part of a record, or takes its default if it is missing. -/
def partOr {α : Type} (record : Value) (position : Nat) (name : String) (otherwise : α)
    (read : Value → Option α) : Option α :=
  match record.part? position name with
  | some value => read value
  | none => some otherwise

def toText? : Value → Option String
  | .text value => some value
  | _ => none

/-- A truth value. -/
def toBool? : Value → Option Bool
  | .boolean value => some value
  | _ => none

/-- A whole number of 64 bits without a sign. -/
def toWord? : Value → Option UInt64
  | .integer value =>
    if 0 ≤ value ∧ value.toNat < UInt64.size then some (UInt64.ofNat value.toNat) else none
  | _ => none

/-- A double; a whole number counts as the nearest one. -/
def toFloat? : Value → Option Float
  | .float value => some value
  | .integer value => some (Float.ofInt value)
  | _ => none

/-- Whether nothing is inside a value that could hold something. -/
def isEmptyRecord : Value → Bool
  | .array entries => entries.isEmpty
  | .table _ entries => entries.isEmpty
  | _ => false

/-- The name of a choice.  It is written as a text, or as a table of that one name with nothing
under it. -/
def toChoice? : Value → Option String
  | .text name => some name
  | .table _ [(name, inner)] => if inner.isEmptyRecord then some name else none
  | _ => none

/-- A word as a whole number. -/
def word (value : UInt64) : Value := .integer value.toNat

end StoreBench.Toml.Value
