/-!
Contract: the values of a configuration text.

Owns: `Value`, the range of its whole numbers, and the look-up of an entry.
-/

namespace StoreBench.Toml

inductive Value
  | text (value : String)
  | integer (value : Int)
  | float (value : Float)
  | boolean (value : Bool)
  /-- A date, a time of day, or both, as it was written. -/
  | moment (text : String)
  | array (entries : List Value)
  /-- Entries under different names in the order in which they were written; `inline` tells whether
  they were written as one value. -/
  | table (inline : Bool) (entries : List (String × Value))
  deriving Inhabited, Repr

/-- Whether a whole number is one that a text can hold: it has 64 bits with a sign. -/
def isWritable (value : Int) : Bool := -9223372036854775808 ≤ value && value ≤ 9223372036854775807

def Value.entry? (value : Value) (name : String) : Option Value :=
  match value with
  | .table _ entries => (entries.find? (·.1 == name)).map Prod.snd
  | _ => none

end StoreBench.Toml
