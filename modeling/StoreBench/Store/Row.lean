/-!
Contract: rows, the data that a store keeps under a key.

Owns:
- `Field` and `Row`;
- the selection of fields by name, and the merging of new values into a row.
-/

namespace StoreBench.Store

/-- A named value. -/
structure Field where
  name : String
  value : List UInt8
  deriving DecidableEq, Repr

/-- Fields in the order in which they are stored.  A name may occur more than once. -/
abbrev Row : Type := List Field

/-- The fields whose name is requested, in stored order; all of them if no names are given. -/
def Row.select (names : Option (List String)) (row : Row) : Row :=
  match names with
  | none => row
  | some names => row.filter fun field => names.contains field.name

/-- Gives the first field of the same name the new value, or appends the field. -/
def overwrite : Row → Field → Row
  | [], field => [field]
  | stored :: rest, field =>
    if stored.name = field.name then { stored with value := field.value } :: rest
    else stored :: overwrite rest field

/-- The row after all new values have been written over it one after the other. -/
def Row.merge (row values : Row) : Row := values.foldl overwrite row

end StoreBench.Store
