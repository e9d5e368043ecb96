import StoreBench.Decimal.Reading

/-!
Contract: values of the notation that machine-readable reports are written in.

A number keeps its text, so that no digit and no sign is lost.

Owns: `Json` and the access to its parts.
-/

namespace StoreBench

/-- A value. -/
inductive Json
  | null
  | boolean (value : Bool)
  | number (lexeme : String)
  | text (value : String)
  | list (entries : List Json)
  | fields (entries : List (String × Json))
  deriving Inhabited, Repr

namespace Json

def nat (value : Nat) : Json := .number (toString value)

def word (value : UInt64) : Json := .number (toString value)

def texts (values : List String) : Json := .list (values.map .text)

/-- A value that may be missing. -/
def ofOption {α : Type} (encode : α → Json) : Option α → Json
  | some value => encode value
  | none => .null

/-- The entry of a name. -/
def field? (value : Json) (name : String) : Option Json :=
  match value with
  | .fields entries => (entries.find? (·.1 == name)).map Prod.snd
  | _ => none

/-- The entry of a name, or `null`. -/
def field (value : Json) (name : String) : Json := (value.field? name).getD .null

def toList : Json → List Json
  | .list entries => entries
  | _ => []

/-- The entries of the list of a name. -/
def listOf (value : Json) (name : String) : List Json := (value.field name).toList

def toText? : Json → Option String
  | .text value => some value
  | _ => none

def toBool? : Json → Option Bool
  | .boolean value => some value
  | _ => none

def toNat? : Json → Option Nat
  | .number lexeme => lexeme.toNat?
  | _ => none

def toInt? : Json → Option Int
  | .number lexeme => lexeme.toInt?
  | _ => none

def isNull : Json → Bool
  | .null => true
  | _ => false

/-- The double nearest to a number. -/
def toFloat? : Json → Option Float
  | .number lexeme =>
    let characters := lexeme.toList
    let negative := characters.head? == some '-'
    let whole := (characters.dropWhile (!·.isDigit)).takeWhile Char.isDigit
    let rest := (characters.dropWhile (!·.isDigit)).dropWhile Char.isDigit
    let fraction := if rest.head? == some '.' then rest.tail.takeWhile Char.isDigit else []
    let exponent := rest.dropWhile fun character => character != 'e' && character != 'E'
    some (Decimal.ofParts negative whole fraction (exponent.contains '-')
      (exponent.filter Char.isDigit))
  | _ => none

end Json

end StoreBench
