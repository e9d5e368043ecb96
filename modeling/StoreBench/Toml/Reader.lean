import StoreBench.Toml.Moment
import StoreBench.Toml.Number
import StoreBench.Toml.Quote
import StoreBench.Toml.Tree

/-!
Contract: the reading of a configuration text.

Owns:
- the reading of names, of values and of lines;
- `Toml.parse?`, which reads a whole text.
-/

namespace StoreBench.Toml

/-- Values and names are nested less deeply than this. -/
def depthLimit : Nat := 80

/-! ## Names -/

/-- Takes a name without dots off the front. -/
def name? (input : List Char) : Option (String × List Char) :=
  match input with
  | '\x22' :: _ | '\x27' :: _ =>
    (lineText? input).map fun (name, rest) => (String.ofList name, rest)
  | _ =>
    let name := input.takeWhile isBareChar
    if name.isEmpty then none else some (String.ofList name, input.dropWhile isBareChar)

/-- Takes at most `most` names with dots between them off the front. -/
def names? : Nat → List Char → Option (List String × List Char)
  | 0, _ => none
  | most + 1, input => do
    let (name, rest) ← name? (skipBlanks input)
    match skipBlanks rest with
    | '.' :: rest =>
      let (names, rest) ← names? most rest
      return (name :: names, rest)
    | rest => return ([name], rest)

/-- Takes a name with dots, and blanks around it, off the front. -/
def key? (input : List Char) : Option (Key × List Char) := do
  let (names, rest) ← names? (depthLimit - 1) input
  let name ← names.getLast?
  return (⟨names.dropLast, name⟩, rest)

/-! ## Values -/

/-- Takes a word off the front. -/
def word? (word : String) (value : Value) (input : List Char) : Option (Value × List Char) :=
  if word.toList.isPrefixOf input then some (value, input.drop word.length) else none

/-- Takes a date, a double or a whole number off the front, the first of them that is there. -/
def number? (input : List Char) : Option (Value × List Char) :=
  match moment? input with
  | some rest => some (.moment (String.ofList (input.take (input.length - rest.length))), rest)
  | none =>
    match float? input with
    | some (value, rest) => some (.float value, rest)
    | none => (integer? input).map fun (value, rest) => (.integer value, rest)

/-- Takes a value without inner values off the front. -/
def scalar? (input : List Char) : Option (Value × List Char) :=
  match input with
  | [] => none
  | first :: _ =>
    if first = '\x22' ∨ first = '\x27' then
      (text? input).map fun (value, rest) => (.text (String.ofList value), rest)
    else if first = 't' then word? "true" (.boolean true) input
    else if first = 'f' then word? "false" (.boolean false) input
    else if first = 'i' ∨ first = 'n' then
      (special? input).map fun (value, rest) => (.float value, rest)
    else number? input

section

variable (inner : List Char → Option (Value × List Char))

/-- Takes the values of a list and its closing bracket off the front; `inner` reads a value, and
`fuel` bounds their number. -/
def array? : Nat → List Value → List Char → Option (Value × List Char)
  | 0, _, _ => none
  | fuel + 1, gathered, input =>
    match skipFiller input with
    | ']' :: rest => some (.array gathered.reverse, rest)
    | rest => do
      let (value, rest) ← inner rest
      match skipFiller rest with
      | ',' :: rest => array? fuel (value :: gathered) rest
      | ']' :: rest => return (.array (value :: gathered).reverse, rest)
      | _ => none

/-- Takes a name, an equals sign and a value off the front. -/
def entry? (input : List Char) : Option ((Key × Value) × List Char) := do
  let (key, rest) ← key? input
  let '=' :: rest := rest | none
  let (value, rest) ← inner (skipBlanks rest)
  return ((key, value), rest)

/-- Takes entries and a closing brace off the front. -/
def inlineEntries? :
    Nat → List (Key × Value) → List Char → Option (List (Key × Value) × List Char)
  | 0, _, _ => none
  | fuel + 1, gathered, input => do
    let (entry, rest) ← entry? inner input
    match skipBlanks rest with
    | ',' :: rest => inlineEntries? fuel (entry :: gathered) rest
    | '\x7d' :: rest => return ((entry :: gathered).reverse, rest)
    | _ => none

/-- Takes the rest of a table between braces off the front. -/
def inlineTable? (input : List Char) : Option (Value × List Char) :=
  match skipBlanks input with
  | '\x7d' :: rest => some (.table true [], rest)
  | _ => do
    let (entries, rest) ← inlineEntries? inner input.length [] input
    let table ← tableOf? entries
    return (table, rest)

end

/-- Takes a value that is nested at most `depth` deep off the front. -/
def value? : Nat → List Char → Option (Value × List Char)
  | 0, input => scalar? input
  | depth + 1, input =>
    match input with
    | '[' :: rest => array? (value? depth) rest.length [] rest
    | '\x7b' :: rest => inlineTable? (value? depth) rest
    | _ => scalar? input

/-! ## Lines -/

/-- What stands on a line. -/
inductive Line
  | nothing
  | entry (key : Key) (value : Value)
  | header (header : Header)

/-- Takes a line that begins with neither a blank nor a comment off the front. -/
def content? : List Char → Option (Line × List Char)
  | '[' :: '[' :: rest => do
    let (key, rest) ← key? rest
    let ']' :: ']' :: rest := rest | none
    return (.header (.row key), rest)
  | '[' :: rest => do
    let (key, rest) ← key? rest
    let ']' :: rest := rest | none
    return (.header (.table key), rest)
  | input => do
    let ((key, value), rest) ← entry? (value? (depthLimit - 1)) input
    return (.entry key value, rest)

/-- Takes a line with its end off the front. -/
def line? (input : List Char) : Option (Line × List Char) :=
  let start := skipBlanks input
  match lineEnd? start with
  | some rest => some (.nothing, rest)
  | none => do
    let (line, rest) ← content? start
    let rest ← lineEnd? rest
    return (line, rest)

/-- The lines of a text; `fuel` bounds their number. -/
def lines? : Nat → List Char → Option (List Line)
  | _, [] => some []
  | 0, _ => none
  | fuel + 1, input => do
    let (line, rest) ← line? input
    let lines ← lines? fuel rest
    return line :: lines

/-- Lines below their headers, after entries that are gathered in reverse. -/
def sections (header : Header) (gathered : List (Key × Value)) : List Line → List Section
  | [] => [⟨header, gathered.reverse⟩]
  | .nothing :: rest => sections header gathered rest
  | .entry key value :: rest => sections header ((key, value) :: gathered) rest
  | .header next :: rest => ⟨header, gathered.reverse⟩ :: sections next [] rest

/-- Leaves out a byte order mark. -/
def skipMark : List Char → List Char
  | '\ufeff' :: rest => rest
  | input => input

/-- The table that a text describes, if it describes one. -/
def parse? (text : String) : Option Value := do
  let input := skipMark text.toList
  let lines ← lines? input.length input
  ofSections? (sections .top [] lines)

end StoreBench.Toml
