import StoreBench.Decimal.Layout
import StoreBench.Text.Hex
import StoreBench.Toml.Lexis
import StoreBench.Toml.Value

/-!
Contract: the writing of a configuration text.

A text value is written in the plainest of four quoted forms that can hold it; a whole number that
does not fit 64 bits with a sign cannot be written.

Owns:
- `Form`, the four forms, and the choice between them;
- `render?`, the text of a table of plain values and of tables of plain values.
-/

namespace StoreBench.Toml

/-! ## Text values -/

/-- The forms of a text value. -/
inductive Form
  /-- Between double quotes, with escapes. -/
  | basic
  /-- Between single quotes, where every character stands for itself. -/
  | literal
  /-- Between three double quotes, with escapes. -/
  | multiBasic
  /-- Between three single quotes, where every character stands for itself. -/
  | multiLiteral
  deriving DecidableEq, Repr

/-- Whether a character can only be written as an escape. -/
def needsEscape (character : Char) : Bool := !isPlainChar character && character != '\n'

/-- The length of the longest run of a character. -/
def longestRun (character : Char) (text : List Char) : Nat :=
  go 0 0 text
where
  /-- The longest run, after a run of `current` and a longest run of `longest`. -/
  go (current longest : Nat) : List Char → Nat
    | [] => longest
    | first :: rest =>
      if first = character then go (current + 1) (max longest (current + 1)) rest
      else go 0 longest rest

/-- Whether a text can stand in a form without an escape.  Between triple quotes up to two quotes in
a row are harmless. -/
def Form.holds (text : List Char) : Form → Bool
  | .basic => !text.any needsEscape && !text.any fun c => c = '\\' || c = '\x22' || c = '\n'
  | .literal => !text.any needsEscape && !text.any fun c => c = '\x27' || c = '\n'
  | .multiBasic => !text.any needsEscape && !text.contains '\\' && longestRun '\x22' text ≤ 2
  | .multiLiteral => !text.any needsEscape && longestRun '\x27' text ≤ 2

/-- The form of a text: the first that holds it, and if there is none, one with escapes. -/
def Form.of (text : List Char) : Form :=
  ([.basic, .literal, .multiBasic, .multiLiteral].find? (Form.holds text)).getD
    (if text.contains '\n' then .multiBasic else .basic)

/-- A control character as an escape of four digits. -/
def controlEscape (character : Char) : List Char :=
  ['\\', 'u', '0', '0', (Text.hexDigit (character.toNat / 16)).toUpper,
    (Text.hexDigit character.toNat).toUpper]

/-- A text with escapes.  Line ends stay if it may run over several lines; of quotes in a row every
one behind `most` others is escaped, and `quotes` of them stand in front. -/
def escapeText (multi : Bool) (most : Nat) : Nat → List Char → List Char
  | _, [] => []
  | quotes, character :: rest =>
    if character = '\x22' then
      if quotes < most then '\x22' :: escapeText multi most (quotes + 1) rest
      else '\\' :: '\x22' :: escapeText multi most 0 rest
    else
      let shown :=
        if character = '\x08' then ['\\', 'b']
        else if character = '\t' then ['\\', 't']
        else if character = '\n' ∧ ¬multi then ['\\', 'n']
        else if character = '\x0c' then ['\\', 'f']
        else if character = '\r' then ['\\', 'r']
        else if character = '\\' then ['\\', '\\']
        else if needsEscape character then controlEscape character
        else [character]
      shown ++ escapeText multi most 0 rest

/-- A text value in its form.  Triple quotes are followed by a line end if the text has one. -/
def quote (value : String) : String :=
  let text := value.toList
  let opening := if text.contains '\n' then ['\n'] else []
  let multi (mark : Char) (inner : List Char) : List Char :=
    List.replicate 3 mark ++ opening ++ inner ++ List.replicate 3 mark
  String.ofList <|
    match Form.of text with
    | .basic => '\x22' :: (escapeText false 0 0 text ++ ['\x22'])
    | .literal => '\x27' :: (text ++ ['\x27'])
    | .multiBasic => multi '\x22' (escapeText true 2 0 text)
    | .multiLiteral => multi '\x27' text

/-! ## Values and tables -/

/-- The text of a value without inner values; none if it has inner values or is too large. -/
def scalarText? : Value → Option String
  | .text value => some (quote value)
  | .integer value => if isWritable value then some (toString value) else none
  | .float value => some (Decimal.Layout.configuration.text value)
  | .boolean value => some (if value then "true" else "false")
  | .moment text => some text
  | .array _ => none
  | .table .. => none

/-- An entry on a line of its own. -/
def entryLine? (entry : String × Value) : Option String :=
  (scalarText? entry.2).map fun shown => entry.1 ++ " = " ++ shown ++ "\n"

def entryLines? (entries : List (String × Value)) : Option String :=
  (entries.mapM entryLine?).map String.join

def Value.tableEntries? : Value → Option (List (String × Value))
  | .table _ entries => some entries
  | _ => none

/-- A table below its header, after a blank line. -/
def sectionText? (name : String) (entries : List (String × Value)) : Option String :=
  (entryLines? entries).map fun lines => "\n[" ++ name ++ "]\n" ++ lines

/-- The text of a table: first its plain values, then its tables, both in their order. -/
def render? (table : Value) : Option String := do
  let entries ← table.tableEntries?
  let lines ← entryLines? (entries.filter fun entry => entry.2.tableEntries?.isNone)
  let sections ← entries.filterMapM fun entry =>
    match entry.2.tableEntries? with
    | some inner => (sectionText? entry.1 inner).map some
    | none => some none
  return lines ++ String.join sections

end StoreBench.Toml
