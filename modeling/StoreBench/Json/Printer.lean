import StoreBench.Json.Value
import StoreBench.Text.Hex

/-!
Contract: the writing of JSON text.

Owns:
- `Json.compact`, on one line without blanks;
- `Json.pretty`, on several lines, each level indented by two blanks.
-/

namespace StoreBench.Json

/-- How a character stands in a text. -/
def escape (character : Char) : List Char :=
  if character = '\x22' then ['\\', '\x22']
  else if character = '\\' then ['\\', '\\']
  else if character = '\n' then ['\\', 'n']
  else if character = '\t' then ['\\', 't']
  else if character = '\r' then ['\\', 'r']
  else if character = '\x08' then ['\\', 'b']
  else if character = '\x0c' then ['\\', 'f']
  else if character.toNat < 32 then
    ['\\', 'u', '0', '0', Text.hexDigit (character.toNat / 16), Text.hexDigit character.toNat]
  else [character]

def quote (text : String) : String :=
  String.ofList ('\x22' :: (text.toList.flatMap escape ++ ['\x22']))

def booleanText (value : Bool) : String := if value then "true" else "false"

mutual

/-- A value on one line. -/
def compact : Json → String
  | .null => "null"
  | .boolean value => booleanText value
  | .number lexeme => lexeme
  | .text value => quote value
  | .list entries => "[" ++ ",".intercalate (compactEntries entries) ++ "]"
  | .fields entries => "\x7b" ++ ",".intercalate (compactFields entries) ++ "\x7d"

/-- The entries of a list, each on one line. -/
def compactEntries : List Json → List String
  | [] => []
  | entry :: rest => compact entry :: compactEntries rest

/-- The entries of a record, each on one line. -/
def compactFields : List (String × Json) → List String
  | [] => []
  | (name, entry) :: rest => (quote name ++ ":" ++ compact entry) :: compactFields rest

end

/-- Indented entries between brackets; without entries the brackets stand together. -/
def block (opening closing indent : String) (entries : List String) : String :=
  if entries.isEmpty then opening ++ closing
  else
    let inner := indent ++ "  "
    opening ++ "\n" ++ inner ++ (",\n" ++ inner).intercalate entries ++ "\n" ++ indent ++ closing

mutual

/-- A value whose further lines are indented by `indent`. -/
def prettyFrom (indent : String) : Json → String
  | .list entries => block "[" "]" indent (prettyEntries (indent ++ "  ") entries)
  | .fields entries => block "\x7b" "\x7d" indent (prettyFields (indent ++ "  ") entries)
  | .null => "null"
  | .boolean value => booleanText value
  | .number lexeme => lexeme
  | .text value => quote value

def prettyEntries (indent : String) : List Json → List String
  | [] => []
  | entry :: rest => prettyFrom indent entry :: prettyEntries indent rest

/-- The entries of a record. -/
def prettyFields (indent : String) : List (String × Json) → List String
  | [] => []
  | (name, entry) :: rest =>
    (quote name ++ ": " ++ prettyFrom indent entry) :: prettyFields indent rest

end

/-- A value on several lines. -/
def pretty (value : Json) : String := prettyFrom "" value

end StoreBench.Json
