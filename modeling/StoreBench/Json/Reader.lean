import StoreBench.Json.Value
import StoreBench.Text.Hex

/-!
Contract: the reading of JSON text.

Owns: `Json.parse?`, which reads one value and nothing behind it but blanks.
-/

namespace StoreBench.Json

/-- Whether a character may stand between two parts of a value. -/
def isBlank (character : Char) : Bool :=
  character == ' ' || character == '\n' || character == '\t' || character == '\r'

def skipBlanks (input : List Char) : List Char := input.dropWhile isBlank

/-- The code unit of four hexadecimal digits. -/
def unit? (first second third fourth : Char) : Option Nat := do
  let first ← Text.hexValue? first
  let second ← Text.hexValue? second
  let third ← Text.hexValue? third
  let fourth ← Text.hexValue? fourth
  return ((first * 16 + second) * 16 + third) * 16 + fourth

/-- The character of two code units. -/
def pairedChar (high low : Nat) : Char :=
  Char.ofNat (0x10000 + (high - 0xD800) * 0x400 + (low - 0xDC00))

/-- The character that stands behind a backslash. -/
def escaped? : Char → Option Char
  | 'n' => some '\n'
  | 't' => some '\t'
  | 'r' => some '\r'
  | 'b' => some '\x08'
  | 'f' => some '\x0c'
  | '\\' => some '\\'
  | '/' => some '/'
  | '\x22' => some '\x22'
  | _ => none

/-- The text up to the closing quote, after characters that are gathered in reverse. -/
def readText (gathered : List Char) : List Char → Option (String × List Char)
  | [] => none
  | '\x22' :: rest => some (String.ofList gathered.reverse, rest)
  | '\\' :: 'u' :: a :: b :: c :: d :: '\\' :: 'u' :: e :: f :: g :: h :: rest => do
    let high ← unit? a b c d
    if 0xD800 ≤ high ∧ high < 0xDC00 then
      let low ← unit? e f g h
      readText (pairedChar high low :: gathered) rest
    else readText (Char.ofNat high :: gathered) ('\\' :: 'u' :: e :: f :: g :: h :: rest)
  | '\\' :: 'u' :: a :: b :: c :: d :: rest => do
    let unit ← unit? a b c d
    readText (Char.ofNat unit :: gathered) rest
  | '\\' :: character :: rest => do
    let character ← escaped? character
    readText (character :: gathered) rest
  | character :: rest => readText (character :: gathered) rest

/-- Whether a character may stand in a number. -/
def isNumeric (character : Char) : Bool :=
  character.isDigit || character == '.' || character == '-' || character == '+' ||
    character == 'e' || character == 'E'

/-- A word in front of the input. -/
def readWord (word : String) (value : Json) (input : List Char) : Option (Json × List Char) :=
  if word.toList.isPrefixOf input then some (value, input.drop word.length) else none

mutual

/-- A value, nested and long at most as `fuel` allows. -/
def readValue : Nat → List Char → Option (Json × List Char)
  | 0, _ => none
  | fuel + 1, input =>
    match skipBlanks input with
    | '\x7b' :: rest =>
      match skipBlanks rest with
      | '\x7d' :: rest => some (.fields [], rest)
      | rest => readFields fuel [] rest
    | '[' :: rest =>
      match skipBlanks rest with
      | ']' :: rest => some (.list [], rest)
      | rest => readEntries fuel [] rest
    | '\x22' :: rest => (readText [] rest).map fun (value, rest) => (.text value, rest)
    | 't' :: rest => readWord "rue" (.boolean true) rest
    | 'f' :: rest => readWord "alse" (.boolean false) rest
    | 'n' :: rest => readWord "ull" .null rest
    | rest =>
      let lexeme := rest.takeWhile isNumeric
      if lexeme.isEmpty then none
      else some (.number (String.ofList lexeme), rest.dropWhile isNumeric)

/-- The entries of a list, after entries that are gathered in reverse. -/
def readEntries : Nat → List Json → List Char → Option (Json × List Char)
  | 0, _, _ => none
  | fuel + 1, gathered, input => do
    let (entry, rest) ← readValue fuel input
    match skipBlanks rest with
    | ',' :: rest => readEntries fuel (entry :: gathered) rest
    | ']' :: rest => return (.list (entry :: gathered).reverse, rest)
    | _ => none

/-- The entries of a record, after entries that are gathered in reverse. -/
def readFields : Nat → List (String × Json) → List Char → Option (Json × List Char)
  | 0, _, _ => none
  | fuel + 1, gathered, input => do
    let '\x22' :: rest := skipBlanks input | none
    let (name, rest) ← readText [] rest
    let ':' :: rest := skipBlanks rest | none
    let (entry, rest) ← readValue fuel rest
    match skipBlanks rest with
    | ',' :: rest => readFields fuel ((name, entry) :: gathered) rest
    | '\x7d' :: rest => return (.fields ((name, entry) :: gathered).reverse, rest)
    | _ => none

end

/-- The value that a text holds, if it holds one. -/
def parse? (text : String) : Option Json := do
  let input := text.toList
  let (value, rest) ← readValue (input.length + 1) input
  if (skipBlanks rest).isEmpty then return value else none

end StoreBench.Json
