import StoreBench.Text.Hex
import StoreBench.Toml.Lexis

/-!
Contract: quoted texts.

A text stands between double quotes, where a backslash introduces escapes, or between single
quotes, where every character stands for itself.  Three quotes at each end let a text run over
several lines.

Owns: the reading of the four forms.
-/

namespace StoreBench.Toml

/-- The character of a code point written in hexadecimal, if it is one. -/
def codePoint? (digits : List Char) : Option Char := do
  let number ← digits.foldlM (fun number digit => (Text.hexValue? digit).map (number * 16 + ·)) 0
  if number < 0xD800 ∨ (0xE000 ≤ number ∧ number ≤ 0x10FFFF) then return Char.ofNat number
  else none

/-- Takes off what may stand behind a backslash. -/
def escape? : List Char → Option (Char × List Char)
  | 'b' :: rest => some ('\x08', rest)
  | 'f' :: rest => some ('\x0c', rest)
  | 'n' :: rest => some ('\n', rest)
  | 'r' :: rest => some ('\r', rest)
  | 't' :: rest => some ('\t', rest)
  | '\x22' :: rest => some ('\x22', rest)
  | '\\' :: rest => some ('\\', rest)
  | 'u' :: rest =>
    if rest.length < 4 then none else (codePoint? (rest.take 4)).map (·, rest.drop 4)
  | 'U' :: rest =>
    if rest.length < 8 then none else (codePoint? (rest.take 8)).map (·, rest.drop 8)
  | _ => none

/-- The text of a line up to the closing double quote; `fuel` bounds its length. -/
def readBasic : Nat → List Char → List Char → Option (List Char × List Char)
  | 0, _, _ => none
  | _ + 1, _, [] => none
  | _ + 1, gathered, '\x22' :: rest => some (gathered.reverse, rest)
  | fuel + 1, gathered, '\\' :: rest => do
    let (character, rest) ← escape? rest
    readBasic fuel (character :: gathered) rest
  | fuel + 1, gathered, character :: rest =>
    if isPlainChar character then readBasic fuel (character :: gathered) rest else none

/-- Leaves out blanks and line ends. -/
def skipSpace : List Char → List Char
  | '\n' :: rest => skipSpace rest
  | '\r' :: '\n' :: rest => skipSpace rest
  | first :: rest => if isBlank first then skipSpace rest else first :: rest
  | [] => []

/-- Leaves out a line end behind a backslash with all blanks and line ends that follow. -/
def lineContinuation? (input : List Char) : Option (List Char) :=
  (newline? (skipBlanks input)).map skipSpace

/-- How many quotes stand in front, and how many of them belong to the text if they close it: up to
two before the last three. -/
def closing? (quote : Char) (input : List Char) : Option (List Char × List Char) :=
  let quotes := (input.takeWhile (· = quote)).length
  if quotes < 3 then none
  else
    let own := min (quotes - 3) 2
    some (List.replicate own quote, input.drop (own + 3))

/-- The text of several lines up to the closing double quotes; `fuel` bounds its length. -/
def readMultiBasic : Nat → List Char → List Char → Option (List Char × List Char)
  | 0, _, _ => none
  | fuel + 1, gathered, input =>
    match closing? '\x22' input with
    | some (own, rest) => some (gathered.reverse ++ own, rest)
    | none =>
      match newline? input with
      | some rest => readMultiBasic fuel ('\n' :: gathered) rest
      | none =>
        match input with
        | [] => none
        | '\\' :: rest =>
          match lineContinuation? rest with
          | some rest => readMultiBasic fuel gathered rest
          | none => do
            let (character, rest) ← escape? rest
            readMultiBasic fuel (character :: gathered) rest
        | character :: rest =>
          if isPlainChar character then readMultiBasic fuel (character :: gathered) rest
          else none

/-- The text of several lines up to the closing single quotes; `fuel` bounds its length. -/
def readMultiLiteral : Nat → List Char → List Char → Option (List Char × List Char)
  | 0, _, _ => none
  | fuel + 1, gathered, input =>
    match closing? '\x27' input with
    | some (own, rest) => some (gathered.reverse ++ own, rest)
    | none =>
      match newline? input with
      | some rest => readMultiLiteral fuel ('\n' :: gathered) rest
      | none =>
        match input with
        | [] => none
        | character :: rest =>
          if isPlainChar character then readMultiLiteral fuel (character :: gathered) rest
          else none

/-- Leaves out a line end directly behind opening quotes. -/
def skipFirstLine (input : List Char) : List Char := (newline? input).getD input

/-- Takes a text on one line off the front. -/
def lineText? : List Char → Option (List Char × List Char)
  | '\x22' :: rest => readBasic (rest.length + 1) [] rest
  | '\x27' :: rest =>
    let own := rest.takeWhile fun character => isPlainChar character && character != '\x27'
    match rest.drop own.length with
    | '\x27' :: rest => some (own, rest)
    | _ => none
  | _ => none

/-- Takes a text off the front, on one line or on several. -/
def text? : List Char → Option (List Char × List Char)
  | '\x22' :: '\x22' :: '\x22' :: rest => readMultiBasic (rest.length + 1) [] (skipFirstLine rest)
  | '\x27' :: '\x27' :: '\x27' :: rest => readMultiLiteral (rest.length + 1) [] (skipFirstLine rest)
  | input => lineText? input

end StoreBench.Toml
