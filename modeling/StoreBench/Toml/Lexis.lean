/-!
Contract: the characters that configuration texts are made of.

Owns: the classes of characters, and blanks, line ends and comments.
-/

namespace StoreBench.Toml

/-- Whether a character is blank space inside a line. -/
def isBlank (character : Char) : Bool := character == ' ' || character == '\t'

/-- Whether a character may stand for itself in a comment or a text: all but control characters,
and tabs. -/
def isPlainChar (character : Char) : Bool :=
  character == '\t' || (' ' ≤ character && character ≤ '~') || '\x80' ≤ character

/-- Whether a character may stand in a name without quotes. -/
def isBareChar (character : Char) : Bool :=
  character.isAlphanum || character == '_' || character == '-'

/-- Leaves out blank space inside a line. -/
def skipBlanks (input : List Char) : List Char := input.dropWhile isBlank

/-- Takes off a line end, which is a line feed with or without a carriage return. -/
def newline? : List Char → Option (List Char)
  | '\n' :: rest => some rest
  | '\r' :: '\n' :: rest => some rest
  | _ => none

/-- Leaves out a comment, up to the line end. -/
def skipComment : List Char → List Char
  | '#' :: rest => rest.dropWhile isPlainChar
  | input => input

/-- Takes off what may follow a complete line: blanks, a comment, and a line end or the end of the
text. -/
def lineEnd? (input : List Char) : Option (List Char) :=
  match skipComment (skipBlanks input) with
  | [] => some []
  | rest => newline? rest

/-- Leaves out blanks, line ends and whole comments; `fuel` bounds their number. -/
def skipLines : Nat → List Char → List Char
  | 0, input => input
  | fuel + 1, input =>
    let unblanked := skipBlanks input
    match newline? (skipComment unblanked) with
    | some rest => skipLines fuel rest
    | none => unblanked

/-- Leaves out blanks, line ends and whole comments. -/
def skipFiller (input : List Char) : List Char := skipLines input.length input

/-- Takes digits off the front, single underscores between them left out; at least one digit is
needed, and an underscore must have digits on both sides. -/
def digits? (isDigit : Char → Bool) : List Char → Option (List Char × List Char)
  | [] => none
  | first :: rest =>
    if isDigit first then some (go [first] rest) else none
where
  /-- Takes further digits, after those gathered in reverse.  An underscore without a digit behind
  it stays. -/
  go (gathered : List Char) : List Char → List Char × List Char
    | '_' :: digit :: rest =>
      if isDigit digit then go (digit :: gathered) rest
      else (gathered.reverse, '_' :: digit :: rest)
    | digit :: rest =>
      if isDigit digit then go (digit :: gathered) rest else (gathered.reverse, digit :: rest)
    | [] => (gathered.reverse, [])

end StoreBench.Toml
