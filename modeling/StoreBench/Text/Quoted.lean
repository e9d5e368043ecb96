import StoreBench.Text.Unprintable

/-!
Contract: text between double quotes, so that every character can be seen.

Owns: the escapes and the quoting.
-/

namespace StoreBench.Text

/-- A code point in braces, in lower-case hexadecimal. -/
def codePointEscape (character : Char) : List Char :=
  ['\\', 'u', '\x7b'] ++ Nat.toDigits 16 character.toNat ++ ['\x7d']

/-- How one character stands inside the quotes. -/
def escaped (character : Char) : List Char :=
  if character = '\x00' then ['\\', '0']
  else if character = '\t' then ['\\', 't']
  else if character = '\r' then ['\\', 'r']
  else if character = '\n' then ['\\', 'n']
  else if character = '\\' then ['\\', '\\']
  else if character = '\x22' then ['\\', '\x22']
  else if isUnprintable character then codePointEscape character
  else [character]

def quoted (text : String) : String :=
  String.ofList ('\x22' :: text.toList.flatMap escaped ++ ['\x22'])

end StoreBench.Text
