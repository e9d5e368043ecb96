/-!
Contract: the first fault of a byte sequence that is not UTF-8.

Owns:
- the ranges that the byte after a lead byte may lie in;
- `fault?`, which finds where the longest well-formed beginning ends and how many
  bytes of a broken character follow it.

Does not own: decoding.  `String.fromUTF8?` decodes; this module says what is
wrong where that fails.
-/

namespace StoreBench.Text.Utf8

/-- Where and how a byte sequence stops being UTF-8.

`validUpTo` bytes are well formed.  `length` is the number of bytes after them that
begin a character and cannot be completed, or `none` when the input ends inside a
character that could still be completed. -/
structure Fault where
  validUpTo : Nat
  length : Option Nat
  deriving DecidableEq, Repr

def Fault.message (fault : Fault) : String :=
  match fault.length with
  | some length =>
      s!"invalid utf-8 sequence of {length} bytes from index {fault.validUpTo}"
  | none => s!"incomplete utf-8 byte sequence from index {fault.validUpTo}"

/-- A byte that continues a character. -/
def isContinuation (byte : UInt8) : Bool := 0x80 ≤ byte && byte ≤ 0xBF

/-- How a lead byte goes on: how many bytes follow it, and the range of the first of
them.  No overlong form, surrogate or code point above U+10FFFF passes. -/
def follow? (lead : UInt8) : Option (Nat × UInt8 × UInt8) :=
  if lead < 0x80 then some (0, 0, 0)
  else if 0xC2 ≤ lead && lead ≤ 0xDF then some (1, 0x80, 0xBF)
  else if lead == 0xE0 then some (2, 0xA0, 0xBF)
  else if lead == 0xED then some (2, 0x80, 0x9F)
  else if 0xE1 ≤ lead && lead ≤ 0xEF then some (2, 0x80, 0xBF)
  else if lead == 0xF0 then some (3, 0x90, 0xBF)
  else if 0xF1 ≤ lead && lead ≤ 0xF3 then some (3, 0x80, 0xBF)
  else if lead == 0xF4 then some (3, 0x80, 0x8F)
  else none

/-- Where the reader stands: between characters, or owing `owed` more bytes of which
the next lies in `low … high`, after `taken` bytes of the character. -/
inductive Reader
  | between
  | inside (taken owed : Nat) (low high : UInt8)
  deriving DecidableEq, Repr

/-- The first fault of `bytes`, where `offset` bytes before them were well formed up to
the reader's character. -/
def faultFrom (offset : Nat) : Reader → List UInt8 → Option Fault
  | .between, [] => none
  | .inside _ _ _ _, [] => some ⟨offset, none⟩
  | .between, byte :: rest =>
    match follow? byte with
    | none => some ⟨offset, some 1⟩
    | some (0, _, _) => faultFrom (offset + 1) .between rest
    | some (owed, low, high) => faultFrom offset (.inside 1 owed low high) rest
  | .inside taken owed low high, byte :: rest =>
    if low ≤ byte && byte ≤ high then
      if owed ≤ 1 then faultFrom (offset + taken + 1) .between rest
      else faultFrom offset (.inside (taken + 1) (owed - 1) 0x80 0xBF) rest
    else some ⟨offset, some taken⟩

/-- The first fault of a byte sequence, if it has one. -/
def fault? (bytes : List UInt8) : Option Fault := faultFrom 0 .between bytes

end StoreBench.Text.Utf8
