import StoreBench.Failure
import StoreBench.Store.Row
import StoreBench.Text.ByteOrder

/-!
Contract: rows as bytes.

In the one known format a row is the sequence of its fields, and a field is its name and
its value, each behind its length in four bytes, the least significant first.

Owns:
- `Format`, its names, `Format.encode` and `Format.decode`.

Does not own: selection of fields, which happens after decoding.
-/

namespace StoreBench.Store

/-- A way to write a row as bytes. -/
inductive Format
  /-- The whole row in one value. -/
  | single
  deriving DecidableEq, Repr, Inhabited

/-- Lengths lie below this bound. -/
def lengthBound : Nat := Nat.pow 2 32

/-- A length in four bytes, the least significant first. -/
def lengthBytes (length : Nat) : List UInt8 :=
  [length.toUInt8, (length / 256).toUInt8, (length / 65536).toUInt8, (length / 16777216).toUInt8]

/-- Bytes behind their length. -/
def encodeChunk (bytes : List UInt8) : Except Failure (List UInt8) :=
  if bytes.length < lengthBound then .ok (lengthBytes bytes.length ++ bytes)
  else .error (.store (.fieldTooLong bytes.length))

/-- A field: the name, then the value. -/
def encodeField (field : Field) : Except Failure (List UInt8) := do
  let name ← encodeChunk (Text.bytesOf field.name)
  let value ← encodeChunk field.value
  return name ++ value

/-- The fields one after the other. -/
def encodeRow : Row → Except Failure (List UInt8)
  | [] => .ok []
  | field :: row => do
    let first ← encodeField field
    let rest ← encodeRow row
    return first ++ rest

/-- Takes a length off the front. -/
def readLength : List UInt8 → Except Failure (Nat × List UInt8)
  | first :: second :: third :: fourth :: rest =>
    .ok (first.toNat + 256 * second.toNat + 65536 * third.toNat + 16777216 * fourth.toNat, rest)
  | _ => .error (.data .truncatedLength)

/-- Takes bytes behind their length off the front. -/
def readChunk (data : List UInt8) : Except Failure (List UInt8 × List UInt8) := do
  let (length, rest) ← readLength data
  let bytes := rest.take length
  if bytes.length = length then return (bytes, rest.drop length)
  else throw (.data (.truncatedChunk length))

/-- The name that bytes spell. -/
def nameOfBytes (bytes : List UInt8) : Except Failure String :=
  match String.fromUTF8? ⟨bytes.toArray⟩ with
  | some name => .ok name
  | none => .error (.data (.nameNotText ((Text.Utf8.fault? bytes).getD ⟨0, none⟩)))

/-- Takes a field off the front.  A name that is no text is reported even if the value is
missing. -/
def readField (data : List UInt8) : Except Failure (Field × List UInt8) := do
  let (bytes, rest) ← readChunk data
  let name ← nameOfBytes bytes
  let (value, rest) ← readChunk rest
  return (⟨name, value⟩, rest)

/-- A length takes four bytes. -/
theorem readLength_length {data rest : List UInt8} {length : Nat}
    (taken : readLength data = .ok (length, rest)) : rest.length + 4 = data.length := by
  unfold readLength at taken
  split at taken
  · cases taken
    simp
  · cases taken

/-- What a chunk takes off the front is at least its length. -/
theorem readChunk_length {data bytes rest : List UInt8}
    (taken : readChunk data = .ok (bytes, rest)) : rest.length < data.length := by
  unfold readChunk at taken
  cases header : readLength data with
  | error fault => simp [header, bind, Except.bind] at taken
  | ok pair =>
    obtain ⟨length, after⟩ := pair
    have shorter := readLength_length header
    simp only [header, bind, Except.bind] at taken
    split at taken
    · cases taken
      simp only [List.length_drop]
      omega
    · cases taken

/-- A field takes bytes off the front, so that decoding ends. -/
theorem readField_length {data rest : List UInt8} {field : Field}
    (taken : readField data = .ok (field, rest)) : rest.length < data.length := by
  unfold readField at taken
  cases nameChunk : readChunk data with
  | error fault => simp [nameChunk, bind, Except.bind] at taken
  | ok pair =>
    obtain ⟨bytes, afterName⟩ := pair
    simp only [nameChunk, bind, Except.bind] at taken
    cases spelled : nameOfBytes bytes with
    | error fault => simp [spelled] at taken
    | ok name =>
      simp only [spelled] at taken
      cases valueChunk : readChunk afterName with
      | error fault => simp [valueChunk] at taken
      | ok pair =>
        obtain ⟨value, afterValue⟩ := pair
        simp only [valueChunk] at taken
        cases taken
        have first := readChunk_length nameChunk
        have second := readChunk_length valueChunk
        omega

/-- All fields, up to the end of the data. -/
def decodeRow (data : List UInt8) : Except Failure Row :=
  if data.isEmpty then .ok []
  else
    match _taken : readField data with
    | .error fault => .error fault
    | .ok (field, rest) =>
      match decodeRow rest with
      | .error fault => .error fault
      | .ok row => .ok (field :: row)
termination_by data.length
decreasing_by exact readField_length (by assumption)

namespace Format

def name : Format → String
  | .single => "single"

def named (text : String) : Except Failure Format :=
  if text = single.name then .ok .single else .error (.config (.unknownFormat text))

/-- A row as bytes; fails if a name or a value is too long for its length. -/
def encode : Format → Row → Except Failure (List UInt8)
  | .single => encodeRow

def decode : Format → List UInt8 → Except Failure Row
  | .single => decodeRow

/-- The requested fields of the row that bytes stand for. -/
def decodeSelected (format : Format) (names : Option (List String)) (data : List UInt8) :
    Except Failure Row :=
  (format.decode data).map (Row.select names)

end Format

end StoreBench.Store
