import StoreBench.Mix.Transactions

/-!
Contract: a check whether a call is one that transactions make.

A record key or a field name is recognized by the number behind its first characters: it has to be
the key or the name of that number.

Owns: `Options.recognizes`.

Does not own: the calls that transactions make, nor the proof that these are the calls it
recognizes, which is in `Proofs.Mix.CallRecognition`.
-/

namespace StoreBench.Mix

open Store (Call Row)

/-- The number that is written behind the first characters of a text. -/
def numberBehind (skipped : Nat) (text : String) : Nat :=
  Nat.ofDigitChars 10 (text.toList.drop skipped) 0

def isLetter (byte : UInt8) : Bool := Transactions.alphabet.contains byte

/-- The number of the record that a key stands for, if it does. -/
def recordOf? (key : String) : Option Nat :=
  let record := numberBehind 4 key
  if record < UInt64.size ∧ key = Keys.recordKey record.toUInt64 then some record else none

namespace Options

def knowsField (options : Options) (name : String) : Bool :=
  let field := numberBehind 5 name
  field < options.fieldCount.toNat && name == Transactions.fieldName field

def knowsKey (options : Options) (key : String) : Bool :=
  (recordOf? key).any (· < options.recordCount.toNat)

def knowsFilter (options : Options) : Option (List String) → Bool
  | none => options.readAllFields
  | some [name] => !options.readAllFields && options.knowsField name
  | some _ => false

def knowsValue (options : Options) (value : List UInt8) : Bool :=
  value.length == options.fieldLength.toNat && value.all isLetter

def knowsRow (options : Options) (row : Row) : Bool :=
  row.map (·.name) == (List.range options.fieldCount.toNat).map Transactions.fieldName &&
    row.all fun field => options.knowsValue field.value

def knowsUpdate (options : Options) (values : Row) : Bool :=
  if options.writeAllFields then options.knowsRow values
  else
    match values with
    | [field] => options.knowsField field.name && options.knowsValue field.value
    | _ => false

/-- Whether a call is one that transactions make. -/
def recognizes (options : Options) (call : Call) : Bool :=
  call.table == options.table &&
    match call with
    | .read _ key fields => options.knowsKey key && options.knowsFilter fields
    | .update _ key values => options.knowsKey key && options.knowsUpdate values
    | .insert _ key row => (recordOf? key).isSome && options.knowsRow row
    | .scan _ key count fields =>
      options.knowsKey key && 1 ≤ count && count ≤ options.maxScanLength.toNat &&
        options.knowsFilter fields
    | .delete _ key => options.knowsKey key

end Options

end StoreBench.Mix
