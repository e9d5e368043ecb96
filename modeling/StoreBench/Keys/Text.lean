/-!
Contract: the key under which a record is stored.

Owns: `recordKey`.
-/

namespace StoreBench.Keys

/-- How many digits a key has at least. -/
def keyDigits : Nat := 12

/-- The key of record `number`: `user` and the number, with zeros in front up to twelve
digits, so that keys of that width sort in record order. -/
def recordKey (number : UInt64) : String :=
  "user" ++ String.ofList (List.leftpad keyDigits '0' (Nat.toDigits 10 number.toNat))

end StoreBench.Keys
