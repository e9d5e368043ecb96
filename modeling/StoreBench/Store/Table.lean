import StoreBench.Text.ByteOrder

/-!
Contract: entries under text keys, in the order of the keys.

Keys are ordered by their UTF-8 bytes, which is how texts compare.

Owns: the order of keys, and `Table`, look-up, change and the walk from a key on.
-/

namespace StoreBench.Store

/-- Whether the first key sorts before the second. -/
def keyBefore (first second : String) : Bool := first < second

/-- Keys are ordered by their bytes. -/
theorem keyBefore_iff_bytes_lt (first second : String) :
    keyBefore first second = true ↔ Text.bytesOf first < Text.bytesOf second := by
  rw [keyBefore, decide_eq_true_iff, Text.lt_iff_bytes_lt]

/-- Entries with different keys, each before those with later keys. -/
structure Table (α : Type) where
  entries : List (String × α)
  deriving DecidableEq, Repr

namespace Table

variable {α : Type}

def empty : Table α := ⟨[]⟩

def size (table : Table α) : Nat := table.entries.length

def keys (table : Table α) : List String := table.entries.map Prod.fst

def get? (table : Table α) (key : String) : Option α :=
  (table.entries.find? (·.1 = key)).map Prod.snd

/-- Entries in order with the value under one key set. -/
def insertInto (key : String) (value : α) : List (String × α) → List (String × α)
  | [] => [(key, value)]
  | (first, stored) :: rest =>
    if keyBefore first key then (first, stored) :: insertInto key value rest
    else if first = key then (key, value) :: rest
    else (key, value) :: (first, stored) :: rest

def insert (table : Table α) (key : String) (value : α) : Table α :=
  ⟨insertInto key value table.entries⟩

/-- Removes the entry under a key, if there is one. -/
def erase (table : Table α) (key : String) : Table α :=
  ⟨table.entries.filter (·.1 ≠ key)⟩

/-- The entries whose key is `start` or comes after it, in order. -/
def startingAt (table : Table α) (start : String) : List (String × α) :=
  table.entries.filter fun entry => !keyBefore entry.1 start

end Table

end StoreBench.Store
