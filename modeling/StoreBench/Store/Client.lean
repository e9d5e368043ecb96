import StoreBench.Failure
import StoreBench.Operation
import StoreBench.Store.Row

/-!
Contract: what a phase asks of the stores it drives.

Owns:
- `Call`, a data call with its arguments;
- `Reply`, what it answers, and `Results`, what it appends;
- `Clients`, the stores of all workers of a phase.

Does not own: any particular store.
-/

namespace StoreBench.Store

/-- A data call. -/
inductive Call
  /-- Reads a row, or the named fields of it. -/
  | read (table key : String) (fields : Option (List String))
  /-- Reads up to `count` rows from a key on. -/
  | scan (table start : String) (count : Nat) (fields : Option (List String))
  /-- Writes values over those of a stored row. -/
  | update (table key : String) (values : Row)
  /-- Stores a row in the place of any other. -/
  | insert (table key : String) (values : Row)
  | delete (table key : String)
  deriving DecidableEq, Repr

def Call.operation : Call → Operation
  | .read .. => .read
  | .scan .. => .scan
  | .update .. => .update
  | .insert .. => .insert
  | .delete .. => .delete

def Call.table : Call → String
  | .read table .. | .scan table .. | .update table .. | .insert table .. | .delete table _ => table

/-- The key that a call is about, or starts from. -/
def Call.key : Call → String
  | .read _ key _ | .scan _ key .. | .update _ key _ | .insert _ key _ | .delete _ key => key

/-- The names of the fields that a call asks for, if it asks for some only. -/
def Call.fields : Call → Option (List String)
  | .read _ _ fields | .scan _ _ _ fields => fields
  | _ => none

/-- The values that a call writes. -/
def Call.values : Call → Row
  | .update _ _ values | .insert _ _ values => values
  | _ => []

/-- What a call answers, and what it appends to the caller's results. -/
structure Reply where
  outcome : Except Failure Status
  fields : Row
  rows : List Row

/-- What a call appends to the caller's results. -/
structure Results where
  fields : Row
  rows : List Row
  deriving DecidableEq, Repr

def Results.none : Results := ⟨[], []⟩

namespace Reply

def bare (status : Status) : Reply := ⟨.ok status, [], []⟩

def failed (fault : Failure) : Reply := ⟨.error fault, [], []⟩

def results (reply : Reply) : Results := ⟨reply.fields, reply.rows⟩

end Reply

/-- A reply with these results. -/
def Results.reply (results : Results) (outcome : Except Failure Status) : Reply :=
  ⟨outcome, results.fields, results.rows⟩

/-- The stores of the workers of a phase, worker by worker, in states of type `σ`. -/
structure Clients (σ : Type) where
  init : Nat → σ → Except Failure Unit × σ
  cleanup : Nat → σ → Except Failure Unit × σ
  call : Nat → Call → σ → Reply × σ

end StoreBench.Store
