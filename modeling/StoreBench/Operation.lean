/-!
Contract: the five data operations of a store client, the status a call answers
with, and the ten slots that latencies are collected in.

Owns:
- the operations and statuses with their printed names;
- slots: an operation together with whether its calls failed, in display order;
- the rule that files an answered call under a slot.
-/

namespace StoreBench

/-- The data operations a store client offers. -/
inductive Operation
  | read
  | update
  | insert
  | delete
  | scan
  deriving DecidableEq, Repr, Inhabited

namespace Operation

/-- Every operation, in display order. -/
def all : List Operation := [.read, .update, .insert, .delete, .scan]

def index : Operation → Nat
  | .read => 0
  | .update => 1
  | .insert => 2
  | .delete => 3
  | .scan => 4

theorem index_lt (operation : Operation) : operation.index < 5 := by
  cases operation <;> decide

def name : Operation → String
  | .read => "READ"
  | .update => "UPDATE"
  | .insert => "INSERT"
  | .delete => "DELETE"
  | .scan => "SCAN"

def ofName? (text : String) : Option Operation := all.find? (·.name == text)

end Operation

/-- What a store answers to a call that did not break. -/
inductive Status
  | ok
  | error
  | notFound
  | notImplemented
  | badRequest
  deriving DecidableEq, Repr, Inhabited

namespace Status

/-- Whether the call did what it was asked to do. -/
def isOk : Status → Bool
  | .ok => true
  | _ => false

def name : Status → String
  | .ok => "OK"
  | .error => "ERROR"
  | .notFound => "NOT_FOUND"
  | .notImplemented => "NOT_IMPLEMENTED"
  | .badRequest => "BAD_REQUEST"

def all : List Status := [.ok, .error, .notFound, .notImplemented, .badRequest]

def ofName? (text : String) : Option Status := all.find? (·.name == text)

end Status

/-- Where the latency of a call is filed: successful and failed calls of one
operation are kept apart. -/
structure Slot where
  operation : Operation
  failed : Bool
  deriving DecidableEq, Repr, Inhabited

namespace Slot

/-- Every slot in display order: the successes, then the failures. -/
def all : List Slot :=
  Operation.all.map (⟨·, false⟩) ++ Operation.all.map (⟨·, true⟩)

def index (slot : Slot) : Nat :=
  if slot.failed then slot.operation.index + 5 else slot.operation.index

theorem index_lt (slot : Slot) : slot.index < 10 := by
  have bound := slot.operation.index_lt
  unfold index
  split <;> omega

theorem index_injective {left right : Slot} (same : left.index = right.index) :
    left = right := by
  obtain ⟨leftOperation, leftFailed⟩ := left
  obtain ⟨rightOperation, rightFailed⟩ := right
  cases leftOperation <;> cases leftFailed <;> cases rightOperation <;> cases rightFailed <;>
    simp [index, Operation.index] at same <;> rfl

def name (slot : Slot) : String :=
  if slot.failed then slot.operation.name ++ "-FAILED" else slot.operation.name

/-- The slot of failed calls of the same operation. -/
def failure (slot : Slot) : Slot := { slot with failed := true }

/-- Where a call filed under `slot` goes once its status is known. -/
def forStatus (slot : Slot) (status : Status) : Slot :=
  if status.isOk then slot else slot.failure

def ofName? (text : String) : Option Slot := all.find? (·.name == text)

end Slot

/-- The slot of an answered call. -/
def Operation.slot (operation : Operation) (status : Status) : Slot :=
  Slot.forStatus ⟨operation, false⟩ status

end StoreBench
