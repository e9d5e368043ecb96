import StoreBench.Operation

/-!
Contract: one value for every slot.

Owns: the table, its reading and its change at one slot.
-/

namespace StoreBench.Latency

/-- A value for each of the ten slots, in display order. -/
abbrev PerSlot (α : Type) : Type := Vector α 10

namespace PerSlot

variable {α β : Type}

def replicate (value : α) : PerSlot α := Vector.replicate 10 value

def get (table : PerSlot α) (slot : Slot) : α :=
  have inside := slot.index_lt
  table[slot.index]

def modify (table : PerSlot α) (slot : Slot) (change : α → α) : PerSlot α :=
  table.set slot.index (change (table.get slot)) slot.index_lt

@[simp] theorem get_replicate (value : α) (slot : Slot) : (replicate value).get slot = value := by
  simp [get, replicate]

theorem get_modify (table : PerSlot α) (slot other : Slot) (change : α → α) :
    (table.modify slot change).get other =
      if other = slot then change (table.get slot) else table.get other := by
  unfold modify get
  rw [Vector.getElem_set]
  by_cases same : other = slot
  · simp [same]
  · have apart : slot.index ≠ other.index := fun equal => same (Slot.index_injective equal).symm
    simp [same, apart]

/-- The values in display order. -/
def toList (table : PerSlot α) : List α := Slot.all.map table.get

end PerSlot

end StoreBench.Latency
