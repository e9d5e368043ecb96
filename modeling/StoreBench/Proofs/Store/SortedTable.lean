import Mathlib.Data.String.Basic
import StoreBench.Store.Table

/-!
Contract: a table is a map from keys to values that is walked in the order of its keys.

Owns:
- `Table.Sorted`, strictly ascending keys, which every change keeps;
- look-up after every change, and changes of one entry one after the other.
-/

namespace StoreBench.Store.Table

variable {α : Type}

/-- The keys ascend, so that none occurs twice. -/
def Sorted (table : Table α) : Prop := table.entries.Pairwise fun first second => first.1 < second.1

theorem sorted_empty : (empty : Table α).Sorted := List.Pairwise.nil

/-- In a sorted table a value is found under a key exactly if they are an entry. -/
theorem get?_eq_some_iff {table : Table α} (sorted : table.Sorted) {key : String} {value : α} :
    table.get? key = some value ↔ (key, value) ∈ table.entries := by
  obtain ⟨entries⟩ := table
  unfold get?
  unfold Sorted at sorted
  induction entries with
  | nil => simp
  | cons entry rest inductionHypothesis =>
    obtain ⟨first, stored⟩ := entry
    obtain ⟨smallest, sortedRest⟩ := List.pairwise_cons.1 sorted
    by_cases same : first = key
    · subst same
      have apart : (first, value) ∉ rest := fun later => lt_irrefl first (smallest _ later)
      simp [apart, eq_comm]
    · simpa [same, Ne.symm same] using inductionHypothesis sortedRest

theorem insertInto_cons (key : String) (value : α) (first : String) (stored : α)
    (rest : List (String × α)) :
    insertInto key value ((first, stored) :: rest) =
      if first < key then (first, stored) :: insertInto key value rest
      else if first = key then (key, value) :: rest
      else (key, value) :: (first, stored) :: rest := by
  simp [insertInto, keyBefore]

/-- Insertion adds its entry and keeps the entries under other keys. -/
theorem mem_insertInto {key : String} {value : α} {entries : List (String × α)}
    (sorted : entries.Pairwise fun first second => first.1 < second.1) {entry : String × α} :
    entry ∈ insertInto key value entries ↔
      entry = (key, value) ∨ (entry.1 ≠ key ∧ entry ∈ entries) := by
  induction entries with
  | nil => simp [insertInto]
  | cons head rest inductionHypothesis =>
    obtain ⟨first, stored⟩ := head
    obtain ⟨smallest, sortedRest⟩ := List.pairwise_cons.1 sorted
    rw [insertInto_cons, List.mem_cons]
    rcases lt_trichotomy first key with before | rfl | behind
    · rw [if_pos before, List.mem_cons, inductionHypothesis sortedRest]
      have other : entry = (first, stored) → entry.1 ≠ key := by
        rintro rfl
        exact ne_of_lt before
      grind
    · rw [if_neg (lt_irrefl _), if_pos rfl, List.mem_cons]
      have other : entry ∈ rest → entry.1 ≠ first := fun later => ne_of_gt (smallest _ later)
      have same : entry = (first, stored) → entry.1 = first := by
        rintro rfl
        rfl
      grind
    · rw [if_neg (lt_asymm behind), if_neg (ne_of_gt behind), List.mem_cons, List.mem_cons]
      have head : entry = (first, stored) → entry.1 ≠ key := by
        rintro rfl
        exact ne_of_gt behind
      have other : entry ∈ rest → entry.1 ≠ key :=
        fun later => ne_of_gt (lt_trans behind (smallest _ later))
      grind

theorem sorted_insertInto {key : String} {value : α} {entries : List (String × α)}
    (sorted : entries.Pairwise fun first second => first.1 < second.1) :
    (insertInto key value entries).Pairwise fun first second => first.1 < second.1 := by
  induction entries with
  | nil => simp [insertInto]
  | cons head rest inductionHypothesis =>
    obtain ⟨first, stored⟩ := head
    obtain ⟨smallest, sortedRest⟩ := List.pairwise_cons.1 sorted
    rw [insertInto_cons]
    rcases lt_trichotomy first key with before | rfl | behind
    · rw [if_pos before, List.pairwise_cons]
      refine ⟨?_, inductionHypothesis sortedRest⟩
      intro entry inserted
      rcases (mem_insertInto sortedRest).1 inserted with rfl | ⟨_, later⟩
      · exact before
      · exact smallest _ later
    · rw [if_neg (lt_irrefl _), if_pos rfl, List.pairwise_cons]
      exact ⟨smallest, sortedRest⟩
    · rw [if_neg (lt_asymm behind), if_neg (ne_of_gt behind), List.pairwise_cons]
      refine ⟨?_, sorted⟩
      intro entry member
      rcases List.mem_cons.1 member with rfl | later
      · exact behind
      · exact lt_trans behind (smallest _ later)

theorem Sorted.insert {table : Table α} (sorted : table.Sorted) (key : String) (value : α) :
    (table.insert key value).Sorted := sorted_insertInto sorted

theorem Sorted.erase {table : Table α} (sorted : table.Sorted) (key : String) :
    (table.erase key).Sorted := List.Pairwise.filter _ sorted

theorem get?_empty (key : String) : (empty : Table α).get? key = none := rfl

/-- After an insertion its value is found under its key, and nothing else has changed. -/
theorem get?_insert {table : Table α} (sorted : table.Sorted) (key : String) (value : α)
    (other : String) :
    (table.insert key value).get? other = if other = key then some value else table.get? other := by
  ext found
  rw [get?_eq_some_iff (sorted.insert key value), insert, mem_insertInto sorted]
  by_cases same : other = key
  · simp [same, eq_comm]
  · simp [same, get?_eq_some_iff sorted]

theorem get?_erase {table : Table α} (sorted : table.Sorted) (key other : String) :
    (table.erase key).get? other = if other = key then none else table.get? other := by
  ext found
  rw [get?_eq_some_iff (sorted.erase key), erase, List.mem_filter]
  by_cases same : other = key
  · simp [same]
  · simp [same, get?_eq_some_iff sorted]

/-- A value that was just set is found, whatever the order of the keys. -/
theorem get?_insert_self (table : Table α) (key : String) (value : α) :
    (table.insert key value).get? key = some value := by
  obtain ⟨entries⟩ := table
  rw [insert, get?]
  induction entries with
  | nil => simp [insertInto]
  | cons entry rest inductionHypothesis =>
    obtain ⟨first, stored⟩ := entry
    rw [insertInto_cons]
    split
    · next before => simpa [ne_of_lt before] using inductionHypothesis
    · split
      · simp
      · simp

/-- Of two values that are set one after the other the second stays. -/
theorem insert_insert (table : Table α) (key : String) (value other : α) :
    (table.insert key value).insert key other = table.insert key other := by
  obtain ⟨entries⟩ := table
  simp only [insert, mk.injEq]
  induction entries with
  | nil => simp [insertInto, keyBefore]
  | cons entry rest inductionHypothesis =>
    obtain ⟨first, stored⟩ := entry
    rw [insertInto_cons, insertInto_cons]
    by_cases before : first < key
    · rw [if_pos before, if_pos before, insertInto_cons, if_pos before, inductionHypothesis]
    · rw [if_neg before, if_neg before]
      split
      · rw [insertInto_cons, if_neg (lt_irrefl key), if_pos rfl]
      · rw [insertInto_cons, if_neg (lt_irrefl key), if_pos rfl]

end StoreBench.Store.Table
