import Mathlib.Logic.Function.Basic
import StoreBench.Total

/-!
Contract: sums over the members of a list of which one changes.

Owns:
- how a view of the list, a sum of weights and a joint list change when one member is replaced;
- shares of the members that add up to an amount which grows;
- comparison of sums weight by weight.
-/

namespace StoreBench

variable {α : Type} {weight other : α → Nat}

/-- After a replacement a member is the new one, or it stands elsewhere and stood there before. -/
theorem of_getElem?_set {members : List α} {position other : Nat} {new member : α}
    (got : (members.set position new)[other]? = some member) :
    position = other ∧ member = new ∨ position ≠ other ∧ members[other]? = some member := by
  by_cases same : position = other
  · subst same
    rw [List.getElem?_set_self'] at got
    obtain ⟨_, _, rfl⟩ := Option.map_eq_some_iff.1 got
    exact .inl ⟨rfl, rfl⟩
  · rw [List.getElem?_set_ne same] at got
    exact .inr ⟨same, got⟩

/-- A list around one of its members, and the list in which another stands in its place. -/
theorem exists_split {members : List α} {position : Nat} {old : α}
    (found : members[position]? = some old) :
    ∃ front rear, members = front ++ old :: rear ∧
      ∀ new, members.set position new = front ++ new :: rear := by
  obtain ⟨inside, rfl⟩ := List.getElem?_eq_some_iff.1 found
  refine ⟨members.take position, members.drop (position + 1), ?_, fun new => ?_⟩
  · rw [List.getElem_cons_drop, List.take_append_drop]
  · rw [List.set_eq_take_append_cons_drop, if_pos inside]

/-- Replacing a member by one that looks the same leaves the view of the list. -/
theorem map_set_of_eq {β : Type} {view : α → β} {members : List α} {position : Nat} {old new : α}
    (found : members[position]? = some old) (same : view new = view old) :
    (members.set position new).map view = members.map view := by
  have inside := (List.getElem?_eq_some_iff.1 found).1
  apply List.ext_getElem?
  intro other
  rw [List.getElem?_map, List.getElem?_map]
  by_cases here : position = other
  · subst here
    rw [List.getElem?_set_self inside, found, Option.map_some, Option.map_some, same]
  · rw [List.getElem?_set_ne here]

/-- Replacing a member replaces its weight in the sum. -/
theorem total_map_set (weight : α → Nat) {members : List α} {position : Nat} {old : α}
    (found : members[position]? = some old) (new : α) :
    total ((members.set position new).map weight) + weight old =
      total (members.map weight) + weight new := by
  induction members generalizing position with
  | nil => cases found
  | cons first rest inductionHypothesis =>
    cases position with
    | zero =>
      cases found
      simp only [List.set_cons_zero, List.map_cons, total]
      omega
    | succ position =>
      have tail := inductionHypothesis found
      simp only [List.set_cons_succ, List.map_cons, total]
      omega

/-- Replacing a member replaces what it contributes to a joint list, in whatever order. -/
theorem flatten_map_set {β : Type} (part : α → List β) {members : List α} {position : Nat}
    {old : α} (found : members[position]? = some old) (new : α) :
    (((members.set position new).map part).flatten ++ part old).Perm
      ((members.map part).flatten ++ part new) := by
  induction members generalizing position with
  | nil => cases found
  | cons first rest inductionHypothesis =>
    cases position with
    | zero =>
      cases found
      simp only [List.set_cons_zero, List.map_cons, List.flatten_cons]
      rw [List.append_assoc]
      exact List.perm_append_comm.trans (List.perm_append_comm.append_right _)
    | succ position =>
      have tail := inductionHypothesis found
      simp only [List.set_cons_succ, List.map_cons, List.flatten_cons, List.append_assoc]
      exact tail.append_left _

/-- Changing the weight of one of distinct members changes the sum by as much. -/
theorem total_map_update {members : List α} (distinct : members.Nodup) {member : α}
    (inside : member ∈ members) (same : ∀ each, each ≠ member → other each = weight each) :
    total (members.map other) + weight member = total (members.map weight) + other member := by
  induction members with
  | nil => cases inside
  | cons first rest inductionHypothesis =>
    obtain ⟨apart, distinctRest⟩ := List.nodup_cons.1 distinct
    simp only [List.map_cons, total]
    rcases List.mem_cons.1 inside with rfl | inRest
    · have kept : rest.map other = rest.map weight := by
        apply List.map_congr_left
        intro each inRest
        exact same each fun equal => apart (equal ▸ inRest)
      rw [kept]
      omega
    · have head := same first fun equal => apart (equal ▸ inRest)
      have tail := inductionHypothesis distinctRest inRest
      omega

/-- More at one index is as much more in the sum over a range. -/
theorem total_range_update (numbers : Nat → Nat) {index count : Nat} (inside : index < count)
    (more : Nat) :
    total ((List.range count).map (Function.update numbers index (numbers index + more))) =
      total ((List.range count).map numbers) + more := by
  have elsewhere : ∀ other ≠ index,
      Function.update numbers index (numbers index + more) other = numbers other :=
    fun other different => Function.update_of_ne different _ _
  have sum := total_map_update List.nodup_range (List.mem_range.2 inside) elsewhere
  rw [Function.update_self] at sum
  omega

/-- Shares that add up to an amount: if a member is replaced by one whose share is larger, they add
up to as much more, and the others keep theirs. -/
theorem exists_shares {members : List α} (Share : Nat → α → Nat → Prop) {numbers : Nat → Nat}
    {index count more before after : Nat} {new : α} (inside : index < count)
    (was : before = total ((List.range count).map numbers)) (grows : after = before + more)
    (own : Share index new (numbers index + more))
    (others : ∀ {other : Nat} {member : α}, members[other]? = some member →
      Share other member (numbers other)) :
    ∃ shares : Nat → Nat, after = total ((List.range count).map shares) ∧
      ∀ {other : Nat} {member : α}, (members.set index new)[other]? = some member →
        Share other member (shares other) := by
  refine ⟨Function.update numbers index (numbers index + more), ?_, fun {other member} got => ?_⟩
  · rw [total_range_update numbers inside, ← was, grows]
  · rcases of_getElem?_set got with ⟨rfl, rfl⟩ | ⟨different, got⟩
    · rw [Function.update_self]
      exact own
    · rw [Function.update_of_ne (Ne.symm different)]
      exact others got

theorem total_map_of_eq {amount : Nat} {members : List α}
    (same : ∀ member ∈ members, weight member = amount) :
    total (members.map weight) = members.length * amount := by
  induction members with
  | nil => rw [List.length_nil, Nat.zero_mul]; rfl
  | cons first rest inductionHypothesis =>
    have tail := inductionHypothesis fun member inRest =>
      same member (List.mem_cons_of_mem _ inRest)
    rw [List.map_cons, total, tail, same first List.mem_cons_self, List.length_cons,
      Nat.succ_mul, Nat.add_comm]

theorem total_map_eq_zero {members : List α} (none : ∀ member ∈ members, weight member = 0) :
    total (members.map weight) = 0 := by
  rw [total_map_of_eq none, Nat.mul_zero]

theorem exists_of_total_map_ne_zero {members : List α}
    (positive : total (members.map weight) ≠ 0) : ∃ member ∈ members, weight member ≠ 0 := by
  apply Classical.byContradiction
  intro nobody
  apply positive
  apply total_map_eq_zero
  intro member inside
  exact Classical.byContradiction fun heavy => nobody ⟨member, inside, heavy⟩

theorem total_map_le {members : List α} (less : ∀ member ∈ members, weight member ≤ other member) :
    total (members.map weight) ≤ total (members.map other) := by
  induction members with
  | nil => exact Nat.le_refl 0
  | cons first rest inductionHypothesis =>
    have head := less first List.mem_cons_self
    have tail := inductionHypothesis fun member inRest =>
      less member (List.mem_cons_of_mem _ inRest)
    simp only [List.map_cons, total]
    omega

theorem total_map_lt {members : List α} (less : ∀ member ∈ members, weight member ≤ other member)
    {member : α} (inside : member ∈ members) (strict : weight member < other member) :
    total (members.map weight) < total (members.map other) := by
  induction members with
  | nil => cases inside
  | cons first rest inductionHypothesis =>
    have lessInRest : ∀ member ∈ rest, weight member ≤ other member :=
      fun member inRest => less member (List.mem_cons_of_mem _ inRest)
    simp only [List.map_cons, total]
    rcases List.mem_cons.1 inside with rfl | inRest
    · have tail := total_map_le lessInRest
      omega
    · have head := less first List.mem_cons_self
      have tail := inductionHypothesis lessInRest inRest
      omega

theorem le_total_map {members : List α} {member : α} (inside : member ∈ members) :
    weight member ≤ total (members.map weight) := by
  induction members with
  | nil => cases inside
  | cons first rest inductionHypothesis =>
    simp only [List.map_cons, total]
    rcases List.mem_cons.1 inside with rfl | inRest
    · omega
    · have tail := inductionHypothesis inRest
      omega

/-- Weights that are bounded place by place are bounded in sum. -/
theorem total_map_le_total {members : List α} {bounds : List Nat}
    (size : members.length = bounds.length)
    (less : ∀ {position member}, members[position]? = some member →
      weight member ≤ bounds.getD position 0) : total (members.map weight) ≤ total bounds := by
  induction members generalizing bounds with
  | nil => exact Nat.zero_le _
  | cons first rest inductionHypothesis =>
    cases bounds with
    | nil => cases size
    | cons bound others =>
      have head : weight first ≤ bound := @less 0 first rfl
      have tail := inductionHypothesis (Nat.succ.inj size) fun {position member} found =>
        @less (position + 1) member found
      simp only [List.map_cons, total]
      omega

end StoreBench
