import Mathlib.Data.List.Induction
import StoreBench.Store.Row

/-!
Contract: what is left of a row once values have been written over it.

Writing a field looks for the first field of its name, and so does every look-up, so that the
two meet field by field.  A merge comes apart at the front of the row: its first field takes
the last value of its name, and the values of other names go on to the rest.  Repetition and
exchange of merges follow from that by recursion on the row.

Owns:
- `Row.first?` and `Row.last?`, the value that counts for a name;
- `Row.Overwritten`, the names, values and hidden duplicates of a merged row;
- merges one after the other, repeated, and in either order.

Does not own: rows as bytes.
-/

namespace StoreBench.Store

/-! ## One value -/

section
variable {row : Row} {field : Field}

theorem mem_overwrite {written : Field} (member : written ∈ overwrite row field) :
    written ∈ row ∨ written = field := by
  induction row with
  | nil => exact .inr (List.mem_singleton.1 member)
  | cons stored rest inductionHypothesis =>
    rw [overwrite] at member
    split at member
    · next same =>
      rcases List.mem_cons.1 member with rfl | later
      · rw [same]
        exact .inr rfl
      · exact .inl (List.mem_cons_of_mem _ later)
    · rcases List.mem_cons.1 member with rfl | later
      · exact .inl List.mem_cons_self
      · exact (inductionHypothesis later).imp_left (List.mem_cons_of_mem _)

theorem map_name_overwrite (row : Row) (field : Field) :
    (overwrite row field).map Field.name =
      row.map Field.name ++ if field.name ∈ row.map Field.name then [] else [field.name] := by
  induction row with
  | nil => rfl
  | cons stored rest inductionHypothesis =>
    rw [overwrite]
    by_cases same : stored.name = field.name
    · simp [same]
    · simp [same, Ne.symm same, inductionHypothesis]

end

namespace Row

/-- The value of the first field of a name. -/
def first? (row : Row) (name : String) : Option (List UInt8) :=
  (row.find? fun field => field.name = name).map Field.value

/-- The value of the last field of a name. -/
def last? (row : Row) (name : String) : Option (List UInt8) := Row.first? row.reverse name

variable {row values : Row}

@[simp] theorem first?_nil (name : String) : Row.first? [] name = none := rfl

@[simp] theorem first?_cons (field : Field) (row : Row) (name : String) :
    Row.first? (field :: row) name = if field.name = name then some field.value
      else row.first? name := by
  by_cases same : field.name = name
  · simp [first?, same]
  · simp [first?, same]

theorem last?_cons (field : Field) (row : Row) (name : String) :
    Row.last? (field :: row) name =
      (row.last? name).or (if field.name = name then some field.value else none) := by
  rw [last?, List.reverse_cons, first?, List.find?_append, Option.map_or]
  congr 1
  exact first?_cons field [] name

theorem last?_concat (row : Row) (field : Field) (name : String) :
    Row.last? (row ++ [field]) name = if field.name = name then some field.value
      else row.last? name := by
  rw [last?, List.reverse_append]
  exact first?_cons field row.reverse name

theorem last?_eq_none {name : String} (absent : name ∉ values.map Field.name) :
    values.last? name = none := by
  induction values with
  | nil => rfl
  | cons field rest inductionHypothesis =>
    rw [List.map_cons, List.mem_cons, not_or] at absent
    rw [last?_cons, inductionHypothesis absent.2, if_neg (Ne.symm absent.1)]
    rfl

theorem first?_overwrite (row : Row) (field : Field) (name : String) :
    Row.first? (overwrite row field) name = if field.name = name then some field.value
      else row.first? name := by
  induction row with
  | nil => exact first?_cons field [] name
  | cons stored rest inductionHypothesis =>
    rw [overwrite]
    by_cases same : stored.name = field.name
    · rw [if_pos same, first?_cons, first?_cons, same]
      by_cases asked : field.name = name
      · rw [if_pos asked, if_pos asked]
      · simp only [if_neg asked]
    · rw [if_neg same, first?_cons, first?_cons, inductionHypothesis]
      by_cases asked : stored.name = name
      · rw [if_pos asked, if_pos asked, if_neg fun other => same (asked.trans other.symm)]
      · rw [if_neg asked, if_neg asked]

/-! ## All values -/

theorem merge_concat (row values : Row) (field : Field) :
    row.merge (values ++ [field]) = overwrite (row.merge values) field := by
  rw [merge, List.foldl_append]
  rfl

theorem merge_append (row first second : Row) :
    row.merge (first ++ second) = (row.merge first).merge second := List.foldl_append

theorem mem_merge {written : Field} (member : written ∈ row.merge values) :
    written ∈ row ∨ written ∈ values := by
  induction values using List.reverseRecOn with
  | nil => exact .inl member
  | append_singleton values field inductionHypothesis =>
    rw [merge_concat] at member
    rw [List.mem_append, List.mem_singleton]
    rcases mem_overwrite member with early | last
    · exact (inductionHypothesis early).imp_right .inl
    · exact .inr (.inr last)

theorem eraseDups_concat (names : List String) (name : String) :
    (names ++ [name]).eraseDups = names.eraseDups ++ if name ∈ names then [] else [name] := by
  rw [List.eraseDups_append, List.removeAll]
  by_cases known : name ∈ names
  · simp [known]
  · simp [known, List.eraseDups_cons]

/-- The names that values mention and the row does not, each once, as they first appear. -/
def newNames (row values : Row) : List String :=
  ((values.map Field.name).filter (· ∉ row.map Field.name)).eraseDups

theorem mem_newNames {name : String} :
    name ∈ row.newNames values ↔ name ∈ values.map Field.name ∧ name ∉ row.map Field.name := by
  rw [newNames, List.mem_eraseDups, List.mem_filter, decide_eq_true_iff]

theorem newNames_concat (row values : Row) (field : Field) :
    row.newNames (values ++ [field]) = row.newNames values ++
      if field.name ∈ row.map Field.name ++ row.newNames values then [] else [field.name] := by
  simp only [List.mem_append, mem_newNames]
  by_cases old : field.name ∈ row.map Field.name
  · rw [if_pos (.inl old), newNames, List.map_append, List.filter_append, List.map_singleton,
      List.filter_cons_of_neg (by simpa using old), List.filter_nil, List.append_nil,
      List.append_nil]
    rfl
  · rw [newNames, List.map_append, List.filter_append, List.map_singleton,
      List.filter_cons_of_pos (by simpa using old), List.filter_nil, eraseDups_concat]
    simp only [old, List.mem_filter, not_false_eq_true, decide_true, and_true, false_or, newNames]

theorem map_name_merge (row values : Row) :
    (row.merge values).map Field.name = row.map Field.name ++ row.newNames values := by
  induction values using List.reverseRecOn with
  | nil => exact (List.append_nil _).symm
  | append_singleton values field inductionHypothesis =>
    rw [merge_concat, map_name_overwrite, inductionHypothesis, newNames_concat, List.append_assoc]

theorem newNames_eq_nil (known : ∀ field ∈ values, field.name ∈ row.map Field.name) :
    row.newNames values = [] := by
  apply List.eq_nil_iff_forall_not_mem.2
  intro name new
  obtain ⟨mentioned, absent⟩ := mem_newNames.1 new
  obtain ⟨field, member, rfl⟩ := List.mem_map.1 mentioned
  exact absent (known field member)

/-- Values for fields that the row has leave its fields in their places. -/
theorem map_name_merge_of_known (known : ∀ field ∈ values, field.name ∈ row.map Field.name) :
    (row.merge values).map Field.name = row.map Field.name := by
  rw [map_name_merge, newNames_eq_nil known, List.append_nil]

theorem first?_merge (row values : Row) (name : String) :
    (row.merge values).first? name = (values.last? name).or (row.first? name) := by
  induction values using List.reverseRecOn with
  | nil => rfl
  | append_singleton values field inductionHypothesis =>
    rw [merge_concat, first?_overwrite, inductionHypothesis, last?_concat]
    split
    · rfl
    · rfl

/-! ## Field by field -/

/-- The values for other names. -/
def without (values : Row) (name : String) : Row := values.filter fun field => field.name ≠ name

theorem mem_without {name : String} {field : Field} :
    field ∈ values.without name ↔ field ∈ values ∧ field.name ≠ name := by
  rw [without, List.mem_filter, decide_eq_true_iff]

theorem mem_map_name_without {name other : String} :
    name ∈ (values.without other).map Field.name ↔ name ∈ values.map Field.name ∧ name ≠ other := by
  simp only [List.mem_map, mem_without]
  constructor
  · rintro ⟨field, ⟨member, apart⟩, rfl⟩
    exact ⟨⟨field, member, rfl⟩, apart⟩
  · rintro ⟨⟨field, member, rfl⟩, apart⟩
    exact ⟨field, ⟨member, apart⟩, rfl⟩

theorem newNames_of_newNames_without {name : String} {stored : Field}
    (new : name ∈ row.newNames (values.without stored.name)) :
    name ∈ Row.newNames (stored :: row) values := by
  obtain ⟨mentioned, absent⟩ := mem_newNames.1 new
  obtain ⟨inside, other⟩ := mem_map_name_without.1 mentioned
  exact mem_newNames.2 ⟨inside, fun known => (List.mem_cons.1 known).elim other absent⟩

theorem last?_without {name other : String} (apart : name ≠ other) :
    (values.without other).last? name = values.last? name := by
  induction values with
  | nil => rfl
  | cons field rest inductionHypothesis =>
    rw [last?_cons, ← inductionHypothesis]
    by_cases here : field.name = other
    · have elsewhere : field.name ≠ name := fun same => apart (same.symm.trans here)
      rw [if_neg elsewhere, Option.or_none, without, List.filter_cons_of_neg (by simpa using here)]
      rfl
    · rw [without, List.filter_cons_of_pos (by simpa using here)]
      exact last?_cons ..

/-- The field with the last value of its name. -/
def restamp (values : Row) (field : Field) : Field :=
  { field with value := (values.last? field.name).getD field.value }

/-- The first field of a row takes the last value of its name, and the rest of the row takes the
values for other names. -/
theorem merge_cons (stored : Field) (row values : Row) :
    Row.merge (stored :: row) values =
      values.restamp stored :: row.merge (values.without stored.name) := by
  induction values generalizing stored row with
  | nil => rfl
  | cons field rest inductionHypothesis =>
    rw [merge, List.foldl_cons, overwrite, restamp, last?_cons]
    by_cases same : stored.name = field.name
    · rw [if_pos same, if_pos same.symm, without, List.filter_cons_of_neg (by simp [same])]
      refine (inductionHypothesis ⟨stored.name, field.value⟩ row).trans ?_
      rw [restamp, Option.getD_or]
      rfl
    · rw [if_neg same, if_neg (Ne.symm same), Option.or_none, without,
        List.filter_cons_of_pos (by simpa using Ne.symm same)]
      exact inductionHypothesis stored (overwrite row field)

theorem restamp_of_unmentioned {field : Field} (absent : field.name ∉ values.map Field.name) :
    values.restamp field = field := by
  rw [restamp, last?_eq_none absent]
  rfl

/-- One of two lists that mention different names leaves the field as it is. -/
theorem restamp_comm {first second : Row}
    (apart : List.Disjoint (first.map Field.name) (second.map Field.name)) (field : Field) :
    second.restamp (first.restamp field) = first.restamp (second.restamp field) := by
  by_cases mentioned : field.name ∈ first.map Field.name
  · have unmentioned : field.name ∉ second.map Field.name := apart mentioned
    rw [restamp_of_unmentioned unmentioned]
    exact restamp_of_unmentioned unmentioned
  · rw [restamp_of_unmentioned mentioned]
    exact Eq.symm (restamp_of_unmentioned mentioned)

theorem without_of_unmentioned {name : String} (absent : name ∉ values.map Field.name) :
    values.without name = values := by
  apply List.filter_eq_self.2
  intro field member
  exact decide_eq_true fun same => absent (same ▸ List.mem_map_of_mem member)

theorem getElem?_merge_of_unmentioned {position : Nat} {field : Field}
    (found : row[position]? = some field) (absent : field.name ∉ values.map Field.name) :
    (row.merge values)[position]? = some field := by
  induction row generalizing position values with
  | nil => cases found
  | cons stored rest inductionHypothesis =>
    rw [merge_cons]
    cases position with
    | zero =>
      cases found
      rw [restamp_of_unmentioned absent]
      rfl
    | succ position =>
      exact inductionHypothesis found fun mentioned => absent (mem_map_name_without.1 mentioned).1

/-- A field behind another of its name stays as it is. -/
theorem getElem?_merge_of_hidden {earlier later : Nat} (behind : earlier < later)
    {visible hidden : Field} (before : row[earlier]? = some visible)
    (found : row[later]? = some hidden) (same : visible.name = hidden.name) :
    (row.merge values)[later]? = some hidden := by
  induction row generalizing earlier later values with
  | nil => cases before
  | cons stored rest inductionHypothesis =>
    obtain ⟨later, rfl⟩ := Nat.exists_eq_add_one_of_ne_zero (Nat.ne_zero_of_lt behind)
    rw [merge_cons]
    cases earlier with
    | zero =>
      -- the values of that name are for the first field alone
      cases before
      exact getElem?_merge_of_unmentioned found fun mentioned =>
        (mem_map_name_without.1 mentioned).2 same.symm
    | succ earlier => exact inductionHypothesis (Nat.lt_of_succ_lt_succ behind) before found

/-- What a row is after values have been written over it. -/
structure Overwritten (row values merged : Row) : Prop where
  /-- The names stay in their order, and the new ones follow as they first appear. -/
  names : merged.map Field.name = row.map Field.name ++ row.newNames values
  /-- The last value of a name counts, if there is one. -/
  value : ∀ name, merged.first? name = (values.last? name).or (row.first? name)
  /-- A field behind another of its name stays as it is. -/
  hidden : ∀ {earlier later : Nat} {visible hidden : Field}, earlier < later →
    row[earlier]? = some visible → row[later]? = some hidden → visible.name = hidden.name →
    merged[later]? = some hidden

theorem overwritten_merge (row values : Row) : Overwritten row values (row.merge values) where
  names := map_name_merge row values
  value := first?_merge row values
  hidden := fun behind before found same => getElem?_merge_of_hidden behind before found same

/-! ## Several merges -/

theorem exists_last? {name : String} (mentioned : name ∈ values.map Field.name) :
    ∃ value, values.last? name = some value := by
  cases found : values.last? name with
  | some value => exact ⟨value, rfl⟩
  | none =>
    rw [last?, first?, Option.map_eq_none_iff, List.find?_eq_none] at found
    obtain ⟨field, member, rfl⟩ := List.mem_map.1 mentioned
    exact (found field (List.mem_reverse.2 member) (decide_eq_true rfl)).elim

theorem first?_merge_of_mentioned {name : String} (mentioned : name ∈ values.map Field.name) :
    (row.merge values).first? name = values.last? name := by
  obtain ⟨value, last⟩ := exists_last? mentioned
  rw [first?_merge, last]
  rfl

/-- Values that the row has already change nothing. -/
theorem merge_eq_self
    (settled : ∀ name ∈ values.map Field.name, row.first? name = values.last? name) :
    row.merge values = row := by
  induction row generalizing values with
  | nil =>
    cases values with
    | nil => rfl
    | cons field rest =>
      obtain ⟨value, last⟩ : ∃ value, last? (field :: rest) field.name = some value :=
        exists_last? List.mem_cons_self
      have first := settled field.name List.mem_cons_self
      rw [last] at first
      cases first
  | cons stored rest inductionHypothesis =>
    rw [merge_cons]
    congr 1
    · by_cases mentioned : stored.name ∈ values.map Field.name
      · have last := settled stored.name mentioned
        rw [first?_cons, if_pos rfl] at last
        rw [restamp, ← last]
        rfl
      · exact restamp_of_unmentioned mentioned
    · apply inductionHypothesis
      intro name mentioned
      obtain ⟨inside, apart⟩ := mem_map_name_without.1 mentioned
      rw [last?_without apart, ← settled name inside, first?_cons, if_neg (Ne.symm apart)]

/-- A second merge of the same values changes nothing. -/
theorem merge_merge_self (row values : Row) :
    (row.merge values).merge values = row.merge values := by
  apply merge_eq_self
  intro name mentioned
  exact first?_merge_of_mentioned mentioned

/-- Values for names that the row does not have are appended. -/
theorem merge_of_absent (absent : ∀ field ∈ values, field.name ∉ row.map Field.name) :
    row.merge values = row ++ Row.merge [] values := by
  induction row with
  | nil => rfl
  | cons stored rest inductionHypothesis =>
    have unmentioned : stored.name ∉ values.map Field.name := by
      intro mentioned
      obtain ⟨field, member, same⟩ := List.mem_map.1 mentioned
      exact absent field member (same ▸ List.mem_cons_self)
    rw [merge_cons, restamp_of_unmentioned unmentioned, without_of_unmentioned unmentioned,
      inductionHypothesis fun field member later =>
        absent field member (List.mem_cons_of_mem _ later)]
    rfl

theorem merge_nil_merge {first second : Row}
    (apart : List.Disjoint (first.map Field.name) (second.map Field.name)) :
    (Row.merge [] first).merge second = Row.merge [] first ++ Row.merge [] second := by
  apply merge_of_absent
  intro field member known
  obtain ⟨other, written, same⟩ := List.mem_map.1 known
  rcases mem_merge written with impossible | inside
  · cases impossible
  · exact apart (List.mem_map_of_mem inside) (same ▸ List.mem_map_of_mem member)

/-- Two merges for different names come to the same in either order, but for the order of the
fields that they append. -/
theorem exists_exchange (row : Row) {first second : Row}
    (apart : List.Disjoint (first.map Field.name) (second.map Field.name)) :
    ∃ kept firstNew secondNew : Row,
      (row.merge first).merge second = kept ++ (firstNew ++ secondNew) ∧
      (row.merge second).merge first = kept ++ (secondNew ++ firstNew) ∧
      (∀ field ∈ firstNew, field.name ∈ row.newNames first) ∧
      ∀ field ∈ secondNew, field.name ∈ row.newNames second := by
  induction row generalizing first second with
  | nil =>
    have new {values : Row} :
        ∀ field ∈ Row.merge [] values, field.name ∈ Row.newNames [] values := by
      intro field member
      have named := List.mem_map_of_mem (f := Field.name) member
      rw [map_name_merge] at named
      exact named
    exact ⟨[], Row.merge [] first, Row.merge [] second, merge_nil_merge apart,
      merge_nil_merge fun name late early => apart early late, new, new⟩
  | cons stored rest inductionHypothesis =>
    -- the front field is kept, and the lists without its name are as far apart as before
    have apartBehind : ((first.without stored.name).map Field.name).Disjoint
        ((second.without stored.name).map Field.name) := fun name inFirst inSecond =>
      apart (mem_map_name_without.1 inFirst).1 (mem_map_name_without.1 inSecond).1
    obtain ⟨kept, firstNew, secondNew, firstOrder, secondOrder, firstNames, secondNames⟩ :=
      inductionHypothesis apartBehind
    refine ⟨first.restamp (second.restamp stored) :: kept, firstNew, secondNew, ?_, ?_,
      fun field member => newNames_of_newNames_without (firstNames field member),
      fun field member => newNames_of_newNames_without (secondNames field member)⟩
    · rw [merge_cons, merge_cons, restamp_comm apart, List.cons_append]
      exact congrArg _ firstOrder
    · rw [merge_cons, merge_cons, List.cons_append]
      exact congrArg _ secondOrder

section
variable {first second : Row}

theorem merge_merge_perm (row : Row)
    (apart : List.Disjoint (first.map Field.name) (second.map Field.name)) :
    ((row.merge first).merge second).Perm ((row.merge second).merge first) := by
  obtain ⟨kept, firstNew, secondNew, firstOrder, secondOrder, -, -⟩ := exists_exchange row apart
  rw [firstOrder, secondOrder]
  exact List.perm_append_comm.append_left kept

/-- Two merges for different names that the row has may change places. -/
theorem merge_merge_comm (apart : List.Disjoint (first.map Field.name) (second.map Field.name))
    (firstKnown : ∀ field ∈ first, field.name ∈ row.map Field.name)
    (secondKnown : ∀ field ∈ second, field.name ∈ row.map Field.name) :
    (row.merge first).merge second = (row.merge second).merge first := by
  obtain ⟨kept, firstNew, secondNew, firstOrder, secondOrder, firstNames, secondNames⟩ :=
    exists_exchange row apart
  rw [newNames_eq_nil firstKnown] at firstNames
  rw [newNames_eq_nil secondKnown] at secondNames
  have nothingFirst : firstNew = [] := List.eq_nil_iff_forall_not_mem.2 fun field member =>
    nomatch firstNames field member
  have nothingSecond : secondNew = [] := List.eq_nil_iff_forall_not_mem.2 fun field member =>
    nomatch secondNames field member
  rw [firstOrder, secondOrder, nothingFirst, nothingSecond]

/-- The second merge leaves the values of names that it does not mention. -/
theorem first?_merge_merge {name : String} (mentioned : name ∈ first.map Field.name)
    (elsewhere : name ∉ second.map Field.name) :
    ((row.merge first).merge second).first? name = first.last? name := by
  rw [first?_merge, last?_eq_none elsewhere, Option.none_or, first?_merge_of_mentioned mentioned]

end

end Row

end StoreBench.Store
