import StoreBench.Proofs.Decimal.ReadBack
import StoreBench.Proofs.Toml.Numbers
import StoreBench.Proofs.Toml.QuotedTexts

/-!
Contract: a document is read back as the table that it was written for.

A document is a table of plain values and, behind them, of tables of plain values.  It is written
line by line: an entry on a line of its own, which a text may stretch over several, and for each
inner table a blank line and a header.  The reader takes the same lines off the front, gathers the
entries below their headers, and puts them together under their names.

Owns:
- `Value.IsPlain`, what can stand on an entry line, and the values that can;
- `Reads`, the lines that a part of a text is read as, whatever stands behind it;
- `document`, when it can be written, and `parse?_document`, the round trip.

Does not own: arrays, tables between braces and names with dots, which no document is written with.
-/

namespace StoreBench.Toml

open Text (areWhole_toDigits)

/-! ## Plain values -/

/-- A value with no inner values that is read back from behind an equals sign. -/
structure Value.IsPlain (value : Value) : Prop where
  single : value.tableEntries? = none
  reads : ∀ shown, scalarText? value = some shown → ∀ rest,
    value? (depthLimit - 1) (skipBlanks (' ' :: (shown.toList ++ '\n' :: rest))) =
      some (value, '\n' :: rest)

/-- Where no list and no table begins, a value is read as one without inner values. -/
theorem value?_eq_scalar? (depth : Nat) {first : Char} (input : List Char) (noList : first ≠ '[')
    (noTable : first ≠ '\x7b') : value? depth (first :: input) = scalar? (first :: input) := by
  cases depth with
  | zero => rfl
  | succ depth =>
    unfold value?
    split
    · next same =>
      cases same
      exact absurd rfl noList
    · next same =>
      cases same
      exact absurd rfl noTable
    · rfl

theorem skipBlanks_space {first : Char} (visible : isBlank first = false) (input : List Char) :
    skipBlanks (' ' :: first :: input) = first :: input := by
  rw [skipBlanks, List.dropWhile_cons_of_pos (by decide), List.dropWhile_cons_of_neg]
  rw [visible]
  exact Bool.false_ne_true

theorem quote_eq_cons (value : String) :
    ∃ mark more, (quote value).toList = mark :: more ∧ (mark = '\x22' ∨ mark = '\x27') := by
  rw [quote, String.toList_ofList]
  cases Form.of value.toList with
  | basic => exact ⟨_, _, rfl, .inl rfl⟩
  | literal => exact ⟨_, _, rfl, .inr rfl⟩
  | multiBasic => exact ⟨_, _, rfl, .inl rfl⟩
  | multiLiteral => exact ⟨_, _, rfl, .inr rfl⟩

theorem isPlain_text (value : String) : (Value.text value).IsPlain := by
  refine ⟨rfl, fun shown written rest => ?_⟩
  cases written
  have taken := text?_quote value (show ('\n' :: rest).head? ≠ some '\x22' by simp)
    (show ('\n' :: rest).head? ≠ some '\x27' by simp)
  obtain ⟨mark, more, spelling, quotes⟩ := quote_eq_cons value
  rw [spelling, List.cons_append] at taken ⊢
  have value : scalar? (mark :: (more ++ '\n' :: rest)) = some (.text value, '\n' :: rest) := by
    rw [scalar?, if_pos quotes, taken]
    exact congrArg (fun name => some (Value.text name, '\n' :: rest)) String.ofList_toList
  rw [skipBlanks_space, value?_eq_scalar?, value]
  all_goals rcases quotes with rfl | rfl <;> decide

theorem isPlain_boolean (value : Bool) : (Value.boolean value).IsPlain := by
  refine ⟨rfl, fun shown written rest => ?_⟩
  cases written
  cases value <;> rfl

/-- What a number is read from at the front is no other value. -/
theorem isPlain_of_number {value : Value} (single : value.tableEntries? = none)
    (reads : ∀ shown, scalarText? value = some shown → ∃ first more,
      shown.toList = first :: more ∧ (first.isDigit = true ∨ first = '-') ∧
      ∀ rest, number? (shown.toList ++ '\n' :: rest) = some (value, '\n' :: rest)) :
    value.IsPlain := by
  refine ⟨single, fun shown written rest => ?_⟩
  obtain ⟨first, more, spelling, numeral, taken⟩ := reads shown written
  have apart {other : Char} (letter : other.isDigit = false) (signed : other ≠ '-') :
      first ≠ other := by
    rintro rfl
    rcases numeral with digit | minus
    · rw [letter] at digit
      cases digit
    · exact signed minus
  have taken := taken rest
  rw [spelling, List.cons_append] at taken ⊢
  rw [skipBlanks_space, value?_eq_scalar?, scalar?, if_neg, if_neg, if_neg, if_neg, taken]
  all_goals try simp only [not_or]
  · exact ⟨apart (by decide) (by decide), apart (by decide) (by decide)⟩
  · exact apart (by decide) (by decide)
  · exact apart (by decide) (by decide)
  · exact ⟨apart (by decide) (by decide), apart (by decide) (by decide)⟩
  · exact apart (by decide) (by decide)
  · exact apart (by decide) (by decide)
  · rw [isBlank, Bool.or_eq_false_iff, beq_eq_false_iff_ne, beq_eq_false_iff_ne]
    exact ⟨apart (by decide) (by decide), apart (by decide) (by decide)⟩

/-- A whole number without a sign; one that is too large has no text to be read back from. -/
theorem isPlain_natural (number : Nat) : (Value.integer number).IsPlain := by
  refine isPlain_of_number rfl fun shown written => ?_
  rw [scalarText?] at written
  split at written
  · next writable =>
    cases written
    have spelling : (toString (number : Int)).toList = Nat.toDigits 10 number := Nat.toList_repr
    obtain ⟨first, more, same, digit⟩ := (areWhole_toDigits number).exists_cons
    rw [spelling]
    exact ⟨first, more, same, .inl digit, number?_toDigits writable⟩
  · cases written

/-- A finite double is written with a point between its digits. -/
theorem isPlain_float {value : Float} (finite : value.isFinite = true) :
    (Value.float value).IsPlain := by
  refine isPlain_of_number rfl fun shown written => ?_
  cases written
  obtain ⟨negative, whole, fraction, front, behind, some, spelled, stands⟩ :=
    Decimal.exists_digits finite
  have taken := number?_decimal front behind some stands (Decimal.beq_infinite finite)
  obtain ⟨first, more, rfl, digit⟩ := front.exists_cons
  rw [spelled]
  rw [toList_signText] at taken ⊢
  cases negative with
  | true => exact ⟨_, _, rfl, .inr rfl, fun rest => by simpa using taken rest⟩
  | false => exact ⟨_, _, rfl, .inl digit, fun rest => by simpa using taken rest⟩

/-! ## Lines -/

/-- A name that needs no quotes. -/
def IsBare (name : String) : Prop := name.toList ≠ [] ∧ ∀ letter ∈ name.toList, isBareChar letter

theorem isBare_iff {name : String} :
    (!name.toList.isEmpty && name.toList.all isBareChar) = true ↔ IsBare name := by
  simp [IsBare]

instance (name : String) : Decidable (IsBare name) := decidable_of_iff _ isBare_iff

theorem ne_of_isBareChar {letter other : Char} (bare : isBareChar letter = true)
    (marks : isBareChar other = false) : letter ≠ other := by
  rintro rfl
  rw [bare] at marks
  cases marks

theorem isBlank_of_isBareChar {letter : Char} (bare : isBareChar letter = true) :
    isBlank letter = false := by
  rw [isBlank, Bool.or_eq_false_iff, beq_eq_false_iff_ne, beq_eq_false_iff_ne]
  exact ⟨ne_of_isBareChar bare (by decide), ne_of_isBareChar bare (by decide)⟩

section
variable {name : String}

theorem IsBare.exists_cons (bare : IsBare name) :
    ∃ first more, name.toList = first :: more ∧ isBareChar first = true := by
  cases letters : name.toList with
  | nil => exact absurd letters bare.1
  | cons first more => exact ⟨first, more, rfl, bare.2 first (letters ▸ List.mem_cons_self)⟩

theorem IsBare.skipBlanks_eq (bare : IsBare name) (rest : List Char) :
    skipBlanks (name.toList ++ rest) = name.toList ++ rest := by
  obtain ⟨first, more, letters, bareFirst⟩ := bare.exists_cons
  rw [letters, List.cons_append, skipBlanks, List.dropWhile_cons_of_neg]
  rw [isBlank_of_isBareChar bareFirst]
  exact Bool.false_ne_true

theorem name?_of_isBareChar {first : Char} (bare : isBareChar first = true) (input : List Char) :
    name? (first :: input) =
      if ((first :: input).takeWhile isBareChar).isEmpty then none
      else some (String.ofList ((first :: input).takeWhile isBareChar),
        (first :: input).dropWhile isBareChar) := by
  unfold name?
  split
  · next same => exact absurd (List.cons.inj same).1 (ne_of_isBareChar bare (by decide))
  · next same => exact absurd (List.cons.inj same).1 (ne_of_isBareChar bare (by decide))
  · rfl

/-- A name is taken off the front up to the first character that it cannot have. -/
theorem name?_bare (bare : IsBare name) {next : Char} (ends : isBareChar next = false)
    (rest : List Char) : name? (name.toList ++ next :: rest) = some (name, next :: rest) := by
  have own : (name.toList ++ next :: rest).takeWhile isBareChar = name.toList := by
    rw [List.takeWhile_append_of_pos bare.2, List.takeWhile_cons_of_neg (by simp [ends]),
      List.append_nil]
  have left : (name.toList ++ next :: rest).dropWhile isBareChar = next :: rest := by
    rw [List.dropWhile_append_of_pos bare.2, List.dropWhile_cons_of_neg (by simp [ends])]
  obtain ⟨first, more, letters, bareFirst⟩ := bare.exists_cons
  rw [letters, List.cons_append] at own left ⊢
  rw [name?_of_isBareChar bareFirst, own, left, ← letters, String.ofList_toList,
    if_neg (by simpa using bare.1)]

/-- A name without dots is the whole key. -/
theorem key?_bare (bare : IsBare name) {next : Char} {rest : List Char}
    (ends : isBareChar next = false) (single : ∀ more, skipBlanks (next :: rest) ≠ '.' :: more) :
    key? (name.toList ++ next :: rest) = some (⟨[], name⟩, skipBlanks (next :: rest)) := by
  rw [key?, depthLimit, names?, bare.skipBlanks_eq, name?_bare bare ends]
  simp only [Option.bind_eq_bind, Option.bind_some]
  rfl

/-- What begins with a name is no blank line and no header. -/
theorem line?_of_entry (bare : IsBare name) {rest after : List Char} {key : Key} {value : Value}
    (entry : entry? (value? (depthLimit - 1)) (name.toList ++ rest) =
      some ((key, value), '\n' :: after)) :
    line? (name.toList ++ rest) = some (.entry key value, after) := by
  have unblanked := bare.skipBlanks_eq rest
  obtain ⟨first, more, letters, bareFirst⟩ := bare.exists_cons
  rw [letters, List.cons_append] at entry unblanked ⊢
  have noComment : skipComment (first :: (more ++ rest)) = first :: (more ++ rest) := by
    unfold skipComment
    split
    · next same => exact absurd (List.cons.inj same).1 (ne_of_isBareChar bareFirst (by decide))
    · rfl
  have noEnd : newline? (first :: (more ++ rest)) = none := by
    unfold newline?
    split
    · next same => exact absurd (List.cons.inj same).1 (ne_of_isBareChar bareFirst (by decide))
    · next same => exact absurd (List.cons.inj same).1 (ne_of_isBareChar bareFirst (by decide))
    · rfl
  have content : content? (first :: (more ++ rest)) = some (.entry key value, '\n' :: after) := by
    unfold content?
    split
    · next same => exact absurd (List.cons.inj same).1 (ne_of_isBareChar bareFirst (by decide))
    · next same => exact absurd (List.cons.inj same).1 (ne_of_isBareChar bareFirst (by decide))
    · rw [entry]
      rfl
  rw [line?, unblanked]
  simp only [lineEnd?, unblanked, noComment, noEnd, content]
  rfl

theorem line?_entryLine {value : Value} {shown : String} (bare : IsBare name)
    (plain : value.IsPlain) (written : scalarText? value = some shown) (rest : List Char) :
    line? ((name ++ " = " ++ shown ++ "\n").toList ++ rest) =
      some (.entry ⟨[], name⟩ value, rest) := by
  have spelling : (name ++ " = " ++ shown ++ "\n").toList ++ rest =
      name.toList ++ ' ' :: '=' :: ' ' :: (shown.toList ++ '\n' :: rest) := by
    simp
  rw [spelling]
  apply line?_of_entry bare
  have equals : skipBlanks (' ' :: '=' :: ' ' :: (shown.toList ++ '\n' :: rest)) =
      '=' :: ' ' :: (shown.toList ++ '\n' :: rest) := skipBlanks_space (by decide) _
  rw [ entry?, key?_bare bare (by decide) (by rw [equals]; nofun), equals]
  simp only [Option.bind_eq_bind, Option.bind_some, plain.reads shown written]
  rfl

theorem line?_header (bare : IsBare name) (rest : List Char) :
    line? (("[" ++ name ++ "]\n").toList ++ rest) = some (.header (.table ⟨[], name⟩), rest) := by
  have spelling : ("[" ++ name ++ "]\n").toList ++ rest =
      '[' :: (name.toList ++ ']' :: '\n' :: rest) := by
    simp
  have key : key? (name.toList ++ ']' :: '\n' :: rest) = some (⟨[], name⟩, ']' :: '\n' :: rest) :=
    key?_bare bare (by decide) nofun
  have content : content? ('[' :: (name.toList ++ ']' :: '\n' :: rest)) =
      some (.header (.table ⟨[], name⟩), '\n' :: rest) := by
    obtain ⟨first, more, letters, bareFirst⟩ := bare.exists_cons
    rw [letters, List.cons_append] at key ⊢
    unfold content?
    split
    · next same =>
      exact absurd (List.cons.inj (List.cons.inj same).2).1
        (ne_of_isBareChar bareFirst (by decide))
    · next same =>
      rw [← (List.cons.inj same).2, key]
      rfl
    · next notRow notTable => exact absurd rfl (notTable _)
  rw [spelling, line?]
  have start : skipBlanks ('[' :: (name.toList ++ ']' :: '\n' :: rest)) =
      '[' :: (name.toList ++ ']' :: '\n' :: rest) := rfl
  rw [start, content]
  rfl

end

/-! ## Texts of several lines -/

/-- A part of a text is read as lines, whatever stands behind it. -/
def Reads (part : List Char) (lines : List Line) : Prop :=
  ∀ rest more, (∀ fuel, rest.length ≤ fuel → lines? fuel rest = some more) →
    ∀ fuel, (part ++ rest).length ≤ fuel → lines? fuel (part ++ rest) = some (lines ++ more)

namespace Reads

variable {part other : List Char} {lines more : List Line} {line : Line}

theorem nil : Reads [] [] := fun _ _ behind => behind

theorem append (reads : Reads part lines) (further : Reads other more) :
    Reads (part ++ other) (lines ++ more) := by
  intro rest behind followed
  rw [List.append_assoc, List.append_assoc]
  exact reads _ _ (further rest behind followed)

theorem single (nonempty : part ≠ []) (taken : ∀ rest, line? (part ++ rest) = some (line, rest)) :
    Reads part [line] := by
  intro rest more followed fuel enough
  obtain ⟨first, letters, rfl⟩ := List.exists_cons_of_ne_nil nonempty
  rw [List.cons_append, List.length_cons, List.length_append] at enough
  obtain ⟨fuel, rfl⟩ := Nat.exists_eq_succ_of_ne_zero
    (Nat.ne_of_gt (Nat.lt_of_lt_of_le (Nat.succ_pos _) enough))
  have taken := taken rest
  rw [List.cons_append] at taken ⊢
  rw [lines?, taken]
  · simp only [Option.bind_eq_bind, Option.bind_some, followed fuel (by omega)]
    rfl
  · exact List.cons_ne_nil _ _

/-- What is written piece by piece is read piece by piece. -/
theorem join {α : Type} {write : α → Option String} {linesOf : α → List Line} {items : List α}
    {pieces : List String} (written : items.mapM write = some pieces)
    (each : ∀ item ∈ items, ∀ piece, write item = some piece →
      Reads piece.toList (linesOf item)) :
    Reads (String.join pieces).toList (items.flatMap linesOf) := by
  induction items generalizing pieces with
  | nil =>
    cases written
    exact nil
  | cons item items inductionHypothesis =>
    rw [List.mapM_cons] at written
    obtain ⟨piece, first, written⟩ := Option.bind_eq_some_iff.1 written
    obtain ⟨others, further, written⟩ := Option.bind_eq_some_iff.1 written
    cases written
    rw [String.join_cons, String.toList_append, List.flatMap_cons]
    exact (each item (.head _) piece first).append
      (inductionHypothesis further fun other member => each other (.tail _ member))

/-- A text that is read as lines has no others. -/
theorem lines?_eq (reads : Reads part lines) : lines? part.length part = some lines := by
  have atEnd : ∀ fuel, ([] : List Char).length ≤ fuel → lines? fuel [] = some [] := by
    intro fuel _
    cases fuel <;> rfl
  have whole := reads [] [] atEnd part.length
  rw [List.append_nil, List.append_nil] at whole
  exact whole (Nat.le_refl _)

end Reads

/-- No line begins with a byte order mark. -/
theorem skipMark_of_lines? {fuel : Nat} {text : List Char} {lines : List Line}
    (read : lines? fuel text = some lines) : skipMark text = text := by
  unfold skipMark
  split
  · next rest =>
    have noLine : line? ('\ufeff' :: rest) = none := rfl
    cases fuel with
    | zero => cases read
    | succ fuel =>
      rw [lines?, noLine] at read
      · cases read
      · exact List.cons_ne_nil _ _
  · rfl

/-! ## Documents -/

/-- Entries under bare names, each with a plain value. -/
def ArePlain (entries : List (String × Value)) : Prop :=
  ∀ entry ∈ entries, IsBare entry.1 ∧ entry.2.IsPlain

namespace ArePlain

variable {entries others : List (String × Value)}

theorem nil : ArePlain [] := nofun

theorem cons {name : String} {value : Value} (bare : IsBare name) (plain : value.IsPlain)
    (arePlain : ArePlain entries) : ArePlain ((name, value) :: entries) :=
  List.forall_mem_cons.2 ⟨⟨bare, plain⟩, arePlain⟩

theorem append (arePlain : ArePlain entries) (otherPlain : ArePlain others) :
    ArePlain (entries ++ others) :=
  List.forall_mem_append.2 ⟨arePlain, otherPlain⟩

end ArePlain

/-- The lines of entries. -/
def linesOf (entries : List (String × Value)) : List Line :=
  entries.map fun entry => .entry ⟨[], entry.1⟩ entry.2

/-- The lines of an inner table, with a blank line and a header before its entries. -/
def sectionLines (inner : String × List (String × Value)) : List Line :=
  .nothing :: .header (.table ⟨[], inner.1⟩) :: linesOf inner.2

theorem reads_entryLines {entries : List (String × Value)} {text : String}
    (plain : ArePlain entries) (written : entryLines? entries = some text) :
    Reads text.toList (linesOf entries) := by
  obtain ⟨pieces, lines, rfl⟩ := Option.map_eq_some_iff.1 written
  have single : linesOf entries = entries.flatMap fun entry => [.entry ⟨[], entry.1⟩ entry.2] :=
    List.map_eq_flatMap
  rw [single]
  refine Reads.join lines fun entry member piece line => ?_
  obtain ⟨bare, isPlain⟩ := plain entry member
  obtain ⟨shown, scalar, rfl⟩ := Option.map_eq_some_iff.1 line
  exact Reads.single (by simp) (line?_entryLine bare isPlain scalar)

theorem reads_sectionText {inner : String × List (String × Value)} {text : String}
    (bare : IsBare inner.1) (plain : ArePlain inner.2)
    (written : sectionText? inner.1 inner.2 = some text) :
    Reads text.toList (sectionLines inner) := by
  obtain ⟨lines, entries, rfl⟩ := Option.map_eq_some_iff.1 written
  have blank : Reads ['\n'] [.nothing] := Reads.single (List.cons_ne_nil _ _) fun _ => rfl
  have header : Reads ("[" ++ inner.1 ++ "]\n").toList [.header (.table ⟨[], inner.1⟩)] :=
    Reads.single (by simp) (line?_header bare)
  have whole := (blank.append header).append (reads_entryLines plain entries)
  have spelling : ("\n[" ++ inner.1 ++ "]\n" ++ lines).toList =
      ['\n'] ++ ("[" ++ inner.1 ++ "]\n").toList ++ lines.toList := by
    simp
  rw [spelling]
  exact whole

/-- An inner table under its name. -/
def innerTable (inner : String × List (String × Value)) : String × Value :=
  (inner.1, .table false inner.2)

/-- A table of plain values and, behind them, of tables of plain values. -/
def document (plain : List (String × Value)) (inner : List (String × List (String × Value))) :
    Value :=
  .table false (plain ++ inner.map innerTable)

/-- The text of an entry that is a table; nothing for a plain one. -/
def sectionOf? (entry : String × Value) : Option (Option String) :=
  match entry.2.tableEntries? with
  | some inner => (sectionText? entry.1 inner).map some
  | none => some none

/-- Items that are passed over, followed by items that are not. -/
theorem filterMapM_append_map {α β γ : Type} {choose : α → Option (Option γ)} {first : List α}
    {item : β → α} {write : β → Option γ} (skips : ∀ entry ∈ first, choose entry = some none)
    (takes : ∀ table, choose (item table) = (write table).map some) (tables : List β) :
    (first ++ tables.map item).filterMapM choose = tables.mapM write := by
  induction first with
  | cons entry first inductionHypothesis =>
    rw [List.cons_append, List.filterMapM_cons, skips entry (.head _)]
    exact inductionHypothesis fun other member => skips other (.tail _ member)
  | nil =>
    induction tables with
    | nil => rfl
    | cons table tables inductionHypothesis =>
      rw [List.nil_append] at inductionHypothesis ⊢
      rw [List.map_cons, List.filterMapM_cons, List.mapM_cons, takes, inductionHypothesis]
      cases write table <;> rfl

theorem render?_document {plain : List (String × Value)}
    (single : ∀ entry ∈ plain, entry.2.tableEntries? = none)
    (inner : List (String × List (String × Value))) :
    render? (document plain inner) = (do
      let lines ← entryLines? plain
      let sections ← inner.mapM fun table => sectionText? table.1 table.2
      return lines ++ String.join sections) := by
  have plainFirst : (plain ++ inner.map innerTable).filter
      (fun entry => entry.2.tableEntries?.isNone) = plain := by
    rw [List.filter_append, List.filter_eq_self.2, List.filter_eq_nil_iff.2, List.append_nil]
    · intro entry member
      obtain ⟨table, _, rfl⟩ := List.mem_map.1 member
      exact Bool.false_ne_true
    · intro entry member
      rw [single entry member]
      rfl
  have tables : (plain ++ inner.map innerTable).filterMapM sectionOf? =
      inner.mapM fun table => sectionText? table.1 table.2 := by
    have takes (table : String × List (String × Value)) :
        sectionOf? (innerTable table) = (sectionText? table.1 table.2).map some := rfl
    refine filterMapM_append_map (fun entry member => ?_) takes inner
    rw [sectionOf?, single entry member]
  show (do
    let lines ← entryLines? ((plain ++ inner.map innerTable).filter
      fun entry => entry.2.tableEntries?.isNone)
    let sections ← (plain ++ inner.map innerTable).filterMapM sectionOf?
    return lines ++ String.join sections) = _
  rw [plainFirst, tables]

/-! ### Which documents can be written -/

theorem isSome_entryLines? (entries : List (String × Value)) :
    (entryLines? entries).isSome = true ↔
      ∀ entry ∈ entries, (scalarText? entry.2).isSome = true := by
  rw [entryLines?, Option.isSome_map]
  induction entries with
  | nil => simp
  | cons entry entries inductionHypothesis =>
    rw [List.mapM_cons, List.forall_mem_cons, ← inductionHypothesis, entryLine?]
    cases scalarText? entry.2 <;> cases entries.mapM entryLine? <;> simp

theorem isSome_sections (inner : List (String × List (String × Value))) :
    (inner.mapM fun table => sectionText? table.1 table.2).isSome = true ↔
      ∀ table ∈ inner, ∀ entry ∈ table.2, (scalarText? entry.2).isSome = true := by
  induction inner with
  | nil => simp
  | cons table inner inductionHypothesis =>
    rw [List.mapM_cons, List.forall_mem_cons, ← inductionHypothesis, ← isSome_entryLines?,
      sectionText?]
    cases entryLines? table.2 <;>
      cases inner.mapM fun table => sectionText? table.1 table.2 <;> simp

/-- A document can be written exactly if each of its values can. -/
theorem isSome_render?_document {plain : List (String × Value)}
    (single : ∀ entry ∈ plain, entry.2.tableEntries? = none)
    (inner : List (String × List (String × Value))) :
    (render? (document plain inner)).isSome = true ↔
      ∀ entries ∈ plain :: inner.map Prod.snd, ∀ entry ∈ entries,
        (scalarText? entry.2).isSome = true := by
  rw [render?_document single, List.forall_mem_cons, List.forall_mem_map, ← isSome_entryLines?,
    ← isSome_sections]
  cases entryLines? plain <;>
    cases inner.mapM fun table => sectionText? table.1 table.2 <;> simp

/-! ### How the lines are put together -/

/-- An entry under a name without dots. -/
def keyed (entry : String × Value) : Key × Value := (⟨[], entry.1⟩, entry.2)

theorem sections_linesOf (header : Header) (gathered : List (Key × Value))
    (entries : List (String × Value)) (rest : List Line) :
    sections header gathered (linesOf entries ++ rest) =
      sections header ((entries.map keyed).reverse ++ gathered) rest := by
  induction entries generalizing gathered with
  | nil => rfl
  | cons entry entries inductionHypothesis =>
    rw [List.map_cons, List.reverse_cons, List.append_assoc]
    exact inductionHypothesis _

/-- An inner table as a section of its own. -/
def sectionOf (inner : String × List (String × Value)) : Section :=
  ⟨.table ⟨[], inner.1⟩, inner.2.map keyed⟩

theorem sections_sectionLines (header : Header) (gathered : List (Key × Value))
    (inner : List (String × List (String × Value))) :
    sections header gathered (inner.flatMap sectionLines) =
      ⟨header, gathered.reverse⟩ :: inner.map sectionOf := by
  induction inner generalizing header gathered with
  | nil => rfl
  | cons table inner inductionHypothesis =>
    show ⟨header, gathered.reverse⟩ ::
      sections (.table ⟨[], table.1⟩) [] (linesOf table.2 ++ inner.flatMap sectionLines) = _
    rw [sections_linesOf, inductionHypothesis, List.append_nil, List.reverse_reverse]
    rfl

theorem alter_of_notMem {name : String} {entries : Entries} (fresh : name ∉ entries.map Prod.fst)
    (change : Option Node → Option Node) :
    alter name change entries = (change none).map fun node => entries ++ [(name, node)] := by
  induction entries with
  | nil => rfl
  | cons entry entries inductionHypothesis =>
    rw [List.map_cons, List.mem_cons, not_or] at fresh
    rw [alter, if_neg (Ne.symm fresh.1), inductionHypothesis fresh.2, Option.map_map]
    rfl

theorem addEntry_of_notMem {entries : Entries} {entry : String × Value}
    (fresh : entry.1 ∉ entries.map Prod.fst) :
    addEntry entries (keyed entry).1 (keyed entry).2 =
      some (entries ++ [(entry.1, .value entry.2)]) := by
  show (if (Origin.stated = .dotted) = ([] : List String).isEmpty then none
    else alter entry.1 _ entries) = _
  rw [if_neg (by simp), alter_of_notMem fresh]
  rfl

/-- Plain entries under construction. -/
def nodes (entries : List (String × Value)) : Entries :=
  entries.map fun entry => (entry.1, .value entry.2)

theorem map_fst_nodes (entries : List (String × Value)) :
    (nodes entries).map Prod.fst = entries.map Prod.fst := List.map_map

theorem addEntries_cons (start : Entries) (entry : Key × Value) (entries : List (Key × Value)) :
    addEntries start (entry :: entries) =
      (addEntry start entry.1 entry.2).bind fun next => addEntries next entries := rfl

theorem addEntries_keyed {start : Entries} {entries : List (String × Value)}
    (apart : (start.map Prod.fst ++ entries.map Prod.fst).Nodup) :
    addEntries start (entries.map keyed) = some (start ++ nodes entries) := by
  induction entries generalizing start with
  | nil => exact congrArg some (List.append_nil start).symm
  | cons entry entries inductionHypothesis =>
    have fresh : entry.1 ∉ start.map Prod.fst := by
      intro member
      rw [List.map_cons, List.nodup_append] at apart
      exact apart.2.2 _ member _ (.head _) rfl
    rw [List.map_cons, addEntries_cons, addEntry_of_notMem fresh]
    have further : addEntries (start ++ [(entry.1, .value entry.2)]) (entries.map keyed) =
        some (start ++ [(entry.1, .value entry.2)] ++ nodes entries) := by
      apply inductionHypothesis
      simpa using apart
    rw [List.append_assoc] at further
    exact further

theorem lookup_of_notMem {name : String} {entries : Entries}
    (fresh : name ∉ entries.map Prod.fst) : lookup name entries = none := by
  rw [lookup, Option.map_eq_none_iff, List.find?_eq_none]
  intro entry member same
  exact fresh (List.mem_map.2 ⟨entry, member, beq_iff_eq.1 same⟩)

/-- An inner table under construction. -/
def tableNode (inner : String × List (String × Value)) : String × Node :=
  (inner.1, .table .stated (nodes inner.2))

theorem addSection_of_notMem {root : Entries} {inner : String × List (String × Value)}
    (fresh : inner.1 ∉ root.map Prod.fst) (apart : (inner.2.map Prod.fst).Nodup) :
    addSection root (sectionOf inner) = some (root ++ [tableNode inner]) := by
  have others : root.filter (·.1 != inner.1) = root := by
    rw [List.filter_eq_self]
    intro entry member
    rw [bne_iff_ne]
    intro same
    exact fresh (List.mem_map.2 ⟨entry, member, same⟩)
  have filled : addEntries [] (inner.2.map keyed) = some (nodes inner.2) := addEntries_keyed apart
  simp only [addSection, sectionOf, descend, lookup_of_notMem fresh, others, filled,
    Option.bind_eq_bind, Option.bind_some]
  rfl

theorem foldlM_addSection {root : Entries} {inner : List (String × List (String × Value))}
    (apart : (root.map Prod.fst ++ inner.map Prod.fst).Nodup)
    (each : ∀ table ∈ inner, (table.2.map Prod.fst).Nodup) :
    (inner.map sectionOf).foldlM addSection root = some (root ++ inner.map tableNode) := by
  induction inner generalizing root with
  | nil => exact congrArg some (List.append_nil root).symm
  | cons table inner inductionHypothesis =>
    have fresh : table.1 ∉ root.map Prod.fst := by
      intro member
      rw [List.map_cons, List.nodup_append] at apart
      exact apart.2.2 _ member _ (.head _) rfl
    rw [List.map_cons, List.foldlM_cons, addSection_of_notMem fresh (each table (.head _))]
    have further : (inner.map sectionOf).foldlM addSection (root ++ [tableNode table]) =
        some (root ++ [tableNode table] ++ inner.map tableNode) := by
      refine inductionHypothesis ?_ fun other member => each other (.tail _ member)
      simpa [tableNode] using apart
    rw [List.append_assoc] at further
    exact further

theorem finishedEntries_append (inline : Bool) (first second : Entries) :
    finishedEntries inline (first ++ second) =
      finishedEntries inline first ++ finishedEntries inline second := by
  induction first with
  | nil => rfl
  | cons entry first inductionHypothesis =>
    rw [List.cons_append, finishedEntries, inductionHypothesis, finishedEntries, List.cons_append]

theorem finishedEntries_nodes (inline : Bool) (entries : List (String × Value)) :
    finishedEntries inline (nodes entries) = entries := by
  induction entries with
  | nil => rfl
  | cons entry entries inductionHypothesis =>
    show (entry.1, Node.finished inline (.value entry.2)) ::
      finishedEntries inline (nodes entries) = _
    rw [inductionHypothesis, Node.finished]

theorem finishedEntries_tableNode (inner : List (String × List (String × Value))) :
    finishedEntries false (inner.map tableNode) = inner.map innerTable := by
  induction inner with
  | nil => rfl
  | cons table inner inductionHypothesis =>
    show (table.1, Node.finished false (.table .stated (nodes table.2))) ::
      finishedEntries false (inner.map tableNode) = _
    rw [inductionHypothesis, Node.finished, finishedEntries_nodes]
    rfl

/-- **A document is read back.**  If no name is given twice, the names are bare and the values
plain, then from the text of the document exactly the document is read. -/
theorem parse?_document {plain : List (String × Value)}
    {inner : List (String × List (String × Value))} {text : String}
    (written : render? (document plain inner) = some text) (arePlain : ArePlain plain)
    (areInner : ∀ table ∈ inner, IsBare table.1 ∧ ArePlain table.2)
    (apart : (plain.map Prod.fst ++ inner.map Prod.fst).Nodup)
    (each : ∀ table ∈ inner, (table.2.map Prod.fst).Nodup) :
    parse? text = some (document plain inner) := by
  rw [render?_document fun entry member => (arePlain entry member).2.single] at written
  obtain ⟨front, plainText, written⟩ := Option.bind_eq_some_iff.1 written
  obtain ⟨pieces, innerText, written⟩ := Option.bind_eq_some_iff.1 written
  cases written
  have reads : Reads (front ++ String.join pieces).toList
      (linesOf plain ++ inner.flatMap sectionLines) := by
    rw [String.toList_append]
    refine (reads_entryLines arePlain plainText).append (Reads.join innerText ?_)
    intro table member piece written
    exact reads_sectionText (areInner table member).1 (areInner table member).2 written
  have top : addSection [] ⟨.top, plain.map keyed⟩ = some (nodes plain) :=
    addEntries_keyed ((List.nodup_append.1 apart).1)
  have whole : ofSections? (⟨.top, plain.map keyed⟩ :: inner.map sectionOf) =
      some (document plain inner) := by
    rw [ofSections?, List.foldlM_cons, top]
    simp only [Option.bind_eq_bind, Option.bind_some]
    rw [foldlM_addSection (by rwa [map_fst_nodes]) each, Option.map_some, finishedEntries_append,
      finishedEntries_nodes, finishedEntries_tableNode]
    rfl
  rw [parse?]
  simp only [skipMark_of_lines? reads.lines?_eq, reads.lines?_eq, Option.bind_eq_bind,
    Option.bind_some]
  rw [sections_linesOf, sections_sectionLines, List.append_nil, List.reverse_reverse, whole]

end StoreBench.Toml
