import StoreBench.Toml.Printer
import StoreBench.Toml.Quote

/-!
Contract: a quoted text is read back as the text that it was written for.

Whatever the text is, one of the four forms is chosen for it, and the reader of quoted texts takes
it off the front again.  A character stands for itself or as an escape; between three quotes a run
of quotes is broken by an escape before it could close the text, and up to two quotes at the end
belong to the text.

Owns:
- `Shown`, the ways in which a character can stand in a text with escapes;
- the reading of each form, with anything behind the closing quotes;
- `text?_quote`, the round trip.

Does not own: the values and lines around a text.
-/

namespace StoreBench.Toml

/-! ## Characters -/

/-- The ways in which a character other than a double quote stands in a text with escapes. -/
inductive Shown (multi : Bool) (character : Char) : List Char → Prop
  | itself (plain : isPlainChar character = true) (unmarked : character ≠ '\x22')
      (unescaped : character ≠ '\\') : Shown multi character [character]
  | lineEnd (spans : multi = true) (ends : character = '\n') : Shown multi character ['\n']
  | escaped {mark : List Char} (reads : ∀ rest, escape? (mark ++ rest) = some (character, rest))
      (continues : ∀ rest, lineContinuation? (mark ++ rest) = none) :
      Shown multi character ('\\' :: mark)

/-- An escape of four digits stands for the control character that it was written for. -/
theorem codePoint?_control (value : Fin 128) :
    codePoint? ['0', '0', (Text.hexDigit (value.val / 16)).toUpper,
      (Text.hexDigit value.val).toUpper] = some (Char.ofNat value.val) := by
  revert value
  decide +kernel

theorem lt_of_needsEscape {character : Char} (control : needsEscape character = true) :
    character.toNat < 128 := by
  simp only [needsEscape, isPlainChar, Bool.and_eq_true, Bool.not_eq_true', Bool.or_eq_false_iff,
    decide_eq_false_iff_not] at control
  have low : ¬ 128 ≤ character.toNat := control.1.2
  exact Nat.lt_of_not_le low

theorem shown_control {character : Char} (control : needsEscape character = true) (multi : Bool) :
    Shown multi character (controlEscape character) := by
  refine .escaped (fun rest => ?_) (fun rest => rfl)
  have point := codePoint?_control ⟨character.toNat, lt_of_needsEscape control⟩
  simp only [Char.ofNat_toNat] at point
  simp only [List.cons_append, List.nil_append, escape?, List.length_cons, List.take_succ_cons,
    List.take_zero, List.drop_succ_cons, List.drop_zero, point]
  rw [if_neg (by omega)]
  rfl

/-- Every character but a double quote is shown in one of these ways. -/
theorem exists_shown {character : Char} (unmarked : character ≠ '\x22') (multi : Bool) :
    ∃ shown, Shown multi character shown ∧ ∀ most quotes rest,
      escapeText multi most quotes (character :: rest) = shown ++ escapeText multi most 0 rest := by
  refine ⟨_, ?_, fun most quotes rest => if_neg unmarked⟩
  have escape {mark : Char} (reads : ∀ rest, escape? (mark :: rest) = some (character, rest))
      (continues : ∀ rest, lineContinuation? (mark :: rest) = none) :
      Shown multi character ['\\', mark] := .escaped reads continues
  split
  · next is =>
    subst is
    exact escape (fun _ => rfl) fun _ => rfl
  split
  · next is =>
    subst is
    exact escape (fun _ => rfl) fun _ => rfl
  split
  · next is =>
    obtain ⟨rfl, _⟩ := is
    exact escape (fun _ => rfl) fun _ => rfl
  next spans =>
  split
  · next is =>
    subst is
    exact escape (fun _ => rfl) fun _ => rfl
  split
  · next is =>
    subst is
    exact escape (fun _ => rfl) fun _ => rfl
  split
  · next is =>
    subst is
    exact escape (fun _ => rfl) fun _ => rfl
  next unescaped =>
  split
  · next control => exact shown_control control multi
  · next plain =>
    by_cases ends : character = '\n'
    · subst ends
      exact .lineEnd (by simpa using spans) rfl
    · refine .itself ?_ unmarked unescaped
      simpa [needsEscape, ends] using plain

theorem escapeText_quote {most quotes : Nat} (multi : Bool) (rest : List Char) :
    escapeText multi most quotes ('\x22' :: rest) =
      if quotes < most then '\x22' :: escapeText multi most (quotes + 1) rest
      else '\\' :: '\x22' :: escapeText multi most 0 rest := rfl

/-! ## Texts on one line -/

theorem readBasic_escapeText (text gathered rest : List Char) {fuel : Nat}
    (enough : text.length < fuel) :
    readBasic fuel gathered (escapeText false 0 0 text ++ '\x22' :: rest) =
      some (gathered.reverse ++ text, rest) := by
  induction text generalizing gathered fuel with
  | nil =>
    obtain ⟨fuel, rfl⟩ := Nat.exists_eq_succ_of_ne_zero (Nat.ne_of_gt enough)
    rw [List.append_nil]
    rfl
  | cons character text inductionHypothesis =>
    obtain ⟨fuel, rfl⟩ := Nat.exists_eq_succ_of_ne_zero (Nat.ne_of_gt (Nat.zero_lt_of_lt enough))
    have further := inductionHypothesis (character :: gathered) (Nat.lt_of_succ_lt_succ enough)
    rw [List.reverse_cons, List.append_assoc, List.singleton_append] at further
    by_cases mark : character = '\x22'
    · subst mark
      exact further
    · obtain ⟨shown, ways, shows⟩ := exists_shown mark false
      rw [shows, List.append_assoc]
      cases ways with
      | itself plain _ unescaped =>
        rw [List.singleton_append, readBasic, if_pos plain]
        · exact further
        · exact mark
        · exact unescaped
      | lineEnd spans => cases spans
      | escaped reads =>
        rw [List.cons_append, readBasic, reads]
        exact further

theorem lineText?_literal {text : List Char}
    (plain : ∀ character ∈ text, isPlainChar character = true ∧ character ≠ '\x27')
    (rest : List Char) : lineText? ('\x27' :: (text ++ '\x27' :: rest)) = some (text, rest) := by
  have own : (text ++ '\x27' :: rest).takeWhile
      (fun character => isPlainChar character && character != '\x27') = text := by
    rw [List.takeWhile_append_of_pos, List.takeWhile_cons_of_neg, List.append_nil]
    · simp
    · intro character member
      simpa using plain character member
  rw [lineText?, own]
  simp only [List.drop_left]

/-! ## Texts on several lines -/

theorem closing?_of_few {quote : Char} {input : List Char}
    (few : (input.takeWhile (· = quote)).length ≤ 2) : closing? quote input = none :=
  if_pos (Nat.lt_succ_of_le few)

/-- The last three of up to five quotes close a text, and the others belong to it. -/
theorem closing?_of_run {quote : Char} {rest : List Char} (behind : rest.head? ≠ some quote)
    {own : Nat} (few : own ≤ 2) :
    closing? quote (List.replicate own quote ++ (List.replicate 3 quote ++ rest)) =
      some (List.replicate own quote, rest) := by
  have ends : rest.takeWhile (· = quote) = [] := by
    cases rest with
    | nil => rfl
    | cons first rest => exact List.takeWhile_cons_of_neg (by simpa using behind)
  have quotes : ((List.replicate (own + 3) quote ++ rest).takeWhile (· = quote)).length =
      own + 3 := by
    rw [List.takeWhile_append_of_pos, ends, List.append_nil, List.length_replicate]
    intro character member
    rw [List.eq_of_mem_replicate member, decide_eq_true_iff]
  rw [← List.append_assoc, List.replicate_append_replicate, closing?, quotes, if_neg (by omega),
    Nat.add_sub_cancel, Nat.min_eq_left few]
  show some (_, List.drop (own + 3) _) = _
  rw [List.drop_left' List.length_replicate]

theorem newline?_of_plain {character : Char} (plain : isPlainChar character = true)
    (rest : List Char) : newline? (character :: rest) = none := by
  unfold newline?
  split
  · next same =>
    cases same
    exact absurd plain (by decide)
  · next same =>
    cases same
    exact absurd plain (by decide)
  · rfl

/-- A run of quotes that is left to be shown is either all of the text and closed with it, or it is
broken before it could be taken for closing quotes. -/
theorem escapeText_run {quotes : Nat} (few : quotes ≤ 2) (text : List Char) :
    (∃ own, quotes + own ≤ 2 ∧ text = List.replicate own '\x22' ∧
      escapeText true 2 quotes text = List.replicate own '\x22') ∨
    ∀ more, quotes +
      ((escapeText true 2 quotes text ++ more).takeWhile (· = '\x22')).length ≤ 2 := by
  induction text generalizing quotes with
  | nil => exact .inl ⟨0, few, rfl, rfl⟩
  | cons character text inductionHypothesis =>
    by_cases mark : character = '\x22'
    · subst mark
      rw [escapeText_quote]
      split
      · next room =>
        rcases inductionHypothesis (show quotes + 1 ≤ 2 from room) with
          ⟨own, fits, rfl, shows⟩ | breaks
        · refine .inl ⟨own + 1, by omega, rfl, ?_⟩
          rw [shows]
          rfl
        · refine .inr fun more => ?_
          have bound := breaks more
          rw [List.cons_append, List.takeWhile_cons_of_pos (by decide), List.length_cons]
          omega
      · exact .inr fun more => few
    · obtain ⟨shown, ways, shows⟩ := exists_shown mark true
      refine .inr fun more => ?_
      rw [shows]
      cases ways with
      | itself => simpa [mark] using few
      | lineEnd => exact few
      | escaped => exact few

theorem readMultiBasic_escapeText (text gathered : List Char) {quotes fuel : Nat}
    {rest : List Char} (behind : rest.head? ≠ some '\x22') (few : quotes ≤ 2)
    (enough : text.length < fuel) :
    readMultiBasic fuel gathered
        (escapeText true 2 quotes text ++ (List.replicate 3 '\x22' ++ rest)) =
      some (gathered.reverse ++ text, rest) := by
  induction text generalizing gathered quotes fuel with
  | nil =>
    obtain ⟨fuel, rfl⟩ := Nat.exists_eq_succ_of_ne_zero (Nat.ne_of_gt enough)
    have closed := closing?_of_run behind (Nat.zero_le 2)
    rw [List.replicate_zero, List.nil_append] at closed
    simp only [escapeText, List.nil_append, readMultiBasic, closed]
  | cons character text inductionHypothesis =>
    obtain ⟨fuel, rfl⟩ := Nat.exists_eq_succ_of_ne_zero (Nat.ne_of_gt (Nat.zero_lt_of_lt enough))
    rcases escapeText_run few (character :: text) with ⟨own, fits, whole, shows⟩ | breaks
    · have closed := closing?_of_run behind (Nat.le_trans (Nat.le_add_left _ _) fits)
      rw [shows, whole]
      simp only [readMultiBasic, closed]
    · have continues := closing?_of_few
        (Nat.le_trans (Nat.le_add_left _ _) (breaks (List.replicate 3 '\x22' ++ rest)))
      have further {quotes : Nat} (few : quotes ≤ 2) :=
        inductionHypothesis (character :: gathered) few (Nat.lt_of_succ_lt_succ enough)
      simp only [List.reverse_cons, List.append_assoc, List.singleton_append] at further
      unfold readMultiBasic
      rw [continues]
      by_cases mark : character = '\x22'
      · subst mark
        rw [escapeText_quote]
        rcases Nat.lt_or_ge quotes 2 with room | full
        · rw [if_pos room]
          exact further (Nat.succ_le_of_lt room)
        · rw [if_neg (Nat.not_lt.2 full)]
          exact further (Nat.zero_le 2)
      · obtain ⟨shown, ways, shows⟩ := exists_shown mark true
        rw [shows, List.append_assoc]
        cases ways with
        | itself plain _ _ =>
          rw [List.singleton_append, newline?_of_plain plain]
          simp only [plain, if_true]
          exact further (Nat.zero_le 2)
        | lineEnd _ ends =>
          subst ends
          exact further (Nat.zero_le 2)
        | escaped reads continues =>
          simp only [List.cons_append, newline?, continues, reads]
          exact further (Nat.zero_le 2)

/-! ### Without escapes -/

/-- The longest run is no shorter than the one under way. -/
theorem le_longestRun (character : Char) (text : List Char) {current longest : Nat}
    (known : current ≤ longest) :
    longest ≤ longestRun.go character current longest text ∧
      current + (text.takeWhile (· = character)).length ≤
        longestRun.go character current longest text := by
  induction text generalizing current longest with
  | nil => exact ⟨Nat.le_refl _, known⟩
  | cons first text inductionHypothesis =>
    rw [longestRun.go]
    split
    · next same =>
      have further := inductionHypothesis (Nat.le_max_right longest (current + 1))
      rw [List.takeWhile_cons, if_pos (decide_eq_true same), List.length_cons]
      omega
    · next different =>
      have further := inductionHypothesis (Nat.zero_le longest)
      rw [List.takeWhile_cons, if_neg (by simpa using different), List.length_nil]
      omega

/-- What was found so far adds to the longest run. -/
theorem longestRun_le_go (character : Char) (text : List Char) {current longest : Nat} :
    longestRun character text ≤ longestRun.go character current longest text := by
  suffices less : ∀ fewer shorter, fewer ≤ current → shorter ≤ longest →
      longestRun.go character fewer shorter text ≤ longestRun.go character current longest text from
    less 0 0 (Nat.zero_le _) (Nat.zero_le _)
  induction text generalizing current longest with
  | nil => exact fun _ _ _ short => short
  | cons first text inductionHypothesis =>
    intro fewer shorter few short
    rw [longestRun.go, longestRun.go]
    split
    · exact inductionHypothesis _ _ (Nat.succ_le_succ few) (by omega)
    · exact inductionHypothesis _ _ (Nat.le_refl 0) short

/-- What is left of a text has no longer run. -/
theorem longestRun_tail (character first : Char) (text : List Char) :
    longestRun character text ≤ longestRun character (first :: text) := by
  rw [longestRun.eq_1 character (first :: text), longestRun.go]
  split <;> exact longestRun_le_go character text

theorem takeWhile_le_longestRun (character : Char) (text : List Char) :
    (text.takeWhile (· = character)).length ≤ longestRun character text := by
  have run := (le_longestRun character text (Nat.le_refl 0)).2
  rwa [Nat.zero_add] at run

/-- Single quotes that are left of a text are either all of it and closed with it, or too few to
close it. -/
theorem readMultiLiteral_text {text : List Char}
    (plain : ∀ character ∈ text, isPlainChar character = true ∨ character = '\n')
    (short : longestRun '\x27' text ≤ 2) (gathered : List Char) {fuel : Nat} {rest : List Char}
    (behind : rest.head? ≠ some '\x27') (enough : text.length < fuel) :
    readMultiLiteral fuel gathered (text ++ (List.replicate 3 '\x27' ++ rest)) =
      some (gathered.reverse ++ text, rest) := by
  induction text generalizing gathered fuel with
  | nil =>
    obtain ⟨fuel, rfl⟩ := Nat.exists_eq_succ_of_ne_zero (Nat.ne_of_gt enough)
    have closed := closing?_of_run behind (Nat.zero_le 2)
    rw [List.replicate_zero, List.nil_append] at closed
    simp only [List.nil_append, readMultiLiteral, closed]
  | cons character text inductionHypothesis =>
    obtain ⟨fuel, rfl⟩ := Nat.exists_eq_succ_of_ne_zero (Nat.ne_of_gt (Nat.zero_lt_of_lt enough))
    have run := takeWhile_le_longestRun '\x27' (character :: text)
    have further := inductionHypothesis (fun inner member => plain inner (.tail _ member))
      (Nat.le_trans (longestRun_tail ..) short) (character :: gathered)
      (Nat.lt_of_succ_lt_succ enough)
    rw [List.reverse_cons, List.append_assoc, List.singleton_append] at further
    by_cases whole : ∀ inner ∈ character :: text, inner = '\x27'
    · have same := List.eq_replicate_of_mem whole
      have few := Nat.le_trans run short
      rw [same, List.takeWhile_replicate_eq_filter, List.filter_replicate_of_pos (by decide),
        List.length_replicate] at few
      rw [same]
      simp only [readMultiLiteral, closing?_of_run behind few]
    · -- some other character breaks the run
      have broken : ((character :: text) ++ (List.replicate 3 '\x27' ++ rest)).takeWhile
          (· = '\x27') = (character :: text).takeWhile (· = '\x27') := by
        rw [List.takeWhile_append, if_neg]
        intro length
        refine whole fun inner member => ?_
        have all : ((character :: text).takeWhile (· = '\x27')).all (· = '\x27') = true :=
          List.all_takeWhile
        rw [(List.takeWhile_prefix _).eq_of_length length, List.all_eq_true] at all
        exact of_decide_eq_true (all inner member)
      have continues := closing?_of_few (Nat.le_trans (Nat.le_of_eq (congrArg _ broken))
        (Nat.le_trans run short))
      unfold readMultiLiteral
      rw [continues, List.cons_append]
      rcases plain character (.head _) with shown | ends
      · rw [newline?_of_plain shown]
        simp only [shown, if_true]
        exact further
      · subst ends
        exact further

/-! ## All four forms -/

theorem needsEscape_eq_false_iff {character : Char} :
    needsEscape character = false ↔ isPlainChar character = true ∨ character = '\n' := by
  simp [needsEscape, Decidable.or_iff_not_imp_left]

/-- A line end directly behind the opening quotes is left out, and if the text has a line end then
one was put there. -/
theorem skipFirstLine_opening {text inner rest : List Char}
    (own : '\n' ∉ text → newline? (inner ++ rest) = none) :
    skipFirstLine ((if text.contains '\n' then ['\n'] else []) ++ inner ++ rest) =
      inner ++ rest := by
  rw [List.append_assoc, skipFirstLine]
  split
  · rfl
  · next single =>
    rw [List.nil_append, own (by simpa using single)]
    rfl

/-- A form without escapes is only chosen for a text that it holds. -/
theorem holds_of_form {text : List Char} {form : Form} (chosen : Form.of text = form)
    (literal : form = .literal ∨ form = .multiLiteral) : form.holds text = true := by
  rw [Form.of] at chosen
  cases found : [Form.basic, .literal, .multiBasic, .multiLiteral].find? (Form.holds text) with
  | some first =>
    rw [found] at chosen
    cases chosen
    exact List.find?_some found
  | none =>
    rw [found, Option.getD_none] at chosen
    split at chosen <;> subst chosen <;> rcases literal with impossible | impossible <;>
      cases impossible

theorem escapeText_head? (text : List Char) : (escapeText false 0 0 text).head? ≠ some '\x22' := by
  cases text with
  | nil => exact (Option.some_ne_none _).symm
  | cons character text =>
    by_cases mark : character = '\x22'
    · subst mark
      exact of_decide_eq_true rfl
    · obtain ⟨shown, ways, shows⟩ := exists_shown mark false
      rw [shows]
      cases ways with
      | itself => simpa using mark
      | lineEnd => exact of_decide_eq_true rfl
      | escaped => exact of_decide_eq_true rfl

/-- What begins with one quote, or with two and nothing between them, is a text on one line. -/
theorem text?_eq_lineText? {quote : Char} {inner rest : List Char}
    (differs : inner.head? ≠ some quote) (behind : rest.head? ≠ some quote) :
    text? (quote :: (inner ++ quote :: rest)) = lineText? (quote :: (inner ++ quote :: rest)) := by
  have single {more : List Char} (double : inner ++ quote :: rest = quote :: quote :: more) :
      False := by
    cases inner with
    | nil => exact behind (congrArg (fun input => input.tail.head?) double)
    | cons first inner => exact differs (congrArg List.head? double)
  rw [text?.eq_def]
  split
  · next more same =>
    obtain ⟨mark, double⟩ := List.cons.inj same
    subst mark
    exact (single double).elim
  · next more same =>
    obtain ⟨mark, double⟩ := List.cons.inj same
    subst mark
    exact (single double).elim
  · rfl

theorem text?_threeDouble (input : List Char) :
    text? (List.replicate 3 '\x22' ++ input) =
      readMultiBasic (input.length + 1) [] (skipFirstLine input) := rfl

theorem text?_threeSingle (input : List Char) :
    text? (List.replicate 3 '\x27' ++ input) =
      readMultiLiteral (input.length + 1) [] (skipFirstLine input) := rfl

theorem length_le_escapeText (multi : Bool) (most quotes : Nat) (text : List Char) :
    text.length ≤ (escapeText multi most quotes text).length := by
  induction text generalizing quotes with
  | nil => exact Nat.le_refl _
  | cons character text inductionHypothesis =>
    by_cases mark : character = '\x22'
    · subst mark
      rw [escapeText_quote]
      split
      · exact Nat.succ_le_succ (inductionHypothesis _)
      · exact Nat.le_succ_of_le (Nat.succ_le_succ (inductionHypothesis _))
    · obtain ⟨shown, ways, shows⟩ := exists_shown mark multi
      have further := inductionHypothesis 0
      rw [shows, List.length_append, List.length_cons]
      cases ways <;> simp only [List.length_cons, List.length_nil] <;> omega

theorem newline?_escapeText {text : List Char} (single : '\n' ∉ text) (rest : List Char) :
    newline? (escapeText true 2 0 text ++ (List.replicate 3 '\x22' ++ rest)) = none := by
  cases text with
  | nil => rfl
  | cons character text =>
    by_cases mark : character = '\x22'
    · subst mark
      rfl
    · obtain ⟨shown, ways, shows⟩ := exists_shown mark true
      rw [shows]
      cases ways with
      | itself plain => exact newline?_of_plain plain _
      | lineEnd _ ends => exact absurd (ends ▸ List.mem_cons_self) single
      | escaped => rfl

/-- **A quoted text is read back.**  Whatever the text, and whatever follows it but a quote, the
text is taken off the front. -/
theorem text?_quote (value : String) {rest : List Char} (double : rest.head? ≠ some '\x22')
    (single : rest.head? ≠ some '\x27') :
    text? ((quote value).toList ++ rest) = some (value.toList, rest) := by
  rw [quote, String.toList_ofList]
  generalize value.toList = text
  cases form : Form.of text with
  | basic =>
    have enough := length_le_escapeText false 0 0 text
    simp only [List.cons_append, List.append_assoc, List.nil_append]
    rw [text?_eq_lineText? (escapeText_head? text) double, lineText?, readBasic_escapeText]
    · rfl
    · rw [List.length_append]
      omega
  | literal =>
    have held := holds_of_form form (.inl rfl)
    simp only [Form.holds, Bool.and_eq_true, Bool.not_eq_true', List.any_eq_false,
      Bool.or_eq_true, decide_eq_true_eq, not_or, Bool.not_eq_true] at held
    have plain : ∀ character ∈ text, isPlainChar character = true ∧ character ≠ '\x27' := by
      intro character member
      have unmarked := held.2 character member
      exact ⟨(needsEscape_eq_false_iff.1 (held.1 character member)).resolve_right unmarked.2,
        unmarked.1⟩
    have differs : text.head? ≠ some '\x27' := by
      intro same
      exact (plain _ (List.mem_of_mem_head? same)).2 rfl
    simp only [List.cons_append, List.append_assoc, List.nil_append]
    rw [text?_eq_lineText? differs single, lineText?_literal plain]
  | multiBasic =>
    have enough := length_le_escapeText true 2 0 text
    have skipped := skipFirstLine_opening fun (unbroken : '\n' ∉ text) =>
      newline?_escapeText unbroken rest
    simp only [List.append_assoc] at skipped ⊢
    rw [text?_threeDouble, skipped, readMultiBasic_escapeText text [] double (Nat.zero_le 2)]
    · rfl
    · simp only [List.length_append]
      omega
  | multiLiteral =>
    have held := holds_of_form form (.inr rfl)
    simp only [Form.holds, Bool.and_eq_true, Bool.not_eq_true', List.any_eq_false,
      decide_eq_true_eq, Bool.not_eq_true] at held
    have plain : ∀ character ∈ text, isPlainChar character = true ∨ character = '\n' :=
      fun character member => needsEscape_eq_false_iff.1 (held.1 character member)
    have opened : '\n' ∉ text → newline? (text ++ (List.replicate 3 '\x27' ++ rest)) = none := by
      intro unbroken
      cases text with
      | nil => rfl
      | cons character text =>
        rcases plain character (.head _) with shown | ends
        · exact newline?_of_plain shown _
        · exact absurd (ends ▸ List.mem_cons_self) unbroken
    have skipped := skipFirstLine_opening opened
    simp only [List.append_assoc] at skipped ⊢
    rw [text?_threeSingle, skipped, readMultiLiteral_text plain held.2 [] single]
    · rfl
    · simp only [List.length_append]
      omega

end StoreBench.Toml
