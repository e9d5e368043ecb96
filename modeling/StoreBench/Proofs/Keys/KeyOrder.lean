import Mathlib.Algebra.Order.Ring.Nat
import StoreBench.Proofs.Keys.RecordKeys
import StoreBench.Proofs.Store.Refinement

/-!
Contract: the order of keys is the order of their records, as long as all have twelve digits.

Texts of digits of one length compare like the numbers that they are.  A longer text compares with a
shorter one by its first digits, which are its number divided by a power of ten.

Owns:
- the order of digits, and of keys of whatever width;
- the records that a scan of a table of keys comes to.

Does not own: that different records have different keys.
-/

namespace StoreBench.Keys

open Text (ofDigitChars_cons_eq ofDigitChars_lt_pow)

/-! ## Digits -/

section
variable {first second rest : List Char}

/-- Texts of so many digits compare like their numbers. -/
theorem lt_iff_ofDigitChars_lt (same : first.length = second.length)
    (firstDigits : ∀ letter ∈ first, letter.isDigit = true)
    (secondDigits : ∀ letter ∈ second, letter.isDigit = true) :
    first < second ↔ Nat.ofDigitChars 10 first 0 < Nat.ofDigitChars 10 second 0 := by
  induction first generalizing second with
  | nil =>
    rw [List.eq_nil_of_length_eq_zero same.symm]
    exact iff_of_false (List.not_lt_nil _) (Nat.lt_irrefl _)
  | cons letter rest inductionHypothesis =>
    obtain _ | ⟨other, others⟩ := second
    · cases same
    have lengths : rest.length = others.length := Nat.succ.inj same
    have restDigits := fun character inside => firstDigits character (List.mem_cons_of_mem _ inside)
    have othersDigits :=
      fun character inside => secondDigits character (List.mem_cons_of_mem _ inside)
    have restSmall := ofDigitChars_lt_pow restDigits
    have othersSmall := ofDigitChars_lt_pow othersDigits
    have zero : '0'.toNat = 48 := rfl
    have digit := (Char.isDigit_iff_toNat.1 (firstDigits letter List.mem_cons_self)).1
    have otherDigit := (Char.isDigit_iff_toNat.1 (secondDigits other List.mem_cons_self)).1
    rw [List.cons_lt_cons_iff, inductionHypothesis lengths restDigits othersDigits,
      ofDigitChars_cons_eq, ofDigitChars_cons_eq, ← lengths]
    rw [← lengths] at othersSmall
    -- the first digits that differ decide, for what follows them is less than one of their units
    rcases Nat.lt_trichotomy letter.toNat other.toNat with less | equal | greater
    · have multiple := Nat.mul_le_mul_left (10 ^ rest.length)
        (show letter.toNat - '0'.toNat + 1 ≤ other.toNat - '0'.toNat by omega)
      rw [Nat.mul_succ] at multiple
      exact iff_of_true (.inl less) (by omega)
    · rw [equal, Char.toNat_inj.1 equal]
      simp
    · have multiple := Nat.mul_le_mul_left (10 ^ rest.length)
        (show other.toNat - '0'.toNat + 1 ≤ letter.toNat - '0'.toNat by omega)
      rw [Nat.mul_succ] at multiple
      refine iff_of_false ?_ (by omega)
      rintro (less | ⟨rfl, _⟩)
      · exact Nat.lt_asymm greater less
      · exact Nat.lt_irrefl _ greater

/-- A text sorts before a longer one unless the beginning of the longer one sorts before it. -/
theorem lt_append_iff (same : first.length = second.length) (more : rest ≠ []) :
    first < second ++ rest ↔ ¬ second < first := by
  induction first generalizing second with
  | nil =>
    rw [List.eq_nil_of_length_eq_zero same.symm, List.nil_append]
    obtain ⟨letter, others, rfl⟩ := List.exists_cons_of_ne_nil more
    exact iff_of_true (List.nil_lt_cons _ _) (List.not_lt_nil _)
  | cons letter front inductionHypothesis =>
    obtain _ | ⟨other, others⟩ := second
    · cases same
    rw [List.cons_append, List.cons_lt_cons_iff, List.cons_lt_cons_iff,
      inductionHypothesis (Nat.succ.inj same)]
    rcases lt_trichotomy letter other with less | rfl | greater
    · simp [less, less.ne', less.asymm]
    · simp
    · simp [greater, greater.ne', greater.asymm]

/-- The first digits are the number without its last ones. -/
theorem ofDigitChars_front (digits : ∀ letter ∈ rest, letter.isDigit = true) :
    Nat.ofDigitChars 10 first 0 = Nat.ofDigitChars 10 (first ++ rest) 0 / 10 ^ rest.length := by
  rw [Nat.ofDigitChars_append, @Nat.ofDigitChars_eq_ofDigitChars_zero rest,
    Nat.mul_add_div (Nat.pow_pos (by decide)), Nat.div_eq_of_lt (ofDigitChars_lt_pow digits),
    Nat.add_zero]

end

/-! ## Keys -/

section
variable {first second : UInt64}

/-- The digits of a key, with the zeros in front of them. -/
def digitsOf (number : UInt64) : List Char :=
  List.leftpad keyDigits '0' (Nat.toDigits 10 number.toNat)

theorem toList_recordKey (number : UInt64) :
    (recordKey number).toList = 'u' :: 's' :: 'e' :: 'r' :: digitsOf number := by
  rw [recordKey, String.toList_append, String.toList_ofList, String.toList_ofList, digitsOf]
  rfl

theorem ofDigitChars_digitsOf (number : UInt64) :
    Nat.ofDigitChars 10 (digitsOf number) 0 = number.toNat :=
  Text.ofDigitChars_leftpad keyDigits number.toNat

theorem isDigit_of_mem_digitsOf {number : UInt64} : ∀ letter ∈ digitsOf number,
    letter.isDigit = true := by
  intro letter inside
  rcases List.mem_append.1 inside with zero | digit
  · rw [List.eq_of_mem_replicate zero]
    rfl
  · exact Nat.isDigit_of_mem_toDigits (by decide) (by decide) digit

theorem length_digitsOf (number : UInt64) :
    (digitsOf number).length = max keyDigits (Nat.toDigits 10 number.toNat).length := by
  rw [digitsOf, List.length_leftpad]

/-- Keys of records below this bound have the width that keys are padded to. -/
theorem length_digitsOf_of_lt (small : first.toNat < 10 ^ keyDigits) :
    (digitsOf first).length = keyDigits := by
  rw [length_digitsOf]
  exact max_eq_left ((Nat.length_toDigits_le_iff (by decide) (by decide)).2 small)

theorem length_digitsOf_mono (earlier : first < second) :
    (digitsOf first).length ≤ (digitsOf second).length := by
  rw [length_digitsOf, length_digitsOf]
  refine max_le_max_left _ ((Nat.length_toDigits_le_iff (by decide) Nat.length_toDigits_pos).2 ?_)
  exact Nat.lt_trans (UInt64.lt_iff_toNat_lt.1 earlier)
    ((Nat.length_toDigits_le_iff (by decide) Nat.length_toDigits_pos).1 (Nat.le_refl _))

/-- A character of a key takes one byte. -/
theorem length_bytesOf_recordKey (number : UInt64) :
    (Text.bytesOf (recordKey number)).length = 4 + (digitsOf number).length := by
  have single : ∀ letter ∈ (recordKey number).toList,
      (String.utf8EncodeChar letter).length = 1 := by
    intro letter inside
    have small : letter.toNat ≤ 127 := by
      rw [toList_recordKey] at inside
      simp only [List.mem_cons] at inside
      rcases inside with rfl | rfl | rfl | rfl | digit
      iterate 4 decide
      exact Nat.le_trans (Char.isDigit_iff_toNat.1 (isDigit_of_mem_digitsOf letter digit)).2
        (by decide)
    rw [String.utf8EncodeChar]
    simp [small]
  rw [Text.bytesOf_eq, List.length_flatMap, List.map_congr_left single, List.map_const',
    List.sum_replicate_nat, Nat.mul_one, toList_recordKey]
  simp only [List.length_cons]
  omega

/-- Of two keys that of the earlier record sorts before the other one exactly if both have one
width, or its number does not exceed the first digits of the other number. -/
theorem recordKey_lt_iff (earlier : first < second) :
    recordKey first < recordKey second ↔
      (digitsOf first).length = (digitsOf second).length ∨
        first.toNat ≤
          second.toNat / 10 ^ ((digitsOf second).length - (digitsOf first).length) := by
  have numbers : first.toNat < second.toNat := UInt64.lt_iff_toNat_lt.1 earlier
  rw [String.lt_iff, toList_recordKey, toList_recordKey]
  simp only [List.cons_lt_cons_iff, Char.lt_irrefl, true_and, false_or]
  rcases Nat.lt_or_eq_of_le (length_digitsOf_mono earlier) with shorter | same
  · -- the longer key starts with as many digits as the shorter one has
    let front := (digitsOf second).take (digitsOf first).length
    let rest := (digitsOf second).drop (digitsOf first).length
    have whole : digitsOf second = front ++ rest := (List.take_append_drop _ _).symm
    have width : (digitsOf first).length = front.length :=
      (List.length_take_of_le (Nat.le_of_lt shorter)).symm
    have restWidth : rest.length = (digitsOf second).length - (digitsOf first).length :=
      List.length_drop
    have more : rest ≠ [] := List.ne_nil_of_length_pos (by omega)
    have frontDigits : ∀ letter ∈ front, letter.isDigit = true := fun letter inside =>
      isDigit_of_mem_digitsOf letter (List.mem_of_mem_take inside)
    have restDigits : ∀ letter ∈ rest, letter.isDigit = true := fun letter inside =>
      isDigit_of_mem_digitsOf letter (List.mem_of_mem_drop inside)
    rw [← restWidth, ← ofDigitChars_digitsOf second, ← ofDigitChars_digitsOf first, whole,
      ← ofDigitChars_front restDigits, lt_append_iff width more,
      lt_iff_ofDigitChars_lt width.symm frontDigits isDigit_of_mem_digitsOf, Nat.not_lt,
      List.length_append]
    exact ⟨.inr, fun | .inl same => absurd same (by omega) | .inr below => below⟩
  · rw [lt_iff_ofDigitChars_lt same isDigit_of_mem_digitsOf isDigit_of_mem_digitsOf,
      ofDigitChars_digitsOf, ofDigitChars_digitsOf]
    exact iff_of_true numbers (.inl same)

/-- Up to twelve digits keys sort like their records. -/
theorem recordKey_lt_of_lt (earlier : first < second) (small : second.toNat < 10 ^ keyDigits) :
    recordKey first < recordKey second := by
  have firstSmall := Nat.lt_trans (UInt64.lt_iff_toNat_lt.1 earlier) small
  refine (recordKey_lt_iff earlier).2 (.inl ?_)
  rw [length_digitsOf_of_lt small, length_digitsOf_of_lt firstSmall]

theorem recordKey_le_iff (firstSmall : first.toNat < 10 ^ keyDigits)
    (secondSmall : second.toNat < 10 ^ keyDigits) :
    recordKey first ≤ recordKey second ↔ first ≤ second := by
  constructor
  · intro sorted
    refine UInt64.not_lt.1 fun later => ?_
    exact not_le_of_gt (recordKey_lt_of_lt later firstSmall) sorted
  · intro ordered
    rcases UInt64.lt_or_eq_of_le ordered with earlier | rfl
    · exact le_of_lt (recordKey_lt_of_lt earlier secondSmall)
    · exact le_refl _

end

/-! ## Scans -/

open Store

/-- The keys from that of a record on, in a table that has the keys of records of twelve digits. -/
theorem keysFrom_recordKey {rows : Rows} {records : List UInt64}
    (ascending : records.Pairwise (· < ·))
    (small : ∀ number ∈ records, number.toNat < 10 ^ keyDigits)
    (only : ∀ key, key ∈ rows ↔ ∃ number ∈ records, recordKey number = key) {first : UInt64}
    (firstSmall : first.toNat < 10 ^ keyDigits) :
    rows.keysFrom (recordKey first) =
      (records.filter fun number => first ≤ number).map recordKey := by
  have sorted : ((records.filter fun number => first ≤ number).map recordKey).Pairwise (· < ·) := by
    rw [List.pairwise_map]
    refine (List.Pairwise.filter _ ascending).imp_of_mem fun _ inside earlier => ?_
    exact recordKey_lt_of_lt earlier (small _ (List.mem_of_mem_filter inside))
  have same : rows.keys.filter (KeyLe (recordKey first)) =
      ((records.filter fun number => first ≤ number).map recordKey).toFinset := by
    ext key
    rw [Finset.mem_filter, Finmap.mem_keys, List.mem_toFinset, List.mem_map, only, keyLe_iff_le]
    simp only [List.mem_filter, decide_eq_true_eq]
    constructor
    · rintro ⟨⟨number, inside, rfl⟩, behind⟩
      exact ⟨number, ⟨inside, (recordKey_le_iff firstSmall (small number inside)).1 behind⟩, rfl⟩
    · rintro ⟨number, ⟨inside, behind⟩, rfl⟩
      exact ⟨⟨number, inside, rfl⟩, (recordKey_le_iff firstSmall (small number inside)).2 behind⟩
  rw [Rows.keysFrom, same, List.toFinset_sort]
  · exact sorted.imp fun before => keyLe_iff_le.2 (le_of_lt before)
  · exact sorted.imp ne_of_lt

/-- A scan of such a table reads the rows of its records, from the first on in their order. -/
theorem serve_scan_recordKey {clients : Nat} {store : OrderedStore clients} {table : String}
    {records : List UInt64} (ascending : records.Pairwise (· < ·))
    (small : ∀ number ∈ records, number.toNat < 10 ^ keyDigits)
    (only : ∀ key, key ∈ store.contents table ↔ ∃ number ∈ records, recordKey number = key)
    {first : UInt64} (firstSmall : first.toNat < 10 ^ keyDigits) (count : Nat)
    (fields : Option (List String)) :
    (store.serve true (.scan table (recordKey first) count fields)).1 =
      ⟨.ok .ok, [], ((records.filter fun number => first ≤ number).take count).filterMap
        fun number =>
          ((store.contents table).lookup (recordKey number)).map (Row.select fields)⟩ := by
  rw [OrderedStore.serve, keysFrom_recordKey ascending small only firstSmall, ← List.map_take,
    List.filterMap_map, List.map_filterMap]
  rfl

/-- An ordered store after requests. -/
def storeAfter {clients : Nat} (decodes : Fin clients → Bool)
    (requests : List (Request clients)) : OrderedStore clients :=
  requests.foldl (fun store request => (store.answer decodes request).2) .unheld

theorem answersOf_concat {σ : Type} {clients : Nat} (answer : Request clients → σ → Answer × σ)
    (requests : List (Request clients)) (last : Request clients) (state : σ) :
    answersOf answer (requests ++ [last]) state =
      answersOf answer requests state ++
        [(answer last
          (requests.foldl (fun state request => (answer request state).2) state)).1] := by
  induction requests generalizing state with
  | nil => rfl
  | cons request later inductionHypothesis =>
    rw [List.cons_append, answersOf, answersOf, inductionHypothesis]
    rfl

theorem balanced_concat_data {clients : Nat} {requests : List (Request clients)} {held : Nat}
    (balanced : Balanced held requests) (client : Fin clients) (call : Call) :
    Balanced held (requests ++ [.data client call]) := by
  induction requests generalizing held with
  | nil => trivial
  | cons request later inductionHypothesis =>
    cases request with
    | release => exact ⟨balanced.1, inductionHypothesis balanced.2⟩
    | _ => exact inductionHypothesis balanced

/-- **Keys sort by record, up to twelve digits.**  Different records have different keys.  In the
order of bytes, the key of an earlier record comes before that of a later one exactly if both have
one length, or the earlier number is at most the later one without as many last digits as the later
key is longer; so always, if the later number has at most twelve digits.  And whatever was asked of
a store in memory: if a table has the keys of such records and no others, a scan from one of them
reads the rows of the records from this one on, in the order of their numbers. -/
theorem keys_sort_by_record :
    Function.Injective recordKey ∧
    (∀ first second : UInt64, first < second →
      (Text.bytesOf (recordKey first) < Text.bytesOf (recordKey second) ↔
        (Text.bytesOf (recordKey first)).length = (Text.bytesOf (recordKey second)).length ∨
          first.toNat ≤ second.toNat / 10 ^
            ((Text.bytesOf (recordKey second)).length -
              (Text.bytesOf (recordKey first)).length))) ∧
    (∀ first second : UInt64, first < second → second.toNat < 10 ^ 12 →
      Text.bytesOf (recordKey first) < Text.bytesOf (recordKey second)) ∧
    (∀ (clients : Nat) (decodes : Fin clients → Bool) (requests : List (Request clients)),
      Balanced 0 requests →
      ∀ client ∈ (storeAfter decodes requests).initialized, decodes client = true →
      ∀ (table : String) (records : List UInt64), records.Pairwise (· < ·) →
      (∀ number ∈ records, number.toNat < 10 ^ 12) →
      (∀ key, key ∈ (storeAfter decodes requests).contents table ↔
        ∃ number ∈ records, recordKey number = key) →
      ∀ (first : UInt64) (count : Nat) (fields : Option (List String)), first.toNat < 10 ^ 12 →
        let start := MemoryWorld.opening (List.ofFn fun client => ⟨.single, decodes client, none⟩)
        let scanned := (records.filter fun number => first ≤ number).take count
        answersOf MemoryWorld.answer
            (requests ++ [.data client (.scan table (recordKey first) count fields)]) start =
          answersOf MemoryWorld.answer requests start ++
            [.reply ⟨.ok .ok, [], scanned.filterMap fun number =>
              (((storeAfter decodes requests).contents table).lookup (recordKey number)).map
                (Row.select fields)⟩]) := by
  refine ⟨recordKey_injective, ?_, ?_, ?_⟩
  · intro first second earlier
    rw [← Text.lt_iff_bytes_lt, recordKey_lt_iff earlier, length_bytesOf_recordKey,
      length_bytesOf_recordKey, Nat.add_sub_add_left, Nat.add_right_inj]
  · intro first second earlier small
    exact (Text.lt_iff_bytes_lt _ _).1 (recordKey_lt_of_lt earlier small)
  · intro clients decodes requests balanced client initialized decoding table records ascending
      small only first count fields firstSmall start scanned
    have alike {more : List (Request clients)} (balanced : Balanced 0 more) :
        answersOf MemoryWorld.answer more start =
          answersOf (OrderedStore.answer decodes) more .unheld :=
      Represents.fresh.answersOf_eq balanced
    have scan := serve_scan_recordKey ascending small only firstSmall count fields
    rw [alike balanced, alike (balanced_concat_data balanced client _), answersOf_concat]
    show _ ++ [((storeAfter decodes requests).answer decodes _).1] = _
    rw [OrderedStore.answer, if_pos initialized, decoding]
    simp only [scan]
    rfl

/-- The greatest key of twelve digits sorts behind the least key of thirteen, and a scan finds three
records in the order of their numbers although they were inserted in another order. -/
theorem keys_sort_by_record_of_two_widths :
    let requests : List (Request 1) := [.init 0,
      .data 0 (.insert "t" (recordKey 100) [⟨"a", [1]⟩]),
      .data 0 (.insert "t" (recordKey 9) [⟨"a", [2]⟩]),
      .data 0 (.insert "t" (recordKey 20) [⟨"a", [3]⟩])]
    let start := MemoryWorld.opening (List.ofFn fun _ : Fin 1 => ⟨.single, true, none⟩)
    ¬ Text.bytesOf (recordKey 999999999999) < Text.bytesOf (recordKey 1000000000000) ∧
    Text.bytesOf (recordKey 1) < Text.bytesOf (recordKey 1000000000000) ∧
    Text.bytesOf (recordKey 9) < Text.bytesOf (recordKey 100) ∧
    answersOf MemoryWorld.answer
        (requests ++ [.data 0 (.scan "t" (recordKey 10) 5 none)]) start =
      answersOf MemoryWorld.answer requests start ++
        [.reply ⟨.ok .ok, [], [[⟨"a", [3]⟩], [⟨"a", [1]⟩]]⟩] := by
  intro requests start
  obtain ⟨injective, order, small, scans⟩ := keys_sort_by_record
  have width : (digitsOf 999999999999).length = 12 ∧ (digitsOf 1000000000000).length = 13 ∧
      (digitsOf 1).length = 12 := by decide +kernel
  refine ⟨?_, ?_, small 9 100 (by decide) (by decide), ?_⟩
  · rw [order _ _ (by decide)]
    simp only [length_bytesOf_recordKey, width]
    decide
  · rw [order _ _ (by decide)]
    simp only [length_bytesOf_recordKey, width]
    decide
  · have contents : (storeAfter (fun _ => true) requests).contents "t" =
        (((∅ : Rows).insert (recordKey 100) [⟨"a", [1]⟩]).insert (recordKey 9) [⟨"a", [2]⟩]).insert
          (recordKey 20) [⟨"a", [3]⟩] := rfl
    have only : ∀ key, key ∈ (storeAfter (fun _ => true) requests).contents "t" ↔
        ∃ number ∈ ([9, 20, 100] : List UInt64), recordKey number = key := by
      intro key
      rw [contents]
      simp only [Finmap.mem_insert, Finmap.notMem_empty, or_false, List.mem_cons, List.not_mem_nil,
        exists_eq_or_imp, exists_eq_left, @eq_comm _ key]
      exact or_left_comm
    have apart : recordKey 100 ≠ recordKey 9 ∧ recordKey 100 ≠ recordKey 20 := by
      rw [injective.ne_iff, injective.ne_iff]
      decide
    have few : ∀ number ∈ ([9, 20, 100] : List UInt64), number.toNat < 10 ^ 12 := by simp
    have scanned := scans 1 (fun _ => true) requests trivial 0 (by decide) rfl "t" [9, 20, 100]
      (by decide) few only 10 5 none (by decide)
    have listed : (([9, 20, 100] : List UInt64).filter fun number => 10 ≤ number).take 5 =
        [20, 100] := rfl
    have rows : ([20, 100] : List UInt64).filterMap (fun number =>
          (((storeAfter (fun _ => true) requests).contents "t").lookup (recordKey number)).map
            (Row.select none)) =
        [[⟨"a", [3]⟩], [⟨"a", [1]⟩]] := by
      rw [contents, List.filterMap_cons_some, List.filterMap_cons_some, List.filterMap_nil]
      · rw [Finmap.lookup_insert_of_ne _ apart.2, Finmap.lookup_insert_of_ne _ apart.1,
          Finmap.lookup_insert]
        rfl
      · rw [Finmap.lookup_insert]
        rfl
    simp only [listed, rows] at scanned
    exact scanned

end StoreBench.Keys
