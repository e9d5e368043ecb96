import StoreBench.Mix.CallCheck
import StoreBench.Proofs.Keys.KeyOrder
import StoreBench.Proofs.Mix.WellFormedCalls

/-!
Contract: the check of calls recognizes the calls of transactions, and no others.

A key and a field name are written from a number that can be read back, so each is recognized by
writing the number anew.

Owns: what every part of the check decides, and `recognizes_iff`.

Does not own: that transactions make such calls, which is in `Proofs.Mix.WellFormedCalls`.
-/

namespace StoreBench.Mix

open Keys (recordKey)
open Store (Call Row)
open Transactions (fieldName)

/-! ## Numbers behind names -/

theorem isLetter_iff {byte : UInt8} : isLetter byte = true ↔ IsAlphanumeric byte := by
  have bytes : ∀ number < UInt8.size,
      (isLetter number.toUInt8 = true ↔ IsAlphanumeric number.toUInt8) := by
    decide +kernel
  have same : byte.toNat.toUInt8 = byte := UInt8.ofNat_toNat
  rw [← same]
  exact bytes byte.toNat byte.toNat_lt

theorem numberBehind_fieldName (index : Nat) : numberBehind 5 (fieldName index) = index := by
  have text : (fieldName index).toList = "field".toList ++ (toString index).toList :=
    String.toList_append
  rw [numberBehind, text, Nat.toString_eq_ofList_toDigits]
  show Nat.ofDigitChars 10 (String.ofList (Nat.toDigits 10 index)).toList 0 = index
  rw [String.toList_ofList, Nat.ofDigitChars_ten_toDigits]

theorem numberBehind_recordKey (number : UInt64) :
    numberBehind 4 (recordKey number) = number.toNat := by
  rw [numberBehind, Keys.toList_recordKey]
  exact Keys.ofDigitChars_digitsOf number

theorem recordOf?_eq_some_iff {key : String} {record : Nat} :
    recordOf? key = some record ↔ record < UInt64.size ∧ key = recordKey record.toUInt64 := by
  rw [recordOf?]
  constructor
  · intro found
    split at found
    · next known =>
      cases found
      exact known
    · cases found
  · rintro ⟨small, rfl⟩
    have written : numberBehind 4 (recordKey record.toUInt64) = record := by
      rw [numberBehind_recordKey]
      exact UInt64.toNat_ofNat_of_lt' small
    rw [written]
    exact if_pos ⟨small, rfl⟩

namespace Options

variable {options : Options}

/-! ## Parts of a call -/

theorem knowsField_iff {name : String} :
    options.knowsField name = true ↔ name ∈ options.fieldNames := by
  rw [knowsField, Bool.and_eq_true, decide_eq_true_eq, beq_iff_eq]
  constructor
  · rintro ⟨inside, same⟩
    exact List.mem_map.2 ⟨_, List.mem_range.2 inside, same.symm⟩
  · intro known
    obtain ⟨index, inside, rfl⟩ := List.mem_map.1 known
    have written : numberBehind 5 ("field" ++ toString index) = index :=
      numberBehind_fieldName index
    rw [written]
    exact ⟨List.mem_range.1 inside, rfl⟩

theorem knowsKey_iff {key : String} : options.knowsKey key = true ↔ options.IsRecord key := by
  rw [knowsKey, Option.any_eq_true]
  constructor
  · rintro ⟨record, found, initial⟩
    exact ⟨record, of_decide_eq_true initial, (recordOf?_eq_some_iff.1 found).2⟩
  · rintro ⟨record, initial, rfl⟩
    have small := Nat.lt_trans initial options.recordCount.toNat_lt
    exact ⟨record, recordOf?_eq_some_iff.2 ⟨small, rfl⟩, decide_eq_true initial⟩

theorem knowsFilter_iff {fields : Option (List String)} :
    options.knowsFilter fields = true ↔ options.IsFilter fields := by
  rw [IsFilter]
  cases fields with
  | none => cases all : options.readAllFields <;> simp [knowsFilter, all]
  | some names =>
    rcases names with _ | ⟨name, _ | ⟨_, _⟩⟩
    · cases all : options.readAllFields <;> simp [knowsFilter]
    · cases all : options.readAllFields <;> simp [knowsFilter, all, knowsField_iff]
    · cases all : options.readAllFields <;> simp [knowsFilter]

theorem knowsValue_iff {value : List UInt8} :
    options.knowsValue value = true ↔ options.IsValue value := by
  simp [knowsValue, IsValue, isLetter_iff]

theorem knowsRow_iff {row : Row} : options.knowsRow row = true ↔ options.HasShape row := by
  rw [knowsRow, Bool.and_eq_true, beq_iff_eq, List.all_eq_true]
  constructor
  · rintro ⟨names, values⟩
    exact ⟨names, fun field member => knowsValue_iff.1 (values field member)⟩
  · intro shaped
    exact ⟨shaped.names, fun field member => knowsValue_iff.2 (shaped.values field member)⟩

theorem knowsUpdate_iff {values : Row} :
    options.knowsUpdate values = true ↔ options.IsUpdate values := by
  unfold knowsUpdate IsUpdate
  split
  · exact knowsRow_iff
  · match values with
    | [] => simp
    | [field] =>
      rw [Bool.and_eq_true, knowsField_iff, knowsValue_iff]
      constructor
      · rintro ⟨known, suits⟩
        exact ⟨field.name, known, field.value, suits, rfl⟩
      · rintro ⟨name, known, value, suits, same⟩
        cases same
        exact ⟨known, suits⟩
    | _ :: _ :: _ => simp

end Options

/-! ## Calls -/

/-- The check recognizes a call exactly if a transaction with these options may make it. -/
theorem Options.recognizes_iff {options : Options} {call : Call} :
    options.recognizes call = true ↔ options.Issues call := by
  unfold recognizes
  rw [Bool.and_eq_true, beq_iff_eq]
  constructor
  · rintro ⟨table, known⟩
    cases call with
    | read _ key fields =>
      cases table
      rw [Bool.and_eq_true, knowsKey_iff, knowsFilter_iff] at known
      exact .read known.1 known.2
    | update _ key values =>
      cases table
      rw [Bool.and_eq_true, knowsKey_iff, knowsUpdate_iff] at known
      exact .update known.1 known.2
    | insert _ key row =>
      cases table
      rw [Bool.and_eq_true, Option.isSome_iff_exists, knowsRow_iff] at known
      obtain ⟨⟨record, found⟩, shaped⟩ := known
      rw [(recordOf?_eq_some_iff.1 found).2]
      exact .insert shaped
    | scan _ key count fields =>
      cases table
      simp only [Bool.and_eq_true, decide_eq_true_eq, knowsKey_iff, knowsFilter_iff] at known
      obtain ⟨⟨⟨record, some⟩, short⟩, filter⟩ := known
      exact .scan record some short filter
    | delete _ key =>
      cases table
      exact .delete (knowsKey_iff.1 known)
  · intro issues
    cases issues with
    | read known filter => simp [Call.table, knowsKey_iff.2 known, knowsFilter_iff.2 filter]
    | update known update => simp [Call.table, knowsKey_iff.2 known, knowsUpdate_iff.2 update]
    | @insert record row shaped =>
      have found : recordOf? (recordKey record) = some record.toNat :=
        recordOf?_eq_some_iff.2 ⟨record.toNat_lt, congrArg recordKey UInt64.ofNat_toNat.symm⟩
      simp [Call.table, found, knowsRow_iff.2 shaped]
    | scan known some short filter =>
      simp [Call.table, knowsKey_iff.2 known, knowsFilter_iff.2 filter, some, short]
    | delete known => simp [Call.table, knowsKey_iff.2 known]

end StoreBench.Mix
