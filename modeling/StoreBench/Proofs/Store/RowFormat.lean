import StoreBench.Proofs.Outcome
import StoreBench.Store.Format

/-!
Contract: the row format has exactly one spelling for every row that it can hold.

A reader that takes a part off the front of the data accepts it exactly if the data begins
with what the writer writes for that part.  This holds for lengths, chunks and fields, and by
recursion on either side for whole rows.

Owns:
- `ReadsBack`, the relation between a writer and its reader, for every part of the format;
- `Row.tooLong?`, the first name or value that the format cannot hold, and the writer's
  failure by it;
- the one kind of failure that a reader ends with.

Does not own: what happens to data that is cut off or continued.
-/

namespace StoreBench.Store

/-- A reader takes off the front exactly what the writer writes. -/
def ReadsBack {α : Type} (write : α → Except Failure (List UInt8))
    (read : List UInt8 → Except Failure (α × List UInt8)) : Prop :=
  ∀ (value : α) (data rest : List UInt8),
    read data = .ok (value, rest) ↔ ∃ written, write value = .ok written ∧ data = written ++ rest

/-! ## Lengths -/

theorem readLength_lengthBytes {length : Nat} (small : length < lengthBound)
    (rest : List UInt8) :
    readLength (lengthBytes length ++ rest) = .ok (length, rest) := by
  have bound : lengthBound = 4294967296 := rfl
  rw [bound] at small
  have rebuilt : length % 256 + 256 * (length / 256 % 256) + 65536 * (length / 65536 % 256) +
      16777216 * (length / 16777216 % 256) = length := by
    omega
  simp only [lengthBytes, List.cons_append, List.nil_append, readLength, UInt8.toNat_ofNat',
    Nat.toUInt8_eq, Nat.reducePow, rebuilt]

/-- A length that is read is small, and its four bytes stood in front. -/
theorem eq_lengthBytes_of_readLength {data rest : List UInt8} {length : Nat}
    (taken : readLength data = .ok (length, rest)) :
    length < lengthBound ∧ data = lengthBytes length ++ rest := by
  have bound : lengthBound = 4294967296 := rfl
  unfold readLength at taken
  split at taken
  case h_2 => cases taken
  case h_1 first second third fourth others =>
    cases taken
    have firstLt := first.toNat_lt
    have secondLt := second.toNat_lt
    have thirdLt := third.toNat_lt
    have fourthLt := fourth.toNat_lt
    refine ⟨by omega, ?_⟩
    simp only [lengthBytes, List.cons_append, List.nil_append, List.cons.injEq, and_true,
      ← UInt8.toNat_inj, Nat.toUInt8_eq, UInt8.toNat_ofNat', Nat.reducePow]
    omega

/-! ## Chunks and names -/

theorem encodeChunk_eq_ok_iff {bytes written : List UInt8} :
    encodeChunk bytes = .ok written ↔
      bytes.length < lengthBound ∧ written = lengthBytes bytes.length ++ bytes := by
  unfold encodeChunk
  split
  · next small => simp [small, eq_comm]
  · next large => simp [large]

/-- A chunk is read if as many bytes follow its length. -/
theorem readChunk_eq_ok_iff {data bytes rest : List UInt8} :
    readChunk data = .ok (bytes, rest) ↔
      ∃ length, readLength data = .ok (length, bytes ++ rest) ∧ bytes.length = length := by
  unfold readChunk
  rw [bind_eq_ok_iff]
  constructor
  · rintro ⟨⟨length, after⟩, header, taken⟩
    simp only at taken
    split at taken
    · next complete =>
      cases taken
      exact ⟨length, by rw [List.take_append_drop]; exact header, complete⟩
    · cases taken
  · rintro ⟨length, header, rfl⟩
    exact ⟨_, header, by simp [pure, Except.pure]⟩

theorem readsBack_chunk : ReadsBack encodeChunk readChunk := by
  intro bytes data rest
  rw [readChunk_eq_ok_iff]
  constructor
  · rintro ⟨length, header, rfl⟩
    obtain ⟨small, rfl⟩ := eq_lengthBytes_of_readLength header
    exact ⟨_, encodeChunk_eq_ok_iff.2 ⟨small, rfl⟩, by rw [List.append_assoc]⟩
  · rintro ⟨written, wrote, rfl⟩
    obtain ⟨small, rfl⟩ := encodeChunk_eq_ok_iff.1 wrote
    refine ⟨bytes.length, ?_, rfl⟩
    rw [List.append_assoc]
    exact readLength_lengthBytes small _

theorem nameOfBytes_eq_ok_iff {bytes : List UInt8} {name : String} :
    nameOfBytes bytes = .ok name ↔ bytes = Text.bytesOf name := by
  unfold nameOfBytes String.fromUTF8? Text.bytesOf
  constructor
  · intro spelled
    split at spelled
    case h_2 => cases spelled
    case h_1 found decoded =>
      cases spelled
      split at decoded
      · cases decoded
        rfl
      · cases decoded
  · rintro rfl
    have whole : (⟨name.toUTF8.data.toList.toArray⟩ : ByteArray) = name.toUTF8 := by
      rw [Array.toArray_toList]
    rw [whole, String.toUTF8_eq_toByteArray, dif_pos name.isValidUTF8]
    rfl

/-! ## Fields and rows -/

theorem readsBack_field : ReadsBack encodeField readField := by
  intro field data rest
  unfold encodeField readField
  simp only [bind_eq_ok_iff, Prod.exists]
  constructor
  · rintro ⟨bytes, afterName, nameRead, name, spelled, value, afterValue, valueRead, same⟩
    cases same
    rw [nameOfBytes_eq_ok_iff] at spelled
    subst spelled
    obtain ⟨nameWritten, wroteName, rfl⟩ := (readsBack_chunk _ _ _).1 nameRead
    obtain ⟨valueWritten, wroteValue, rfl⟩ := (readsBack_chunk _ _ _).1 valueRead
    exact ⟨_, ⟨_, wroteName, _, wroteValue, rfl⟩, by rw [List.append_assoc]⟩
  · rintro ⟨written, ⟨nameWritten, wroteName, valueWritten, wroteValue, same⟩, rfl⟩
    cases same
    refine ⟨_, _, (readsBack_chunk _ _ _).2 ⟨_, wroteName, List.append_assoc _ _ _⟩, _,
      nameOfBytes_eq_ok_iff.2 rfl, _, _, (readsBack_chunk _ _ _).2 ⟨_, wroteValue, rfl⟩, rfl⟩

theorem ne_nil_of_encodeField {field : Field} {written : List UInt8}
    (wrote : encodeField field = .ok written) : written ≠ [] := by
  unfold encodeField at wrote
  simp only [bind_eq_ok_iff] at wrote
  obtain ⟨name, wroteName, value, wroteValue, same⟩ := wrote
  obtain ⟨_, rfl⟩ := encodeChunk_eq_ok_iff.1 wroteName
  cases same
  simp [lengthBytes]

@[simp] theorem decodeRow_nil : decodeRow [] = .ok [] := by
  unfold decodeRow
  rfl

/-- Decoding takes one field after the other off the front. -/
theorem decodeRow_of_ne_nil {data : List UInt8} (present : data ≠ []) :
    decodeRow data = (do
      let (field, rest) ← readField data
      let row ← decodeRow rest
      return field :: row) := by
  have filled : data.isEmpty = false := by simpa using present
  rw [decodeRow, filled, if_neg Bool.false_ne_true]
  split
  · next fault taken => rw [taken]; rfl
  · next field rest taken =>
    rw [taken]
    show _ = (decodeRow rest >>= fun row => pure (field :: row))
    cases decodeRow rest <;> rfl

theorem decodeRow_eq_ok_of_ne_nil {data : List UInt8} (present : data ≠ []) {row : Row} :
    decodeRow data = .ok row ↔
      ∃ field rest others, readField data = .ok (field, rest) ∧
        decodeRow rest = .ok others ∧ row = field :: others := by
  rw [decodeRow_of_ne_nil present]
  simp only [bind_eq_ok_iff, Prod.exists, pure, Except.pure, Except.ok.injEq, exists_and_left,
    @eq_comm _ _ row]

/-- A row is read off data exactly if it is written as these data. -/
theorem decodeRow_eq_ok_iff {row : Row} {data : List UInt8} :
    decodeRow data = .ok row ↔ encodeRow row = .ok data := by
  induction row generalizing data with
  | nil =>
    by_cases present : data = []
    · subst present
      simp [encodeRow]
    · simp [decodeRow_eq_ok_of_ne_nil present, encodeRow, Ne.symm present]
  | cons field row inductionHypothesis =>
    simp only [encodeRow, bind_eq_ok_iff]
    constructor
    · intro decoded
      have present : data ≠ [] := by
        rintro rfl
        rw [decodeRow_nil] at decoded
        cases decoded
      obtain ⟨_, rest, _, fieldRead, rowRead, same⟩ :=
        (decodeRow_eq_ok_of_ne_nil present).1 decoded
      cases same
      obtain ⟨first, wroteField, rfl⟩ := (readsBack_field _ _ _).1 fieldRead
      exact ⟨first, wroteField, rest, inductionHypothesis.1 rowRead, rfl⟩
    · rintro ⟨first, wroteField, rest, wroteRow, same⟩
      cases same
      have present : first ++ rest ≠ [] := by
        simp [ne_nil_of_encodeField wroteField]
      have fieldRead := (readsBack_field field (first ++ rest) rest).2 ⟨first, wroteField, rfl⟩
      exact (decodeRow_eq_ok_of_ne_nil present).2
        ⟨field, rest, row, fieldRead, inductionHypothesis.2 wroteRow, rfl⟩

/-! ## Failures of the writer -/

/-- The names and values of a row, in the order in which they are written. -/
def Row.chunks (row : Row) : List (List UInt8) :=
  row.flatMap fun field => [Text.bytesOf field.name, field.value]

/-- The length of the first name or value that the format cannot hold. -/
def Row.tooLong? (row : Row) : Option Nat :=
  (row.chunks.find? fun chunk => lengthBound ≤ chunk.length).map List.length

@[simp] theorem Row.tooLong?_cons (field : Field) (row : Row) :
    Row.tooLong? (field :: row) =
      if lengthBound ≤ (Text.bytesOf field.name).length then
        some (Text.bytesOf field.name).length
      else if lengthBound ≤ field.value.length then some field.value.length
      else row.tooLong? := by
  by_cases name : lengthBound ≤ (Text.bytesOf field.name).length
  · simp [tooLong?, chunks, name]
  · by_cases value : lengthBound ≤ field.value.length
    · simp [tooLong?, chunks, name, value]
    · simp [tooLong?, chunks, name, value]

def Row.bytes (row : Row) : List UInt8 :=
  row.chunks.flatMap fun chunk => lengthBytes chunk.length ++ chunk

/-- Writing fails with the first length that does not fit, and else writes all chunks. -/
theorem encodeRow_eq (row : Row) :
    encodeRow row =
      match row.tooLong? with
      | some length => .error (.store (.fieldTooLong length))
      | none => .ok row.bytes := by
  induction row with
  | nil => rfl
  | cons field row inductionHypothesis =>
    rw [encodeRow, encodeField, inductionHypothesis, Row.tooLong?_cons]
    by_cases name : lengthBound ≤ (Text.bytesOf field.name).length
    · simp [encodeChunk, name, bind, Except.bind, Nat.not_lt.2 name]
    · by_cases value : lengthBound ≤ field.value.length
      · simp [encodeChunk, name, value, bind, Except.bind, Nat.not_lt.2 value, Nat.not_le.1 name]
      · cases others : Row.tooLong? row with
        | some length =>
          simp [encodeChunk, name, value, bind, Except.bind, Nat.not_le.1 name,
            Nat.not_le.1 value, pure, Except.pure]
        | none =>
          simp [encodeChunk, name, value, bind, Except.bind, Nat.not_le.1 name,
            Nat.not_le.1 value, pure, Except.pure, Row.bytes, Row.chunks]

theorem Row.exists_tooLong?_iff {row : Row} :
    (∃ length, row.tooLong? = some length) ↔
      ∃ field ∈ row,
        lengthBound ≤ (Text.bytesOf field.name).length ∨ lengthBound ≤ field.value.length := by
  rw [← Option.isSome_iff_exists, tooLong?, Option.isSome_map, List.find?_isSome]
  simp only [chunks, List.mem_flatMap, List.mem_cons, List.not_mem_nil, or_false,
    decide_eq_true_eq]
  constructor
  · rintro ⟨_, ⟨field, member, rfl | rfl⟩, long⟩
    · exact ⟨field, member, .inl long⟩
    · exact ⟨field, member, .inr long⟩
  · rintro ⟨field, member, long | long⟩
    · exact ⟨_, ⟨field, member, .inl rfl⟩, long⟩
    · exact ⟨_, ⟨field, member, .inr rfl⟩, long⟩

theorem Row.tooLong?_eq_none_iff {row : Row} :
    row.tooLong? = none ↔
      ∀ field ∈ row,
        (Text.bytesOf field.name).length < lengthBound ∧ field.value.length < lengthBound := by
  rw [← Option.not_isSome_iff_eq_none, Option.isSome_iff_exists, exists_tooLong?_iff]
  simp only [not_exists, not_and, not_or, Nat.not_le]

theorem encodeRow_eq_error_iff {row : Row} {fault : Failure} :
    encodeRow row = .error fault ↔
      ∃ length, row.tooLong? = some length ∧ fault = .store (.fieldTooLong length) := by
  rw [encodeRow_eq]
  cases row.tooLong? with
  | none => simp
  | some length => simp [eq_comm]

/-! ## Failures of the reader -/

/-- A reader fails with nothing but data faults. -/
def FailsWithData {α : Type} (result : Except Failure α) : Prop :=
  ∀ fault, result = .error fault → ∃ cause, fault = .data cause

theorem FailsWithData.bind {α β : Type} {first : Except Failure α}
    {next : α → Except Failure β} (firstFails : FailsWithData first)
    (nextFails : ∀ value, FailsWithData (next value)) : FailsWithData (first >>= next) := by
  intro fault failed
  rcases bind_eq_error_iff.1 failed with failed | ⟨middle, _, failed⟩
  · exact firstFails fault failed
  · exact nextFails middle fault failed

theorem failsWithData_ok {α : Type} (value : α) :
    FailsWithData (.ok value : Except Failure α) := by
  intro fault failed
  cases failed

theorem failsWithData_error {α : Type} (cause : DataFault) :
    FailsWithData (.error (.data cause) : Except Failure α) := by
  intro fault failed
  cases failed
  exact ⟨cause, rfl⟩

theorem failsWithData_readChunk (data : List UInt8) : FailsWithData (readChunk data) := by
  apply FailsWithData.bind
  · unfold readLength
    split
    · exact failsWithData_ok _
    · exact failsWithData_error _
  · intro (length, rest)
    dsimp only
    split
    · exact failsWithData_ok _
    · exact failsWithData_error _

theorem failsWithData_readField (data : List UInt8) : FailsWithData (readField data) := by
  apply (failsWithData_readChunk data).bind
  intro (bytes, rest)
  apply FailsWithData.bind
  · unfold nameOfBytes
    split
    · exact failsWithData_ok _
    · exact failsWithData_error _
  · intro name
    exact (failsWithData_readChunk rest).bind fun _ => failsWithData_ok _

theorem failsWithData_decodeRow (data : List UInt8) : FailsWithData (decodeRow data) := by
  fun_induction decodeRow data with
  | case1 => exact failsWithData_ok _
  | case2 data _ fault taken =>
    intro _ failed
    cases failed
    exact failsWithData_readField data fault taken
  | case3 _ _ _ _ _ fault restFails inductionHypothesis => exact restFails ▸ inductionHypothesis
  | case4 => exact failsWithData_ok _

/-! ## The format -/

/-- **One spelling for each row.**  Data decode to a row exactly if the row encodes to them.
Encoding fails exactly for rows with a name or value that is too long, and decoding ends with a
data fault exactly on data that no row encodes to. -/
theorem single_decode_iff_encode :
    (∀ row data,
      Format.single.decode data = .ok row ↔ Format.single.encode row = .ok data) ∧
    (∀ row : Row, (∃ fault, Format.single.encode row = .error fault) ↔
      ∃ field ∈ row,
        lengthBound ≤ (Text.bytesOf field.name).length ∨ lengthBound ≤ field.value.length) ∧
    (∀ data, (∃ cause, Format.single.decode data = .error (.data cause)) ↔
      ∀ row, Format.single.encode row ≠ .ok data) := by
  refine ⟨fun row data => decodeRow_eq_ok_iff, fun row => ?_, fun data => ?_⟩
  · show (∃ fault, encodeRow row = .error fault) ↔ _
    rw [← Row.exists_tooLong?_iff]
    simp only [encodeRow_eq_error_iff]
    exact ⟨fun ⟨_, length, found, _⟩ => ⟨length, found⟩,
      fun ⟨length, found⟩ => ⟨_, length, found, rfl⟩⟩
  · show (∃ cause, decodeRow data = .error (.data cause)) ↔ ∀ row, encodeRow row ≠ .ok data
    simp only [ne_eq, ← decodeRow_eq_ok_iff]
    constructor
    · rintro ⟨cause, failed⟩ row decoded
      rw [failed] at decoded
      cases decoded
    · intro undecodable
      cases result : decodeRow data with
      | ok row => exact (undecodable row result).elim
      | error fault =>
        obtain ⟨cause, rfl⟩ := failsWithData_decodeRow data fault result
        exact ⟨cause, rfl⟩

end StoreBench.Store
