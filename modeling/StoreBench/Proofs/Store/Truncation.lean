import StoreBench.Proofs.Store.RowFormat

/-!
Contract: rows whose bytes are cut off or continued.

A field announces the lengths of its parts, so its bytes end where they say, whatever follows.
Reading a written row therefore leaves off exactly behind it, and goes on with what follows as if
that stood alone.  So a cut between two fields leaves the fields in front of it, and any other cut
is noticed.

Owns: the decoding of written rows with something behind them, and of their beginnings.
-/

namespace StoreBench.Store

/-- Behind the bytes of a row decoding goes on as if they had not been there. -/
theorem decodeRow_append_of_encodeRow {row : Row} {written : List UInt8}
    (wrote : encodeRow row = .ok written) (rest : List UInt8) :
    decodeRow (written ++ rest) = (decodeRow rest).map (row ++ ·) := by
  induction row generalizing written with
  | nil =>
    cases wrote
    rw [List.nil_append]
    cases decodeRow rest <;> rfl
  | cons field row inductionHypothesis =>
    simp only [encodeRow, bind_eq_ok_iff] at wrote
    obtain ⟨first, wroteField, others, wroteOthers, same⟩ := wrote
    cases same
    have present : first ++ others ++ rest ≠ [] := by
      simp [ne_nil_of_encodeField wroteField]
    have fieldRead : readField (first ++ others ++ rest) = .ok (field, others ++ rest) :=
      (readsBack_field _ _ _).2 ⟨first, wroteField, List.append_assoc _ _ _⟩
    rw [decodeRow_of_ne_nil present, fieldRead]
    show (decodeRow (others ++ rest) >>= fun row => pure (field :: row)) = _
    rw [inductionHypothesis wroteOthers]
    cases decodeRow rest <;> rfl

theorem decodeRow_append {data : List UInt8} {row : Row} (decoded : decodeRow data = .ok row)
    (more : List UInt8) : decodeRow (data ++ more) = (decodeRow more).map (row ++ ·) :=
  decodeRow_append_of_encodeRow (decodeRow_eq_ok_iff.1 decoded) more

/-- The bytes of a row begin with those of its first fields. -/
theorem exists_encodeRow_of_append {part others : Row} {data : List UInt8}
    (wrote : encodeRow (part ++ others) = .ok data) :
    ∃ written rest, encodeRow part = .ok written ∧ data = written ++ rest := by
  induction part generalizing data with
  | nil => exact ⟨[], data, rfl, rfl⟩
  | cons field part inductionHypothesis =>
    simp only [List.cons_append, encodeRow, bind_eq_ok_iff] at wrote
    obtain ⟨first, wroteField, others, wroteOthers, same⟩ := wrote
    cases same
    obtain ⟨written, rest, wrotePart, rfl⟩ := inductionHypothesis wroteOthers
    refine ⟨first ++ written, rest, ?_, (List.append_assoc _ _ _).symm⟩
    rw [encodeRow, wroteField, wrotePart]
    rfl

/-- What is left of a row after a cut decodes exactly if the cut is behind its first fields, and
then to these. -/
theorem decodeRow_take_iff {row part : Row} {data : List UInt8} {length : Nat}
    (wrote : encodeRow row = .ok data) (inside : length ≤ data.length) :
    decodeRow (data.take length) = .ok part ↔
      part <+: row ∧ ∃ written, encodeRow part = .ok written ∧ written.length = length := by
  constructor
  · intro decoded
    refine ⟨?_, data.take length, decodeRow_eq_ok_iff.1 decoded, List.length_take_of_le inside⟩
    have whole := decodeRow_append decoded (data.drop length)
    rw [List.take_append_drop, decodeRow_eq_ok_iff.2 wrote] at whole
    cases rest : decodeRow (data.drop length) with
    | error fault =>
      rw [rest] at whole
      cases whole
    | ok others =>
      rw [rest] at whole
      exact ⟨others, (Except.ok.inj whole).symm⟩
  · rintro ⟨⟨others, rfl⟩, written, wrotePart, rfl⟩
    obtain ⟨first, rest, wroteFirst, rfl⟩ := exists_encodeRow_of_append wrote
    cases wrotePart.symm.trans wroteFirst
    rw [List.take_left]
    exact decodeRow_eq_ok_iff.2 wrotePart

/-- **A cut is noticed, or falls between two fields.**  Of the bytes of a row, the first so many
decode exactly if they are the bytes of its first fields, and then to these fields; otherwise
decoding ends with a data fault.  Moreover, behind data that decode, further data are decoded as if
they stood alone: their fields follow, or their fault is reported. -/
theorem cut_decodes_iff_on_boundary :
    (∀ row data, Format.single.encode row = .ok data → ∀ length ≤ data.length,
      (∀ part, Format.single.decode (data.take length) = .ok part ↔
        part <+: row ∧
          ∃ written, Format.single.encode part = .ok written ∧ written.length = length) ∧
      ((∀ part written, part <+: row → Format.single.encode part = .ok written →
          written.length ≠ length) →
        ∃ cause, Format.single.decode (data.take length) = .error (.data cause))) ∧
    (∀ data row, Format.single.decode data = .ok row → ∀ more,
      Format.single.decode (data ++ more) =
        (Format.single.decode more).map fun others => row ++ others) := by
  refine ⟨fun row data wrote length inside => ⟨fun part => decodeRow_take_iff wrote inside, ?_⟩,
    fun data row decoded more => decodeRow_append decoded more⟩
  intro offBoundary
  show ∃ cause, decodeRow (data.take length) = .error (.data cause)
  cases result : decodeRow (data.take length) with
  | ok part =>
    obtain ⟨begins, written, wrotePart, cut⟩ := (decodeRow_take_iff wrote inside).1 result
    exact absurd cut (offBoundary part written begins wrotePart)
  | error fault =>
    obtain ⟨cause, rfl⟩ := failsWithData_decodeRow _ fault result
    exact ⟨cause, rfl⟩

/-- Two fields of ten and eleven bytes: the first is left behind its ten bytes, and nothing is left
of them if the last byte is missing. -/
theorem cut_decodes_iff_on_boundary_of_two_fields :
    let row : Row := [⟨"a", [7]⟩, ⟨"b", [8, 9]⟩]
    let data : List UInt8 := [1, 0, 0, 0, 97, 1, 0, 0, 0, 7, 1, 0, 0, 0, 98, 2, 0, 0, 0, 8, 9]
    Format.single.encode row = .ok data ∧
      Format.single.decode (data.take 10) = .ok [⟨"a", [7]⟩] ∧
      (∃ cause, Format.single.decode (data.take 20) = .error (.data cause)) ∧
      Format.single.decode (data ++ data.take 2) = .error (.data .truncatedLength) := by
  intro row data
  have wrote : Format.single.encode row = .ok data := rfl
  have wroteFirst : Format.single.encode [⟨"a", [7]⟩] = .ok (data.take 10) := rfl
  obtain ⟨cuts, continues⟩ := cut_decodes_iff_on_boundary
  refine ⟨wrote, ?_, ?_, ?_⟩
  · exact ((cuts row data wrote 10 (by decide)).1 _).2 ⟨⟨[⟨"b", [8, 9]⟩], rfl⟩, _, wroteFirst, rfl⟩
  · refine (cuts row data wrote 20 (by decide)).2 fun part written begins wrotePart => ?_
    simp only [row, List.prefix_cons_iff, List.prefix_nil] at begins
    rcases begins with rfl | ⟨_, rfl, rfl | ⟨_, rfl, rfl⟩⟩
    · cases wrotePart
      decide
    · cases wroteFirst.symm.trans wrotePart
      decide
    · cases wrote.symm.trans wrotePart
      decide
  · have cutOff : Format.single.decode (data.take 2) = .error (.data .truncatedLength) := by
      show decodeRow (data.take 2) = _
      rw [decodeRow_of_ne_nil (by decide)]
      rfl
    rw [continues data row (decodeRow_eq_ok_iff.2 wrote), cutOff]
    rfl

end StoreBench.Store
