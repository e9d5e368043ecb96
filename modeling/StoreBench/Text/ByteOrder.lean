/-!
Contract: the order of texts is the order of their UTF-8 bytes.

The lead byte of a longer encoding is greater than that of a shorter one, and encodings of the
same length write the number of their character with the most significant bits first.

Owns: the comparison of encoded characters and of encoded texts.
-/

namespace StoreBench.Text

/-- The UTF-8 bytes of a text. -/
def bytesOf (text : String) : List UInt8 := text.toUTF8.data.toList

/-- Behind an earlier character everything comes earlier. -/
theorem encode_append_lt {first second : Char} (before : first < second)
    (rest others : List UInt8) :
    String.utf8EncodeChar first ++ rest < String.utf8EncodeChar second ++ others := by
  have ordered : first.val.toNat < second.val.toNat := before
  have valid : second.val.toNat < 1114112 := by
    rcases second.valid with low | high
    · exact Nat.lt_trans low (by decide)
    · exact high.2
  have following (bits : Nat) : (bits % 64 + 128) % 256 = bits % 64 + 128 := by omega
  have ofTwo (bits : Nat) : (bits % 32 + 192) % 256 = bits % 32 + 192 := by omega
  have ofThree (bits : Nat) : (bits % 16 + 224) % 256 = bits % 16 + 224 := by omega
  have ofFour (bits : Nat) : (bits % 8 + 240) % 256 = bits % 8 + 240 := by omega
  have lead := Nat.div_le_div_right (c := 262144) (Nat.le_of_lt ordered)
  have middle := Nat.div_le_div_right (c := 4096) (Nat.le_of_lt ordered)
  have last := Nat.div_le_div_right (c := 64) (Nat.le_of_lt ordered)
  unfold String.utf8EncodeChar
  simp only
  repeat' split
  all_goals try omega
  all_goals
    simp only [List.cons_append, List.nil_append, List.cons_lt_cons_iff, UInt8.lt_iff_toNat_lt,
      ← UInt8.toNat_inj, UInt8.toNat_ofNat', Nat.reducePow, following, ofTwo, ofThree, ofFour]
  all_goals try omega
  rcases Nat.lt_or_eq_of_le lead with lead | lead
  · omega
  · refine .inr ⟨by rw [lead], ?_⟩
    rcases Nat.lt_or_eq_of_le middle with middle | middle
    · omega
    · refine .inr ⟨by rw [middle], ?_⟩
      rcases Nat.lt_or_eq_of_le last with last | last <;> omega

/-- The encoding of a character has a first byte. -/
theorem encode_ne_nil (letter : Char) : String.utf8EncodeChar letter ≠ [] := by
  unfold String.utf8EncodeChar
  simp only
  repeat' split
  all_goals simp

/-- Encodings keep the order of characters one after the other. -/
theorem encodeAll_lt : ∀ {first second : List Char}, first < second →
    first.flatMap String.utf8EncodeChar < second.flatMap String.utf8EncodeChar
  | _, [], before => (List.not_lt_nil _ before).elim
  | [], letter :: rest, _ => by
      obtain ⟨byte, bytes, encoded⟩ := List.exists_cons_of_ne_nil (encode_ne_nil letter)
      simp [encoded, List.nil_lt_cons]
  | letter :: rest, other :: others, before => by
      rw [List.flatMap_cons, List.flatMap_cons]
      rcases List.cons_lt_cons_iff.1 before with earlier | ⟨rfl, later⟩
      · exact encode_append_lt earlier _ _
      · exact List.append_left_lt (encodeAll_lt later)

/-- The bytes of a text are those of its characters. -/
theorem bytesOf_eq (text : String) :
    bytesOf text = text.toList.flatMap String.utf8EncodeChar := by
  simp [bytesOf, String.toUTF8, ← String.utf8Encode_toList, List.utf8Encode]

/-- Texts compare like their bytes. -/
theorem lt_iff_bytes_lt (first second : String) :
    first < second ↔ bytesOf first < bytesOf second := by
  rw [bytesOf_eq, bytesOf_eq, String.lt_iff]
  refine ⟨encodeAll_lt, fun before => ?_⟩
  rcases Decidable.em (first.toList < second.toList) with found | missing
  · exact found
  · rcases Decidable.em (second.toList < first.toList) with found | absent
    · exact (List.lt_asymm before (encodeAll_lt found)).elim
    · rw [List.le_antisymm (List.not_lt.1 absent) (List.not_lt.1 missing)] at before
      exact (List.lt_irrefl _ before).elim

end StoreBench.Text
