import Mathlib.Data.List.Range
import Mathlib.Data.List.Nodup
import StoreBench.Keys.Pool
import StoreBench.Keys.Text
import StoreBench.Proofs.Text.Digits

/-!
Contract: keys, their texts and the ranges they are drawn from.

Owns:
- that different numbers have different keys, of whatever width;
- the members of a range of keys.

Does not own: the order in which keys are drawn.
-/

namespace StoreBench.Keys

/-! ## Texts -/

/-- Different numbers have different keys, also beyond the width up to which keys are padded. -/
theorem recordKey_injective : Function.Injective recordKey := by
  intro first second same
  have texts := congrArg String.toList same
  rw [recordKey, recordKey, String.toList_append, String.toList_append] at texts
  have digits := List.append_cancel_left texts
  rw [String.toList_ofList, String.toList_ofList] at digits
  have numbers := congrArg (fun text => Nat.ofDigitChars 10 text 0) digits
  simp only [Text.ofDigitChars_leftpad] at numbers
  exact UInt64.toNat_inj.1 numbers

/-! ## Ranges -/

section
variable {start count : UInt64}

theorem toList_keyRange (start count : UInt64) :
    (keyRange start count).toList =
      (List.range count.toNat).map fun offset => start + offset.toUInt64 := by
  rw [keyRange, Array.toList_map, Array.toList_range]

theorem length_keyRange (start count : UInt64) :
    (keyRange start count).toList.length = count.toNat := by
  rw [toList_keyRange, List.length_map, List.length_range]

/-- Numbers behind the first key of a range, as long as they all have 64 bits. -/
theorem toNat_add_offset (fits : start.toNat + count.toNat < UInt64.size) {offset : Nat}
    (inside : offset < count.toNat) : (start + offset.toUInt64).toNat = start.toNat + offset := by
  have below : offset < UInt64.size := Nat.lt_trans inside count.toNat_lt
  have small : offset.toUInt64.toNat = offset := Nat.mod_eq_of_lt below
  rw [UInt64.toNat_add, small]
  exact Nat.mod_eq_of_lt (Nat.lt_trans (Nat.add_lt_add_left inside _) fits)

theorem nodup_keyRange (fits : start.toNat + count.toNat < UInt64.size) :
    (keyRange start count).toList.Nodup := by
  rw [toList_keyRange]
  apply List.Nodup.map_on _ List.nodup_range
  intro first firstInside second secondInside same
  have numbers := congrArg UInt64.toNat same
  rw [toNat_add_offset fits (List.mem_range.1 firstInside),
    toNat_add_offset fits (List.mem_range.1 secondInside)] at numbers
  omega

theorem mem_keyRange (fits : start.toNat + count.toNat < UInt64.size) {key : UInt64}
    (member : key ∈ (keyRange start count).toList) :
    start.toNat ≤ key.toNat ∧ key.toNat < start.toNat + count.toNat := by
  rw [toList_keyRange] at member
  obtain ⟨offset, inside, rfl⟩ := List.mem_map.1 member
  have number := toNat_add_offset fits (List.mem_range.1 inside)
  have below := List.mem_range.1 inside
  omega

theorem mem_keyRange_iff (fits : start.toNat + count.toNat < UInt64.size) {key : UInt64} :
    key ∈ (keyRange start count).toList ↔
      start.toNat ≤ key.toNat ∧ key.toNat < start.toNat + count.toNat := by
  refine ⟨mem_keyRange fits, fun ⟨behind, below⟩ => ?_⟩
  have inside : key.toNat - start.toNat < count.toNat := by omega
  rw [toList_keyRange]
  refine List.mem_map.2 ⟨key.toNat - start.toNat, List.mem_range.2 inside, ?_⟩
  apply UInt64.toNat_inj.1
  rw [toNat_add_offset fits inside]
  omega

/-- A range and the one behind it have no key in common. -/
theorem nodup_ranges {more : UInt64} (fits : count.toNat + more.toNat < UInt64.size) :
    ((keyRange 0 count).toList ++ (keyRange count more).toList).Nodup := by
  have fitsFirst : (0 : UInt64).toNat + count.toNat < UInt64.size := by
    rw [UInt64.toNat_zero, Nat.zero_add]
    exact count.toNat_lt
  refine (nodup_keyRange fitsFirst).append (nodup_keyRange fits) ?_
  intro key inFirst inSecond
  have below := (mem_keyRange fitsFirst inFirst).2
  have behind := (mem_keyRange fits inSecond).1
  rw [UInt64.toNat_zero] at below
  omega

end

end StoreBench.Keys
