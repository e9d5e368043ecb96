import Mathlib.Algebra.Order.Ring.Nat
import StoreBench.Latency.Distribution

/-!
Contract: the ranks that percentiles ask for.

A rank is the product of a share and a count, rounded like a product of doubles and then to the
next whole number.  Rounding keeps the order of numbers, and does not cross a number that the
doubles around reach exactly; so a greater share never asks for a smaller rank, and a share that
is far enough below one asks for a rank among those that exist.

Owns:
- that `roundDiv` and `nearestDouble` keep the order, and the numbers that `nearestDouble` keeps;
- the ranks of the percentiles that reports show.

Does not own: the latencies that the ranks lead to.
-/

namespace StoreBench

/-! ## Rounding -/

namespace Decimal

section
variable (tie : Tie) (numerator divisor : Nat)

theorem div_le_roundDiv : numerator / divisor ≤ roundDiv tie numerator divisor := by
  simp only [roundDiv]
  split
  · exact Nat.le_succ _
  · exact Nat.le_refl _

theorem roundDiv_le_succ_div : roundDiv tie numerator divisor ≤ numerator / divisor + 1 := by
  simp only [roundDiv]
  split
  · exact Nat.le_refl _
  · exact Nat.le_succ _

end

variable {tie : Tie} {first second divisor : Nat}

/-- What is rounded up stays so when more is left over. -/
theorem roundsUp_mono {quotient : Nat} (ordered : first ≤ second)
    (up : roundsUp tie quotient first divisor = true) :
    roundsUp tie quotient second divisor = true := by
  unfold roundsUp at up ⊢
  grind

theorem roundDiv_mono (ordered : first ≤ second) :
    roundDiv tie first divisor ≤ roundDiv tie second divisor := by
  have quotients : first / divisor ≤ second / divisor := Nat.div_le_div_right ordered
  rcases Nat.lt_or_eq_of_le quotients with further | same
  · calc roundDiv tie first divisor
        ≤ first / divisor + 1 := roundDiv_le_succ_div ..
      _ ≤ second / divisor := further
      _ ≤ roundDiv tie second divisor := div_le_roundDiv ..
  · have remainders : first % divisor ≤ second % divisor := by
      have parts := Nat.div_add_mod first divisor
      have others := Nat.div_add_mod second divisor
      rw [same] at parts
      omega
    simp only [roundDiv, same]
    split
    · next up => rw [if_pos (roundsUp_mono remainders up)]
    · split
      · exact Nat.le_succ _
      · exact Nat.le_refl _

/-- An exact quotient is not rounded. -/
theorem roundDiv_mul (positive : 0 < divisor) (quotient : Nat) :
    roundDiv tie (quotient * divisor) divisor = quotient := by
  have down : roundsUp tie quotient 0 divisor = false := by
    simp [roundsUp, positive]
  simp [roundDiv, Nat.mul_div_cancel _ positive, down]

/-! ## Doubles -/

theorem spacing_pos (number : Nat) : 0 < spacing number := Nat.pow_pos (by decide)

variable {number reached : Nat}

/-- The doubles around a number reach the multiples of a power of two that is large enough. -/
theorem spacing_dvd {places : Nat} (short : number < 2 ^ (53 + places)) (factor : Nat) :
    spacing number ∣ factor * 2 ^ places := by
  apply Nat.dvd_mul_left_of_dvd
  apply Nat.pow_dvd_pow
  by_cases nothing : number = 0
  · subst nothing
    exact Nat.zero_le _
  · have bits := (Nat.log2_lt nothing).2 short
    omega

/-- Rounding does not cross a number that the doubles around reach, from above. -/
theorem le_nearestDouble (reaches : spacing number ∣ reached) (ordered : reached ≤ number) :
    reached ≤ nearestDouble number := by
  obtain ⟨factor, rfl⟩ := reaches
  rw [Nat.mul_comm] at ordered ⊢
  apply Nat.mul_le_mul_right
  calc factor
      ≤ number / spacing number := (Nat.le_div_iff_mul_le (spacing_pos number)).2 ordered
    _ ≤ roundDiv .toEven number (spacing number) := div_le_roundDiv ..

/-- Nor does it from below. -/
theorem nearestDouble_le (reaches : spacing number ∣ reached) (ordered : number ≤ reached) :
    nearestDouble number ≤ reached := by
  obtain ⟨factor, rfl⟩ := reaches
  rw [Nat.mul_comm] at ordered ⊢
  apply Nat.mul_le_mul_right
  calc roundDiv .toEven number (spacing number)
      ≤ roundDiv .toEven (factor * spacing number) (spacing number) := roundDiv_mono ordered
    _ = factor := roundDiv_mul (spacing_pos number) factor

theorem nearestDouble_mono (ordered : first ≤ second) :
    nearestDouble first ≤ nearestDouble second := by
  by_cases nothing : first = 0
  · subst nothing
    exact Nat.zero_le _
  have something : second ≠ 0 := by omega
  have bits : first.log2 ≤ second.log2 :=
    (Nat.le_log2 something).2 (Nat.le_trans (Nat.log2_self_le nothing) ordered)
  rcases Nat.lt_or_eq_of_le bits with longer | same
  · -- a power of two lies between the two numbers, and the doubles around either reach it
    have below : spacing first ∣ 2 ^ second.log2 := Nat.pow_dvd_pow 2 (by omega)
    have above : spacing second ∣ 2 ^ second.log2 := Nat.pow_dvd_pow 2 (by omega)
    calc nearestDouble first
        ≤ 2 ^ second.log2 :=
          nearestDouble_le below (Nat.le_of_lt ((Nat.log2_lt nothing).1 longer))
      _ ≤ nearestDouble second := le_nearestDouble above (Nat.log2_self_le something)
  · have spacings : spacing first = spacing second := by rw [spacing, spacing, same]
    rw [nearestDouble, nearestDouble, spacings]
    exact Nat.mul_le_mul_right _ (roundDiv_mono ordered)

theorem ceiling_mono (exponent : Int) (ordered : first ≤ second) :
    ceiling first exponent ≤ ceiling second exponent :=
  Nat.div_le_div_right (Nat.add_le_add_right (Nat.mul_le_mul_right _ ordered) _)

end Decimal

/-! ## The reported ranks -/

namespace Latency.Distribution

open Decimal

/-- The rank for the share `significand · 2 ^ exponent`. -/
def rankAt (count : Nat) (exponent : Int) (significand : Nat) : Nat :=
  max 1 (min greatestRank (ceiling (nearestDouble (significand * nearestDouble count)) exponent))

theorem rankOf_eq_rankAt {share : Float} {significand : Nat} {exponent : Int}
    (reads : Binary64.ofFloat share = .finite false significand exponent) (count : Nat) :
    rankOf share count = rankAt count exponent significand := by
  simp only [rankOf, reads, rankAt]

theorem rankAt_mono (count : Nat) (exponent : Int) {lower higher : Nat} (ordered : lower ≤ higher) :
    rankAt count exponent lower ≤ rankAt count exponent higher := by
  have products := nearestDouble_mono (Nat.mul_le_mul_right (nearestDouble count) ordered)
  have ceilings := ceiling_mono exponent products
  simp only [rankAt]
  omega

/-- Counts of up to 53 bits are doubles. -/
theorem nearestDouble_of_lt {count : Nat} (short : count < 2 ^ 53) :
    nearestDouble count = count := by
  by_cases nothing : count = 0
  · subst nothing
    rfl
  · have bits := (Nat.log2_lt nothing).2 short
    have unit : spacing count = 1 := by
      rw [spacing, Nat.sub_eq_zero_of_le (by omega)]
    simpa [nearestDouble, unit] using @roundDiv_mul .toEven 1 Nat.one_pos count

/-- Rounding takes a number with `52 + places` bits at most `2 ^ places` beyond a multiple of
`2 ^ places` that it does not exceed, and leaves its length. -/
theorem nearestDouble_bounds {count places : Nat} (length : count.log2 = 52 + places) :
    nearestDouble count ≤ (count / 2 ^ places + 1) * 2 ^ places ∧
      nearestDouble count ≤ 2 ^ (53 + places) := by
  have unit : spacing count = 2 ^ places := by
    rw [spacing, length, Nat.add_sub_cancel_left]
    rfl
  constructor
  · rw [nearestDouble, unit]
    exact Nat.mul_le_mul_right _ (roundDiv_le_succ_div ..)
  · apply nearestDouble_le
    · rw [unit]
      exact Nat.pow_dvd_pow 2 (Nat.le_add_left ..)
    · have short : count < 2 ^ (count.log2 + 1) := Nat.lt_log2_self
      rw [length, Nat.add_right_comm] at short
      exact Nat.le_of_lt short

/-- A share that is below one by at least the spacing of the doubles beyond one asks for no rank
beyond the last: also where the count is no double and is rounded up. -/
theorem product_le {count significand : Nat} (below : significand * (2 ^ 52 + 1) ≤ 2 ^ 105) :
    nearestDouble (significand * nearestDouble count) ≤ count * 2 ^ 53 := by
  have small : significand < 2 ^ 53 := by omega
  rcases Nat.lt_or_ge count (2 ^ 53) with short | long
  · rw [nearestDouble_of_lt short]
    have product : significand * count < 2 ^ (53 + 53) := by
      rw [Nat.pow_add]
      exact Nat.mul_lt_mul'' small short
    apply nearestDouble_le (spacing_dvd product count)
    rw [Nat.mul_comm]
    exact Nat.mul_le_mul_left count (Nat.le_of_lt small)
  · -- the greatest multiple of the spacing that is not beyond the count bounds the product
    have something : count ≠ 0 := by omega
    have bits : 53 ≤ count.log2 := (Nat.le_log2 something).2 long
    obtain ⟨places, length⟩ : ∃ places, count.log2 = 52 + places := ⟨count.log2 - 52, by omega⟩
    obtain ⟨rounded, above⟩ := nearestDouble_bounds length
    have many : 2 ^ 52 ≤ count / 2 ^ places := by
      rw [Nat.le_div_iff_mul_le (Nat.two_pow_pos places), ← Nat.pow_add, ← length]
      exact Nat.log2_self_le something
    have factors : significand * (count / 2 ^ places + 1) ≤ count / 2 ^ places * 2 ^ 53 := by
      obtain ⟨more, parts⟩ := Nat.exists_eq_add_of_le many
      calc significand * (count / 2 ^ places + 1)
          = significand * (2 ^ 52 + 1) + significand * more := by
            rw [parts, Nat.add_right_comm, Nat.mul_add]
        _ ≤ 2 ^ 105 + 2 ^ 53 * more :=
            Nat.add_le_add below (Nat.mul_le_mul_right more (Nat.le_of_lt small))
        _ = count / 2 ^ places * 2 ^ 53 := by
            rw [parts, Nat.add_mul, Nat.mul_comm more, ← Nat.pow_add]
    have product : significand * nearestDouble count < 2 ^ (53 + (53 + places)) := by
      rw [Nat.pow_add 2 53 (53 + places)]
      exact Nat.mul_lt_mul_of_lt_of_le small above (Nat.two_pow_pos _)
    calc nearestDouble (significand * nearestDouble count)
        ≤ count / 2 ^ places * 2 ^ (53 + places) := by
          apply nearestDouble_le (spacing_dvd product _)
          calc significand * nearestDouble count
              ≤ significand * ((count / 2 ^ places + 1) * 2 ^ places) :=
                Nat.mul_le_mul_left _ rounded
            _ = significand * (count / 2 ^ places + 1) * 2 ^ places := (Nat.mul_assoc ..).symm
            _ ≤ count / 2 ^ places * 2 ^ 53 * 2 ^ places := Nat.mul_le_mul_right _ factors
            _ = count / 2 ^ places * 2 ^ (53 + places) := by rw [Nat.pow_add, Nat.mul_assoc]
      _ = count / 2 ^ places * 2 ^ places * 2 ^ 53 := by
          rw [Nat.pow_add, Nat.mul_comm (2 ^ 53), Nat.mul_assoc]
      _ ≤ count * 2 ^ 53 := Nat.mul_le_mul_right _ (Nat.div_mul_le_self ..)

theorem rankAt_le {count significand : Nat} (below : significand * (2 ^ 52 + 1) ≤ 2 ^ 105)
    (present : 1 ≤ count) : rankAt count (-53) significand ≤ count := by
  have ceiling : ceiling (nearestDouble (significand * nearestDouble count)) (-53) ≤ count := by
    have product : nearestDouble (significand * nearestDouble count) ≤ count * 2 ^ 53 :=
      product_le below
    have divisor : powerOf 2 (-(-53)) = 2 ^ 53 := rfl
    have factor : powerOf 2 (-53) = 1 := rfl
    simp only [Decimal.ceiling, divisor, factor, Nat.mul_one]
    omega
  rw [rankAt]
  omega

/-- The significands of the reported shares. -/
def reportedSignificands : List Nat :=
  [8106479329266893, 8917127262193582, 8998192055486252, 9006298534815517]

theorem shares_reported :
    reportedPercentiles.map (fun percentile => Binary64.ofFloat (shareOf percentile)) =
      reportedSignificands.map (.finite false · (-53)) := by
  decide +kernel

/-- The ranks that the reported percentiles ask for. -/
def reportedRanks (count : Nat) : List Nat :=
  reportedPercentiles.map fun percentile => rankOf (shareOf percentile) count

theorem reportedRanks_eq (count : Nat) :
    reportedRanks count = reportedSignificands.map (rankAt count (-53)) := by
  have shares := shares_reported
  simp only [reportedPercentiles, reportedSignificands, List.map_cons, List.map_nil,
    List.cons.injEq, and_true] at shares
  obtain ⟨first, second, third, fourth⟩ := shares
  simp only [reportedRanks, reportedPercentiles, reportedSignificands, List.map_cons, List.map_nil,
    rankOf_eq_rankAt first, rankOf_eq_rankAt second, rankOf_eq_rankAt third,
    rankOf_eq_rankAt fourth]

theorem reportedRanks_sorted (count : Nat) : (reportedRanks count).Pairwise (· ≤ ·) := by
  have significands : reportedSignificands.Pairwise (· ≤ ·) := by decide
  rw [reportedRanks_eq]
  exact significands.map _ fun _ _ => rankAt_mono count (-53)

theorem reportedRanks_bounds {count rank : Nat} (present : 1 ≤ count)
    (reported : rank ∈ reportedRanks count) : 1 ≤ rank ∧ rank ≤ count := by
  have significands : ∀ significand ∈ reportedSignificands,
      significand * (2 ^ 52 + 1) ≤ 2 ^ 105 := by decide
  rw [reportedRanks_eq] at reported
  obtain ⟨significand, listed, rfl⟩ := List.mem_map.1 reported
  exact ⟨Nat.le_max_left .., rankAt_le (significands significand listed) present⟩

end Latency.Distribution

end StoreBench
