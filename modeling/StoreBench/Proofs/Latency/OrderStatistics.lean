import Mathlib.Algebra.Order.Ring.Nat
import StoreBench.Proofs.Latency.OrderIndependence
import StoreBench.Proofs.Latency.Ranks

/-!
Contract: percentiles are order statistics, up to the width of a precision class.

Counting keeps the classes in increasing order, each with as many latencies as fell into it.  Read
out, they are therefore the classes of the sorted latencies, and a search that adds up counts until
it reaches a rank ends at the class of the latency of that rank.

Owns:
- the classes: that they keep the order of latencies, and how close the highest latency of a class
  is to the others in it;
- `occurrences`, the classes with each written as often as it counts;
- `samples`, the sorted latencies as they are counted;
- the answers for ranks and the reported percentiles after every history.

Does not own: the rank that a percentile asks for, which is in `Ranks`.
-/

namespace StoreBench.Latency

/-! ## Classes -/

section
variable (latency : Nat)

theorem lt_two_pow_bitLength : latency < 2 ^ bitLength latency := by
  rw [bitLength]
  split
  · omega
  · exact Nat.lt_log2_self

theorem bitLength_mono {latency later : Nat} (ordered : latency ≤ later) :
    bitLength latency ≤ bitLength later := by
  simp only [bitLength]
  by_cases nothing : latency = 0
  · rw [if_pos nothing]
    exact Nat.zero_le _
  · have bits : latency.log2 ≤ later.log2 :=
      (Nat.le_log2 (by omega)).2 (Nat.le_trans (Nat.log2_self_le nothing) ordered)
    rw [if_neg nothing, if_neg (by omega)]
    omega

theorem classWidth_pos : 0 < classWidth latency := Nat.two_pow_pos _

/-- No more than eleven bits of a latency tell its class apart from others of the same width. -/
theorem div_classWidth_lt : latency / classWidth latency < 2048 := by
  rw [Nat.div_lt_iff_lt_mul (classWidth_pos latency)]
  calc latency
      < 2 ^ bitLength latency := lt_two_pow_bitLength latency
    _ ≤ 2 ^ (11 + (bitLength latency - 11)) := Nat.pow_le_pow_right (by decide) (by omega)
    _ = 2048 * classWidth latency := Nat.pow_add ..

/-- All of the eleven are needed where latencies share a class. -/
theorem le_div_classWidth {latency : Nat} (wide : classWidth latency ≠ 1) :
    1024 ≤ latency / classWidth latency := by
  have bits : 11 < bitLength latency := by
    apply Nat.lt_of_not_le
    intro short
    have none : bitLength latency - keptBits = 0 := Nat.sub_eq_zero_of_le short
    exact wide (congrArg (Nat.pow 2) none)
  have something : latency ≠ 0 := by
    rintro rfl
    exact absurd bits (by decide)
  rw [bitLength, if_neg something] at bits
  rw [Nat.le_div_iff_mul_le (classWidth_pos latency)]
  calc 1024 * classWidth latency
      = 2 ^ 10 * 2 ^ (bitLength latency - 11) := rfl
    _ = 2 ^ (10 + (bitLength latency - 11)) := (Nat.pow_add ..).symm
    _ = 2 ^ latency.log2 := by
        rw [bitLength, if_neg something]
        congr 1
        omega
    _ ≤ latency := Nat.log2_self_le something

theorem classLowest_le : classLowest latency ≤ latency := Nat.div_mul_le_self ..

theorem le_classHighest : latency ≤ classHighest latency := by
  have width := classWidth_pos latency
  have below := Nat.lt_div_mul_add width (a := latency)
  simp only [classHighest, classLowest]
  omega

theorem classHighest_lt : classHighest latency < 2048 * classWidth latency := by
  have width := classWidth_pos latency
  have few : (latency / classWidth latency + 1) * classWidth latency ≤ 2048 * classWidth latency :=
    Nat.mul_le_mul_right _ (div_classWidth_lt latency)
  rw [Nat.add_mul] at few
  simp only [classHighest, classLowest]
  omega

theorem le_classLowest {latency : Nat} (wide : classWidth latency ≠ 1) :
    1024 * classWidth latency ≤ classLowest latency :=
  Nat.mul_le_mul_right _ (le_div_classWidth wide)

end

section
variable {latency later : Nat}

/-- Towards later latencies classes stay as wide as they are, or become at least twice as wide. -/
theorem classWidth_doubles (ordered : latency ≤ later) :
    classWidth latency = classWidth later ∨ 2 * classWidth latency ≤ classWidth later := by
  have bits := bitLength_mono ordered
  rcases Nat.lt_or_eq_of_le (Nat.sub_le_sub_right bits keptBits) with more | same
  · right
    calc 2 * classWidth latency
        = 2 ^ (bitLength latency - keptBits + 1) := (Nat.pow_succ' ..).symm
      _ ≤ classWidth later := Nat.pow_le_pow_right (by decide) more
  · left
    rw [classWidth, classWidth, same]

/-- A wider class begins behind the end of every narrower one. -/
theorem classHighest_lt_classLowest (wider : 2 * classWidth latency ≤ classWidth later) :
    classHighest latency < classLowest later := by
  -- the narrower class ends within 2048 of its widths, and the wider begins at 1024 of its own
  have width := classWidth_pos latency
  have ends := classHighest_lt latency
  have begins : 1024 * classWidth later ≤ classLowest later := le_classLowest (by omega)
  omega

theorem classLowest_mono (ordered : latency ≤ later) : classLowest latency ≤ classLowest later := by
  rcases classWidth_doubles ordered with same | wider
  · rw [classLowest, classLowest, same]
    exact Nat.mul_le_mul_right _ (Nat.div_le_div_right ordered)
  · calc classLowest latency
        ≤ latency := classLowest_le latency
      _ ≤ classHighest latency := le_classHighest latency
      _ ≤ classLowest later := Nat.le_of_lt (classHighest_lt_classLowest wider)

theorem classHighest_mono (ordered : latency ≤ later) :
    classHighest latency ≤ classHighest later := by
  rcases classWidth_doubles ordered with same | wider
  · have lowest := classLowest_mono ordered
    simp only [classHighest, same]
    omega
  · calc classHighest latency
        ≤ classLowest later := Nat.le_of_lt (classHighest_lt_classLowest wider)
      _ ≤ later := classLowest_le later
      _ ≤ classHighest later := le_classHighest later

/-- A class ends where the class of its lowest latency does, which it is. -/
theorem classHighest_classLowest (latency : Nat) :
    classHighest (classLowest latency) = classHighest latency := by
  have width : classWidth (classLowest latency) = classWidth latency := by
    rcases classWidth_doubles (classLowest_le latency) with same | wider
    · exact same
    · -- a narrower class would end before the class begins, whose beginning it has
      have within := le_classHighest (classLowest latency)
      have apart := classHighest_lt_classLowest wider
      omega
  have lowest : classLowest (classLowest latency) = classLowest latency := by
    rw [classLowest, width, classLowest, Nat.mul_div_cancel _ (classWidth_pos latency)]
  rw [classHighest, lowest, width, classHighest]

end

/-- `answer` is the highest latency of the class of `sample`, which is close to it. -/
structure TopOfClass (answer sample : Nat) : Prop where
  top : answer = classHighest sample
  above : sample ≤ answer
  near : (answer - sample) * 1024 ≤ sample
  exact : sample < 2048 → answer = sample

theorem topOfClass_classHighest (sample : Nat) : TopOfClass (classHighest sample) sample := by
  have above := le_classHighest sample
  have lowest := classLowest_le sample
  by_cases narrow : classWidth sample = 1
  · have same : classHighest sample = sample := by
      rw [classHighest, narrow] at above ⊢
      omega
    exact ⟨rfl, above, by omega, fun _ => same⟩
  · have width := classWidth_pos sample
    have begins := le_classLowest narrow
    have near : (classHighest sample - sample) * 1024 ≤ sample := by
      rw [classHighest]
      omega
    exact ⟨rfl, above, near, fun small => absurd small (by omega)⟩

theorem clamped_lt (latency : Nat) : clamped latency < 2 ^ 37 := by
  rw [clamped]
  split
  · next short => exact short
  · decide

/-- The answers are words. -/
theorem classHighest_clamped_lt (latency : Nat) : classHighest (clamped latency) < UInt64.size := by
  calc classHighest (clamped latency)
      ≤ classHighest (2 ^ 37 - 1) := classHighest_mono (Nat.le_sub_one_of_lt (clamped_lt latency))
    _ < UInt64.size := by decide

namespace Distribution

/-! ## Classes with their counts -/

/-- The classes with each written as often as it counts. -/
def occurrences (classes : List (Nat × Nat)) : List Nat :=
  classes.flatMap fun (lowest, count) => List.replicate count lowest

theorem occurrences_cons (lowest count : Nat) (rest : List (Nat × Nat)) :
    occurrences ((lowest, count) :: rest) = List.replicate count lowest ++ occurrences rest :=
  List.flatMap_cons ..

theorem mem_occurrences {lowest : Nat} {classes : List (Nat × Nat)}
    (occurs : lowest ∈ occurrences classes) : lowest ∈ classes.map Prod.fst := by
  obtain ⟨entry, inside, repeated⟩ := List.mem_flatMap.1 occurs
  rw [List.eq_of_mem_replicate repeated]
  exact List.mem_map_of_mem inside

/-- The search for a rank finds the class at its place among the occurrences. -/
theorem classAtRank?_eq {rank passed : Nat} (ahead : passed < rank) (classes : List (Nat × Nat)) :
    classAtRank? rank passed classes = (occurrences classes)[rank - passed - 1]? := by
  induction classes generalizing passed with
  | nil => rfl
  | cons entry rest inductionHypothesis =>
    obtain ⟨lowest, count⟩ := entry
    rw [classAtRank?, occurrences_cons]
    split
    · next within =>
      rw [List.getElem?_append_left (by rw [List.length_replicate]; omega),
        List.getElem?_replicate_of_lt (by omega)]
    · next beyond =>
      rw [List.getElem?_append_right (by rw [List.length_replicate]; omega),
        List.length_replicate, inductionHypothesis (by omega)]
      congr 1
      omega

theorem perm_occurrences_countIn (lowest : Nat) (classes : List (Nat × Nat)) :
    (occurrences (countIn lowest classes)).Perm (lowest :: occurrences classes) := by
  induction classes with
  | nil => exact List.Perm.refl _
  | cons entry rest inductionHypothesis =>
    obtain ⟨first, count⟩ := entry
    rw [countIn]
    split
    · exact List.Perm.refl _
    · split
      · next same =>
        subst same
        exact List.Perm.refl _
      · rw [occurrences_cons, occurrences_cons]
        exact (inductionHypothesis.append_left _).trans List.perm_middle

/-- The classes are listed in increasing order. -/
def Increasing (classes : List (Nat × Nat)) : Prop := (classes.map Prod.fst).Pairwise (· < ·)

theorem mem_countIn {lowest key : Nat} {classes : List (Nat × Nat)}
    (listed : key ∈ (countIn lowest classes).map Prod.fst) :
    key = lowest ∨ key ∈ classes.map Prod.fst := by
  induction classes with
  | nil => exact .inl (List.mem_singleton.1 listed)
  | cons entry rest inductionHypothesis =>
    grind [countIn]

theorem Increasing.countIn {classes : List (Nat × Nat)} (increasing : Increasing classes)
    (lowest : Nat) : Increasing (countIn lowest classes) := by
  induction classes with
  | nil => exact List.pairwise_singleton ..
  | cons entry rest inductionHypothesis =>
    obtain ⟨first, count⟩ := entry
    obtain ⟨behind, sorted⟩ := List.pairwise_cons.1 increasing
    rw [Distribution.countIn]
    -- the class is new and comes first, is the first, or is counted among the rest
    split
    · next before =>
      refine List.pairwise_cons.2 ⟨fun key listed => ?_, increasing⟩
      rcases List.mem_cons.1 listed with rfl | inRest
      · exact before
      · exact Nat.lt_trans before (behind key inRest)
    · split
      · exact increasing
      · refine List.pairwise_cons.2 ⟨fun key listed => ?_, inductionHypothesis sorted⟩
        rcases mem_countIn listed with rfl | inRest
        · omega
        · exact behind key inRest

theorem Increasing.occurrences_sorted {classes : List (Nat × Nat)}
    (increasing : Increasing classes) : (occurrences classes).Pairwise (· ≤ ·) := by
  induction classes with
  | nil => exact List.Pairwise.nil
  | cons entry rest inductionHypothesis =>
    obtain ⟨first, count⟩ := entry
    obtain ⟨behind, sorted⟩ := List.pairwise_cons.1 increasing
    rw [occurrences_cons, List.pairwise_append]
    refine ⟨List.pairwise_replicate.2 (.inr (Nat.le_refl _)), inductionHypothesis sorted, ?_⟩
    intro lowest repeated later occurs
    rw [List.eq_of_mem_replicate repeated]
    exact Nat.le_of_lt (behind later (mem_occurrences occurs))

/-! ## Sorted latencies -/

/-- The latencies as they are counted, in increasing order. -/
def samples (latencies : List UInt64) : List Nat :=
  (latencies.map fun latency => clamped latency.toNat).mergeSort (· ≤ ·)

theorem length_samples (latencies : List UInt64) :
    (samples latencies).length = latencies.length := by
  rw [samples, List.length_mergeSort, List.length_map]

theorem samples_sorted (latencies : List UInt64) : (samples latencies).Pairwise (· ≤ ·) := by
  have sorted := @List.pairwise_mergeSort Nat (fun left right => decide (left ≤ right))
    (by simpa using fun _ _ _ => Nat.le_trans) (by simpa using Nat.le_total)
    (latencies.map fun latency => clamped latency.toNat)
  simpa [samples] using sorted

theorem exists_of_mem_samples {sample : Nat} {latencies : List UInt64}
    (counted : sample ∈ samples latencies) : ∃ latency, sample = clamped latency := by
  obtain ⟨latency, _, same⟩ := List.mem_map.1 (List.mem_mergeSort.1 counted)
  exact ⟨latency.toNat, same.symm⟩

/-- What counting latencies leaves behind. -/
theorem classes_condense (latencies : List UInt64) :
    let classes := (Aggregate.condense latencies : Distribution).classes
    Increasing classes ∧ (occurrences classes).Perm
      (latencies.map fun latency => classLowest (clamped latency.toNat)) := by
  induction latencies using List.reverseRecOn with
  | nil => exact ⟨List.Pairwise.nil, List.Perm.refl _⟩
  | append_singleton latencies latency inductionHypothesis =>
    obtain ⟨increasing, counted⟩ := inductionHypothesis
    rw [Aggregate.condense_concat, List.map_append]
    refine ⟨increasing.countIn _, ?_⟩
    calc occurrences (countIn _ _)
      _ |>.Perm (_ :: occurrences _) := perm_occurrences_countIn ..
      _ |>.Perm (_ :: latencies.map _) := counted.cons _
      _ |>.Perm (latencies.map _ ++ [_]) := (List.perm_append_singleton ..).symm

/-- Read out, the classes are those of the sorted latencies. -/
theorem occurrences_condense (latencies : List UInt64) :
    occurrences (Aggregate.condense latencies : Distribution).classes =
      (samples latencies).map classLowest := by
  -- both lists are in order and have the same members, as often
  obtain ⟨increasing, counted⟩ := classes_condense latencies
  apply List.Perm.eq_of_pairwise (fun _ _ _ _ => Nat.le_antisymm) increasing.occurrences_sorted
  · exact (samples_sorted latencies).map _ fun _ _ => classLowest_mono
  · have sorted : (samples latencies).Perm (latencies.map fun latency => clamped latency.toNat) :=
      List.mergeSort_perm ..
    apply counted.trans
    simpa [Function.comp_def] using (sorted.map classLowest).symm

/-! ## Answers -/

variable {latencies : List UInt64} {rank : Nat}

/-- A rank is answered with the end of the class of the latency that has it. -/
theorem valueAtRank_condense (counts : 1 ≤ rank) :
    valueAtRank (Aggregate.condense latencies) rank =
      ((samples latencies)[rank - 1]?.map classHighest).getD 0 := by
  rw [valueAtRank, classAtRank?_eq counts, occurrences_condense, List.getElem?_map,
    Option.map_map]
  congr 2
  funext latency
  exact classHighest_classLowest latency

theorem exists_sample (counts : 1 ≤ rank) (within : rank ≤ latencies.length) :
    ∃ sample, (samples latencies)[rank - 1]? = some sample ∧
      valueAtRank (Aggregate.condense latencies) rank = classHighest sample := by
  have inside : rank - 1 < (samples latencies).length := by
    rw [length_samples]
    omega
  have found := List.getElem?_eq_getElem inside
  refine ⟨_, found, ?_⟩
  rw [valueAtRank_condense counts, found]
  rfl

theorem valueAtRank_mono {later : Nat} (counts : 1 ≤ rank) (ordered : rank ≤ later)
    (within : later ≤ latencies.length) :
    valueAtRank (Aggregate.condense latencies) rank ≤
      valueAtRank (Aggregate.condense latencies) later := by
  obtain ⟨lower, first, answer⟩ := exists_sample counts (Nat.le_trans ordered within)
  obtain ⟨higher, second, laterAnswer⟩ := exists_sample (Nat.le_trans counts ordered) within
  rw [answer, laterAnswer]
  apply classHighest_mono
  rcases Nat.lt_or_eq_of_le ordered with before | same
  · obtain ⟨inside, rfl⟩ := List.getElem?_eq_some_iff.1 first
    obtain ⟨behind, rfl⟩ := List.getElem?_eq_some_iff.1 second
    exact List.pairwise_iff_getElem.1 (samples_sorted latencies) _ _ inside behind (by omega)
  · subst same
    rw [first] at second
    exact Nat.le_of_eq (Option.some.inj second)

theorem valueAtRank_lt (counts : 1 ≤ rank) (within : rank ≤ latencies.length) :
    valueAtRank (Aggregate.condense latencies) rank < UInt64.size := by
  obtain ⟨sample, found, answer⟩ := exists_sample counts within
  obtain ⟨latency, rfl⟩ := exists_of_mem_samples (List.mem_of_getElem? found)
  rw [answer]
  exact classHighest_clamped_lt latency

/-- A percentile other than zero is answered with the latency of its rank. -/
theorem valueAtPercentile?_eq {distribution : Distribution} {percentile : Float}
    (present : distribution.count ≠ 0) (positive : (shareOf percentile == 0.0) = false) :
    distribution.valueAtPercentile? percentile =
      let rank := rankOf (shareOf percentile) distribution.count
      some (distribution.valueAtRank rank).toUInt64 := by
  simp [valueAtPercentile?, valueAtRank, present, positive]

theorem shares_positive :
    ∀ percentile ∈ reportedPercentiles, (shareOf percentile == 0.0) = false := by
  decide +kernel

/-- The reported percentiles are answered with the latencies of their ranks. -/
theorem percentiles_condense (present : latencies ≠ []) :
    let distribution : Distribution := Aggregate.condense latencies
    distribution.percentiles.map Prod.fst = reportedPercentiles ∧
      distribution.percentiles.map (fun entry => entry.2.toNat) =
        (reportedRanks latencies.length).map distribution.valueAtRank := by
  intro distribution
  have count : distribution.count = latencies.length :=
    @Aggregate.count_condense Distribution _ _ latencies
  have many : 1 ≤ latencies.length := List.length_pos_iff.2 present
  constructor
  · simp [percentiles, Function.comp_def]
  · rw [percentiles, reportedRanks, List.map_map, List.map_map]
    refine List.map_congr_left fun percentile listed => ?_
    have bounds := reportedRanks_bounds many (List.mem_map_of_mem listed)
    show ((distribution.valueAtPercentile? percentile).getD 0).toNat = _
    rw [valueAtPercentile?_eq (by omega) (shares_positive percentile listed), count,
      Option.getD_some]
    exact Nat.mod_eq_of_lt (valueAtRank_lt bounds.1 bounds.2)

theorem percentiles_sorted (present : latencies ≠ []) :
    ((Aggregate.condense latencies : Distribution).percentiles.map Prod.snd).Pairwise
      (· ≤ ·) := by
  have many : 1 ≤ latencies.length := List.length_pos_iff.2 present
  have answers : ((reportedRanks latencies.length).map
      (Aggregate.condense latencies : Distribution).valueAtRank).Pairwise (· ≤ ·) := by
    refine List.pairwise_map.2 ((reportedRanks_sorted latencies.length).imp_of_mem ?_)
    intro lower higher first second ordered
    exact valueAtRank_mono (reportedRanks_bounds many first).1 ordered
      (reportedRanks_bounds many second).2
  rw [← (percentiles_condense present).2] at answers
  exact List.pairwise_map.2 ((List.pairwise_map.1 answers).imp UInt64.le_iff_toNat_le.2)

end Distribution

theorem min?_eq_foldl {latencies : List UInt64} (present : latencies ≠ []) :
    latencies.min? = some (latencies.foldl min noLeast) := by
  obtain ⟨first, rest, rfl⟩ := List.exists_cons_of_ne_nil present
  have least : min noLeast first = first := by
    have swapped : min noLeast first = min first noLeast := by ac_rfl
    rw [swapped, min_of_le (le_noLeast first)]
  exact congrArg (fun start => some (rest.foldl min start)) least.symm

theorem max?_eq_foldl {latencies : List UInt64} (present : latencies ≠ []) :
    latencies.max? = some (latencies.foldl max 0) := by
  obtain ⟨first, rest, rfl⟩ := List.exists_cons_of_ne_nil present
  have greatest : max 0 first = first := by
    have swapped : max 0 first = max first 0 := by ac_rfl
    rw [swapped, max_of_le UInt64.zero_le]
  exact congrArg (fun start => some (rest.foldl max start)) greatest.symm

/-- The statistics of a slot with reports. -/
theorem Meter.snapshot?_applyAll {α : Type} [Aggregate α] [Aggregate.Counts α]
    [Aggregate.KeepsExtremes α] {slot : Slot} {events : List Event}
    (present : reported slot events ≠ []) :
    let latencies := reported slot events
    ((Meter.empty : Meter α).applyAll events).snapshot? slot = some {
      slot
      count := latencies.length
      least := latencies.foldl min noLeast
      greatest := latencies.foldl max 0
      mean := Aggregate.mean (Aggregate.condense latencies : α)
      percentiles := Aggregate.percentiles (Aggregate.condense latencies : α) } := by
  have cell : ((empty : Meter α).applyAll events).cells.get slot =
      Aggregate.condense (reported slot events) := get_cells_applyAll slot events
  have many : (reported slot events).length ≠ 0 := Nat.ne_of_gt (List.length_pos_iff.2 present)
  simp only [snapshot?, cell, Aggregate.count_condense, Aggregate.least_condense,
    Aggregate.greatest_condense, if_neg many]

open StoreBench.Latency.Distribution in
/-- **Percentiles are order statistics, up to the width of a class.**  After every history and for
each slot with reports since the last fresh start, the answer for each rank is the highest latency
of the class of the latency that has this rank, as it is counted: it is not below that latency, and
beyond it by no more than a 1024th, and not at all below 2048.  Greater ranks have no smaller
answers.  A percentile other than zero is answered with the answer for its rank.  The reported
percentiles have ranks that exist, and come in increasing order; the extremes beside them are exact
and not clamped. -/
theorem percentiles_are_order_statistics (events : List Event) (slot : Slot)
    (present : reported slot events ≠ []) :
    let latencies := reported slot events
    let meter : Meter Distribution := Meter.empty.applyAll events
    let answer := (meter.cells.get slot).valueAtRank
    (∀ rank, 1 ≤ rank → rank ≤ latencies.length → ∃ sample,
        (samples latencies)[rank - 1]? = some sample ∧ TopOfClass (answer rank) sample) ∧
    (∀ rank later, 1 ≤ rank → rank ≤ later → later ≤ latencies.length →
        answer rank ≤ answer later) ∧
    (∀ percentile, (shareOf percentile == 0.0) = false →
        (meter.cells.get slot).valueAtPercentile? percentile =
          some (answer (rankOf (shareOf percentile) latencies.length)).toUInt64) ∧
    ∃ snapshot, meter.snapshot? slot = some snapshot ∧
      snapshot.count = latencies.length ∧
      latencies.min? = some snapshot.least ∧
      latencies.max? = some snapshot.greatest ∧
      snapshot.percentiles.map Prod.fst = reportedPercentiles ∧
      snapshot.percentiles.map (fun entry => entry.2.toNat) =
        (reportedRanks latencies.length).map answer ∧
      (∀ rank ∈ reportedRanks latencies.length, 1 ≤ rank ∧ rank ≤ latencies.length) ∧
      (snapshot.percentiles.map Prod.snd).Pairwise (· ≤ ·) := by
  intro latencies meter answer
  have many : 1 ≤ latencies.length := List.length_pos_iff.2 present
  have cell : meter.cells.get slot = Aggregate.condense latencies :=
    Meter.get_cells_applyAll slot events
  have answers : answer = valueAtRank (Aggregate.condense latencies) := congrArg valueAtRank cell
  refine ⟨fun rank counts within => ?_, fun rank later counts ordered within => ?_,
    fun percentile positive => ?_, ?_⟩
  · obtain ⟨sample, found, top⟩ := exists_sample counts within
    refine ⟨sample, found, ?_⟩
    rw [answers, top]
    exact topOfClass_classHighest sample
  · rw [answers]
    exact valueAtRank_mono counts ordered within
  · have count : (meter.cells.get slot).count = latencies.length := by
      rw [cell]
      exact @Aggregate.count_condense Distribution _ _ latencies
    rw [valueAtPercentile?_eq (by omega) positive, count]
  · obtain ⟨listed, reached⟩ := percentiles_condense present
    rw [answers]
    exact ⟨_, Meter.snapshot?_applyAll present, rfl, min?_eq_foldl present, max?_eq_foldl present,
      listed, reached, fun rank => reportedRanks_bounds many, percentiles_sorted present⟩

open StoreBench.Latency.Distribution in
/-- Latencies before a fresh start and of another slot, and one beyond the counted ones, which is
counted below another that is counted as it is. -/
theorem percentiles_are_order_statistics_clamped :
    let read : Slot := ⟨.read, false⟩
    let events : List Event := [.measured read 1, .reset, .measured read 5001,
      .measured read 200000000000, .measured ⟨.insert, false⟩ 3, .measured read 2047,
      .measured read 130000000000]
    let meter : Meter Distribution := Meter.empty.applyAll events
    let answer := (meter.cells.get read).valueAtRank
    reported read events ≠ [] ∧
      samples (reported read events) = [2047, 5001, 100000000000, 130000000000] ∧
      TopOfClass (answer 1) 2047 ∧ TopOfClass (answer 2) 5001 ∧
      TopOfClass (answer 3) 100000000000 ∧ TopOfClass (answer 4) 130000000000 ∧
      ∃ snapshot, meter.snapshot? read = some snapshot ∧ snapshot.least = 2047 ∧
        snapshot.greatest = 200000000000 ∧
        (snapshot.percentiles.map Prod.snd).Pairwise (· ≤ ·) := by
  intro read events meter answer
  have present : reported read events ≠ [] := by decide
  have sorted :
      samples (reported read events) = [2047, 5001, 100000000000, 130000000000] := by
    apply List.Perm.eq_of_pairwise (fun _ _ _ _ => Nat.le_antisymm) (samples_sorted _) (by decide)
    exact (List.mergeSort_perm ..).trans (by decide)
  obtain ⟨tops, -, -, snapshot, shown, -, least, greatest, -, -, -, ordered⟩ :=
    percentiles_are_order_statistics events read present
  have topAt {rank sample : Nat} (counts : 1 ≤ rank) (within : rank ≤ 4)
      (found : [2047, 5001, 100000000000, 130000000000][rank - 1]? = some sample) :
      TopOfClass (answer rank) sample := by
    obtain ⟨other, same, answered⟩ := tops rank counts within
    rw [sorted, found] at same
    exact Option.some.inj same ▸ answered
  exact ⟨present, sorted, topAt (by decide) (by decide) rfl, topAt (by decide) (by decide) rfl,
    topAt (by decide) (by decide) rfl, topAt (by decide) (by decide) rfl, snapshot, shown,
    (Option.some.inj least).symm, (Option.some.inj greatest).symm, ordered⟩

end StoreBench.Latency
