import StoreBench.Config.Basic
import StoreBench.Proofs.Totals

/-!
Contract: the operations of a phase and its warm-up are split evenly, and nothing overflows.

Owns:
- the operations of each worker as numbers, their order and how far they are apart, and sums over
  the workers;
- the operations behind a warm-up, and the warm-up of all workers as a number;
- `Config.SplitsEvenly`, all of this about one phase.

Does not own: the check of a configuration.
-/

namespace StoreBench.Config

theorem toNat_workers (config : Config) : config.workers.toNat = max config.threads.toNat 1 := by
  show (if config.threads ≤ 1 then (1 : UInt64) else config.threads).toNat = _
  split
  · next few =>
    rw [UInt64.le_iff_toNat_le] at few
    exact (Nat.max_eq_right few).symm
  · next several =>
    rw [UInt64.le_iff_toNat_le] at several
    exact (Nat.max_eq_left (Nat.le_of_not_le several)).symm

theorem share_mul_add_leftOver (config : Config) (kind : Phase.Kind) :
    (config.share kind).toNat * config.workers.toNat + (config.leftOver kind).toNat =
      (config.phaseOps kind).toNat := by
  rw [share, leftOver, UInt64.toNat_div, UInt64.toNat_mod, Nat.mul_comm]
  exact Nat.div_add_mod _ _

theorem toNat_opsOf (config : Config) (kind : Phase.Kind) (index : Nat) :
    (config.opsOf kind index).toNat =
      (config.share kind).toNat + if index < (config.leftOver kind).toNat then 1 else 0 := by
  rw [opsOf]
  split
  · next early =>
    have whole := config.share_mul_add_leftOver kind
    have bound := (config.phaseOps kind).toNat_lt
    have shares := Nat.le_mul_of_pos_right (config.share kind).toNat config.workers_pos
    have small : (config.share kind).toNat + 1 < 18446744073709551616 := by omega
    rw [UInt64.toNat_add]
    exact Nat.mod_eq_of_lt small
  · rfl

/-- No worker has more than one operation more than another. -/
theorem opsOf_le_succ (config : Config) (kind : Phase.Kind) (first second : Nat) :
    (config.opsOf kind first).toNat ≤ (config.opsOf kind second).toNat + 1 := by
  rw [toNat_opsOf, toNat_opsOf]
  split
  · split
    · omega
    · omega
  · omega

/-- The workers with one operation more are the first ones. -/
theorem opsPerWorker_sorted (config : Config) (kind : Phase.Kind) :
    (config.opsPerWorker kind).Pairwise fun earlier later => later ≤ earlier := by
  rw [opsPerWorker, List.pairwise_map]
  refine List.pairwise_lt_range.imp fun {earlier later} before => ?_
  rw [UInt64.le_iff_toNat_le, toNat_opsOf, toNat_opsOf]
  split
  · next early => exact Nat.le_of_eq (by rw [if_pos (Nat.lt_trans before early)])
  · exact Nat.le_add_right _ _

/-- Every worker makes more operations than a number if the share of a worker is more. -/
theorem forall_opsPerWorker_iff (config : Config) (kind : Phase.Kind) (bound : UInt64) :
    (∀ operations ∈ config.opsPerWorker kind, bound < operations) ↔ bound < config.share kind := by
  constructor
  · intro all
    have behind : config.opsOf kind (config.leftOver kind).toNat = config.share kind := by
      rw [opsOf, if_neg (Nat.lt_irrefl _)]
    apply all
    rw [← behind]
    exact List.mem_map_of_mem (List.mem_range.2 (config.leftOver_lt_workers kind))
  · intro enough operations member
    obtain ⟨index, _, rfl⟩ := List.mem_map.1 member
    rw [UInt64.lt_iff_toNat_lt] at enough ⊢
    rw [toNat_opsOf]
    exact Nat.lt_add_right _ enough

theorem length_opsPerWorker (config : Config) (kind : Phase.Kind) :
    (config.opsPerWorker kind).length = config.workers.toNat := by
  rw [opsPerWorker, List.length_map, List.length_range]

theorem getD_opsPerWorker (config : Config) (kind : Phase.Kind) {index : Nat}
    (inside : index < config.workers.toNat) :
    (config.opsPerWorker kind).getD index 0 = config.opsOf kind index := by
  rw [opsPerWorker, List.getD_eq_getElem?_getD, List.getElem?_map, List.getElem?_range inside]
  rfl

/-- A sum over the workers has two kinds of terms. -/
theorem total_map_opsPerWorker (config : Config) (kind : Phase.Kind) (weight : Nat → Nat) :
    total ((config.opsPerWorker kind).map fun operations => weight operations.toNat) =
      (config.leftOver kind).toNat * weight ((config.share kind).toNat + 1) +
        (config.workers.toNat - (config.leftOver kind).toNat) *
          weight (config.share kind).toNat := by
  have more : ∀ operations ∈
      List.replicate (config.leftOver kind).toNat (config.share kind + 1),
      weight operations.toNat = weight ((config.share kind).toNat + 1) := by
    intro operations member
    obtain ⟨some_left, rfl⟩ := List.mem_replicate.1 member
    have first := config.toNat_opsOf kind 0
    have positive := Nat.pos_of_ne_zero some_left
    rw [opsOf, if_pos positive, if_pos positive] at first
    rw [first]
  have less : ∀ operations ∈
      List.replicate (config.workers.toNat - (config.leftOver kind).toNat) (config.share kind),
      weight operations.toNat = weight (config.share kind).toNat := by
    intro operations member
    rw [List.eq_of_mem_replicate member]
  rw [opsPerWorker_eq, List.map_append, total_append, total_map_of_eq more, total_map_of_eq less,
    List.length_replicate, List.length_replicate]

/-- The workers together make the operations of the phase. -/
theorem total_opsPerWorker (config : Config) (kind : Phase.Kind) :
    total ((config.opsPerWorker kind).map UInt64.toNat) = (config.phaseOps kind).toNat := by
  have fewer := config.leftOver_lt_workers kind
  have whole := config.share_mul_add_leftOver kind
  have part := Nat.mul_le_mul_right (config.share kind).toNat (Nat.le_of_lt fewer)
  have sum := config.total_map_opsPerWorker kind id
  simp only [id] at sum
  rw [sum, Nat.mul_succ, Nat.sub_mul, ← whole, Nat.mul_comm (config.share kind).toNat]
  omega

/-- The first workers do not make more than all operations of the phase. -/
theorem total_prefix_le (config : Config) (kind : Phase.Kind) {part : List UInt64}
    (first : part <+: config.opsPerWorker kind) :
    total (part.map UInt64.toNat) ≤ (config.phaseOps kind).toNat := by
  obtain ⟨rest, whole⟩ := first
  rw [← config.total_opsPerWorker kind, ← whole, List.map_append, total_append]
  exact Nat.le_add_right _ _

/-- The workers together make all operations behind a warm-up that is the same for each: either
every worker makes some, or none does. -/
theorem total_behind_warmup (config : Config) (kind : Phase.Kind) (warmup : Nat) :
    total ((config.opsPerWorker kind).map fun operations => operations.toNat - warmup) =
      (config.phaseOps kind).toNat - config.workers.toNat * warmup := by
  have fewer := config.leftOver_lt_workers kind
  have whole := config.share_mul_add_leftOver kind
  have sum := config.total_map_opsPerWorker kind fun operations => operations - warmup
  rw [sum, ← whole]
  rcases Nat.lt_or_ge (config.share kind).toNat warmup with short | enough
  · have most : config.workers.toNat * ((config.share kind).toNat + 1) ≤
        config.workers.toNat * warmup := Nat.mul_le_mul_left _ short
    rw [Nat.sub_eq_zero_of_le short, Nat.sub_eq_zero_of_le (Nat.le_of_lt short),
      Nat.mul_comm (config.share kind).toNat]
    rw [Nat.mul_succ] at most
    omega
  · obtain ⟨behind, split⟩ := Nat.exists_eq_add_of_le enough
    have part := Nat.mul_le_mul_right behind (Nat.le_of_lt fewer)
    rw [split, Nat.add_assoc, Nat.add_sub_cancel_left, Nat.add_sub_cancel_left, Nat.mul_succ,
      Nat.sub_mul, Nat.add_mul, Nat.mul_comm warmup, Nat.mul_comm behind]
    omega

theorem toNat_warmupTarget (config : Config) :
    config.warmupTarget.toNat = config.warmupPerWorker.toNat * config.workers.toNat := by
  have bound := config.warmupOps.toNat_lt
  have less := Nat.div_mul_le_self config.warmupOps.toNat config.workers.toNat
  rw [warmupTarget, UInt64.toNat_mul, warmupPerWorker, UInt64.toNat_div]
  exact Nat.mod_eq_of_lt (Nat.lt_of_le_of_lt less bound)

/-- How the operations of a phase are split, in plain numbers: each worker has the quotient, the
first ones the remainder, and no sum of them, of all or of the first ones, leaves a word. -/
structure SplitsEvenly (config : Config) (kind : Phase.Kind) : Prop where
  size : (config.opsPerWorker kind).length = config.workers.toNat
  amounts : ∀ index operations, (config.opsPerWorker kind)[index]? = some operations →
    operations.toNat = (config.phaseOps kind).toNat / config.workers.toNat +
      if index < (config.phaseOps kind).toNat % config.workers.toNat then 1 else 0
  whole : total ((config.opsPerWorker kind).map UInt64.toNat) = (config.phaseOps kind).toNat
  parts : ∀ part, part <+: config.opsPerWorker kind →
    total (part.map UInt64.toNat) < UInt64.size
  sorted : (config.opsPerWorker kind).Pairwise fun earlier later => later ≤ earlier
  close : ∀ first ∈ config.opsPerWorker kind, ∀ second ∈ config.opsPerWorker kind,
    first.toNat ≤ second.toNat + 1
  behind : (config.phaseOps kind).toNat - config.warmupPerWorker.toNat * config.workers.toNat =
    total ((config.opsPerWorker kind).map fun operations =>
      operations.toNat - config.warmupPerWorker.toNat)

theorem splitsEvenly (config : Config) (kind : Phase.Kind) : config.SplitsEvenly kind := by
  refine ⟨config.length_opsPerWorker kind, ?_, config.total_opsPerWorker kind, ?_,
    config.opsPerWorker_sorted kind, ?_, ?_⟩
  · intro index operations found
    have inside := (List.getElem?_eq_some_iff.1 found).1
    rw [length_opsPerWorker] at inside
    have own := config.getD_opsPerWorker kind inside
    rw [List.getD_eq_getElem?_getD, found] at own
    rw [show operations = config.opsOf kind index from own, toNat_opsOf, share, leftOver,
      UInt64.toNat_div, UInt64.toNat_mod]
  · intro part first
    exact Nat.lt_of_le_of_lt (config.total_prefix_le kind first) (config.phaseOps kind).toNat_lt
  · intro first here second there
    obtain ⟨firstIndex, _, rfl⟩ := List.mem_map.1 here
    obtain ⟨secondIndex, _, rfl⟩ := List.mem_map.1 there
    exact config.opsOf_le_succ kind firstIndex secondIndex
  · rw [total_behind_warmup, Nat.mul_comm]

end StoreBench.Config
