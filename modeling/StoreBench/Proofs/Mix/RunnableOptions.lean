import StoreBench.Mix.Transactions
import StoreBench.Proofs.Outcome

/-!
Contract: what options that pass their check guarantee.

Owns:
- `Options.proportionOf`, the proportions by operation, and the operations that occur;
- `Options.Runnable`, all that the check asks for, and that it asks for nothing else;
- that some operation occurs if the check is passed, and that its proportion is a positive number.

Does not own: what the check leaves unbounded, which is in `Construction`.
-/

namespace StoreBench.Mix

open Transactions

/-! ## Proportions -/

/-- The proportion of an operation among the transactions. -/
def Options.proportionOf (options : Options) : Operation → Float
  | .read => options.readProportion
  | .update => options.updateProportion
  | .insert => options.insertProportion
  | .scan => options.scanProportion
  | .delete => options.deleteProportion

section
variable {options : Options} {operation : Operation} {weight : Float}

theorem mem_mixture :
    (operation, weight) ∈ mixture options ↔ weight = options.proportionOf operation := by
  cases operation <;> simp [mixture, Options.proportionOf]

/-- The operations that occur are those with a positive proportion, which is their weight. -/
theorem mem_weighted : (operation, weight) ∈ weighted options ↔
    weight = options.proportionOf operation ∧ options.proportionOf operation > 0.0 := by
  rw [weighted, List.mem_filter, mem_mixture]
  constructor
  · rintro ⟨rfl, positive⟩
    exact ⟨rfl, of_decide_eq_true positive⟩
  · rintro ⟨rfl, positive⟩
    exact ⟨rfl, decide_eq_true positive⟩

theorem forall_proportions (holds : Float → Prop) :
    (∀ entry ∈ options.proportions, holds entry.2) ↔
      ∀ operation, holds (options.proportionOf operation) := by
  simp only [Options.proportions, List.forall_mem_cons]
  constructor
  · rintro ⟨read, update, insert, scan, delete, -⟩ operation
    cases operation with
    | read => exact read
    | update => exact update
    | insert => exact insert
    | scan => exact scan
    | delete => exact delete
  · intro all
    exact ⟨all .read, all .update, all .insert, all .scan, all .delete, nofun⟩

theorem touchesRecords_eq_true : options.touchesRecords = true ↔
    ∃ operation, operation ≠ .insert ∧ options.proportionOf operation > 0.0 := by
  simp only [Options.touchesRecords, Bool.or_eq_true, decide_eq_true_eq]
  constructor
  · rintro (((read | update) | scan) | delete)
    · exact ⟨.read, nofun, read⟩
    · exact ⟨.update, nofun, update⟩
    · exact ⟨.scan, nofun, scan⟩
    · exact ⟨.delete, nofun, delete⟩
  · rintro ⟨operation, other, positive⟩
    cases operation with
    | read => exact .inl (.inl (.inl positive))
    | update => exact .inl (.inl (.inr positive))
    | insert => exact absurd rfl other
    | scan => exact .inl (.inr positive)
    | delete => exact .inr positive

/-! ## The check -/

/-- What the options of a workload that can run satisfy. -/
structure Options.Runnable (options : Options) : Prop where
  good : ∀ operation, Options.isBadProportion (options.proportionOf operation) = false
  some : ¬ ∀ operation, (options.proportionOf operation == 0.0) = true
  fields : options.fieldCount ≠ 0
  records : options.touchesRecords = true → options.recordCount ≠ 0
  scanLength : options.scanProportion > 0.0 → options.maxScanLength ≠ 0

/-- The check asks for this and for nothing else; in particular it bounds no count. -/
theorem validate_eq_ok_iff : options.validate = .ok () ↔ options.Runnable := by
  unfold Options.validate
  cases faulty : options.proportions.find? (Options.isBadProportion ·.2) with
  | some entry =>
    refine ⟨nofun, fun runnable => ?_⟩
    have good := (forall_proportions (Options.isBadProportion · = false)).2 runnable.good
    have bad := List.find?_some faulty
    rw [good entry (List.mem_of_find?_eq_some faulty)] at bad
    cases bad
  | none =>
    have good : ∀ operation, Options.isBadProportion (options.proportionOf operation) = false := by
      apply (forall_proportions (Options.isBadProportion · = false)).1
      simpa using List.find?_eq_none.1 faulty
    dsimp only
    rw [guard_eq_ok_iff, guard_eq_ok_iff, guard_eq_ok_iff, check_eq_ok_iff, List.all_eq_true,
      forall_proportions fun proportion => (proportion == 0.0) = true]
    constructor
    · rintro ⟨some, fields, records, scanLength⟩
      refine ⟨good, some, fields, ?_, ?_⟩
      · simpa using records
      · simpa using scanLength
    · rintro ⟨-, some, fields, records, scanLength⟩
      refine ⟨some, fields, ?_, ?_⟩
      · simpa using records
      · simpa using scanLength

/-- A proportion that is not bad and not zero is positive. -/
theorem pos_of_good {proportion : Float} (good : Options.isBadProportion proportion = false)
    (nonzero : ¬ (proportion == 0.0) = true) : proportion > 0.0 := by
  have nothing : (Float.toModel 0.0).unpack = .zero .positive := by rfl
  obtain ⟨finite, notLess⟩ : proportion.isFinite = true ∧ ¬ proportion < 0.0 := by
    simpa [Options.isBadProportion] using good
  have finite : proportion.toModel.unpack.isFinite = true := finite
  have notLess : ¬ proportion.toModel.unpack.lt (Float.toModel 0.0).unpack = true :=
    fun less => notLess (decide_eq_true less)
  have nonzero : ¬ proportion.toModel.unpack.beq (Float.toModel 0.0).unpack = true := nonzero
  have less : (Float.toModel 0.0).unpack.lt proportion.toModel.unpack = true := by
    rw [nothing] at notLess nonzero ⊢
    -- what is no finite number is bad, either zero equals zero, and less than zero is bad again
    cases kind : proportion.toModel.unpack with
    | notANumber => rw [kind] at finite; cases finite
    | infinity sign => rw [kind] at finite; cases finite
    | zero sign => rw [kind] at nonzero; exact absurd rfl nonzero
    | finite sign =>
      cases sign with
      | positive => rfl
      | negative => rw [kind] at notLess; exact absurd rfl notLess
  exact decide_eq_true less

/-- Of runnable options some operation occurs, and the weight of each that does is a positive
number. -/
theorem Options.Runnable.weighted (runnable : options.Runnable) :
    weighted options ≠ [] ∧
      ∀ entry ∈ weighted options, entry.2 > 0.0 ∧ entry.2.isFinite = true := by
  constructor
  · intro nothing
    apply runnable.some
    intro operation
    apply Classical.byContradiction
    intro nonzero
    have occurs : (operation, options.proportionOf operation) ∈ Transactions.weighted options :=
      mem_weighted.2 ⟨rfl, pos_of_good (runnable.good operation) nonzero⟩
    rw [nothing] at occurs
    cases occurs
  · rintro ⟨operation, weight⟩ inside
    obtain ⟨rfl, positive⟩ := mem_weighted.1 inside
    have good := runnable.good operation
    simp only [isBadProportion, Bool.or_eq_false_iff, Bool.not_eq_false'] at good
    exact ⟨positive, good.1⟩

end

end StoreBench.Mix
