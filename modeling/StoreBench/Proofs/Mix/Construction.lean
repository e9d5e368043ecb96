import StoreBench.Proofs.Mix.KeyDraws
import StoreBench.Proofs.Mix.RunnableOptions

/-!
Contract: the construction of the standard workload from options that pass their check.

The check makes sure that there is something to choose from, and bounds no count.  The keys for
inserts follow those of the records, so both counts together must leave them 64 bits; options beyond
that pass the check, and construction breaks off.

Owns:
- `KeyPool.Holds`, a pool with each key of a range once;
- `Transactions.Fresh`, what a new workload is;
- for which options that pass their check there is one.

Does not own: what the check asks for, which is in `RunnableOptions`.
-/

namespace StoreBench

open Keys

variable {arrange : Array UInt64 → Array UInt64}

/-! ## Pools -/

/-- The pool has each key from `start` on once, `count` in all. -/
structure Keys.KeyPool.Holds (start count : Nat) (pool : KeyPool) : Prop where
  size : pool.keys.size = count
  nodup : pool.keys.toList.Nodup
  mem : ∀ key : UInt64, key ∈ pool.keys.toList ↔ start ≤ key.toNat ∧ key.toNat < start + count

/-- There is a pool as soon as all keys have 64 bits. -/
theorem Keys.KeyPool.exists_create? (permutes : ∀ keys, (arrange keys).toList.Perm keys.toList)
    {start count : UInt64} (fits : start.toNat + count.toNat < UInt64.size) :
    ∃ pool, create? arrange start count = some pool ∧ pool.Holds start.toNat count.toNat := by
  refine ⟨_, if_pos fits, ?_, ?_, fun key => ?_⟩
  · rw [← Array.length_toList, (permutes _).length_eq, length_keyRange]
  · exact (permutes _).nodup_iff.2 (nodup_keyRange fits)
  · rw [(permutes _).mem_iff, mem_keyRange_iff fits]

namespace Mix.Transactions

variable {options : Options}

/-- A new workload: the keys of the records and those for inserts, each once and none in both. -/
structure Fresh (options : Options) (work : Transactions) : Prop where
  kept : work.options = options
  ordered : options.insertOrder = .ordered → work.loadKeys = .ordered ⟨0⟩
  random : options.insertOrder = .random →
    ∃ pool, work.loadKeys = .random pool ∧ pool.Holds 0 options.recordCount.toNat
  inserts : work.insertKeys.pool.Holds options.recordCount.toNat options.operationCount.toNat
  apart : ∀ pool, work.loadKeys = .random pool → ∀ key ∈ pool.keys.toList,
    key ∉ work.insertKeys.pool.keys.toList

/-- Pools of the two ranges have no key in common. -/
theorem notMem_of_holds {first second : KeyPool} {start more : Nat}
    (load : first.Holds 0 start) (insert : second.Holds start more) {key : UInt64}
    (inFirst : key ∈ first.keys.toList) : key ∉ second.keys.toList := by
  intro inSecond
  have below := ((load.mem key).1 inFirst).2
  have behind := ((insert.mem key).1 inSecond).1
  omega

/-- Only options that pass their check make a workload. -/
theorem validate_of_create {work : Transactions} (created : create arrange options = .ok work) :
    options.validate = .ok () := by
  rw [create] at created
  split at created
  · cases created
  · next passes => exact passes

/-- What construction does with options that pass their check and are feasible. -/
theorem create_eq (passes : options.validate = .ok ()) (feasible : isFeasible options = true) :
    create arrange options = (do
      let loadKeys ← match options.insertOrder with
        | .ordered => pure (.ordered ⟨0⟩)
        | .random =>
          match KeyPool.create? arrange 0 options.recordCount with
          | some pool => pure (.random pool)
          | none => throw .panicked
      match AcknowledgedPool.create? arrange options.recordCount options.operationCount with
      | some insertKeys => return { options, loadKeys, insertKeys }
      | none => throw .panicked) := by
  rw [create, passes]
  simp only [feasible]
  rfl

theorem create_of_fits (permutes : ∀ keys, (arrange keys).toList.Perm keys.toList)
    (passes : options.validate = .ok ()) (feasible : isFeasible options = true)
    (fits : options.recordCount.toNat + options.operationCount.toNat < UInt64.size) :
    ∃ work, create arrange options = .ok work ∧ Fresh options work := by
  have zero : (0 : UInt64).toNat + options.recordCount.toNat < UInt64.size := by
    rw [UInt64.toNat_zero]
    omega
  obtain ⟨inserting, created, inserts⟩ := KeyPool.exists_create? permutes fits
  obtain ⟨loading, shuffled, loads⟩ := KeyPool.exists_create? permutes zero
  have acknowledged : AcknowledgedPool.create? arrange options.recordCount options.operationCount =
      some ⟨inserting, []⟩ := by
    rw [AcknowledgedPool.create?, created, Option.map_some]
  rw [create_eq passes feasible, acknowledged]
  cases order : options.insertOrder with
  | ordered =>
    refine ⟨_, rfl, rfl, fun _ => rfl, fun other => ?_, inserts, nofun⟩
    exact absurd (order.symm.trans other) nofun
  | random =>
    rw [shuffled]
    refine ⟨_, rfl, rfl, fun other => ?_, fun _ => ⟨loading, rfl, loads⟩, inserts, ?_⟩
    · exact absurd (order.symm.trans other) nofun
    · rintro pool ⟨⟩ key inside
      exact notMem_of_holds loads inserts inside

theorem create_of_infeasible (passes : options.validate = .ok ())
    (infeasible : isFeasible options = false) : create arrange options = .error .panicked := by
  rw [create, passes]
  simp only [infeasible]
  rfl

theorem create_of_overflow (passes : options.validate = .ok ())
    (overflows : UInt64.size ≤ options.recordCount.toNat + options.operationCount.toNat) :
    create arrange options = .error .panicked := by
  cases feasible : isFeasible options with
  | false => exact create_of_infeasible passes feasible
  | true =>
    -- whether the keys of the records are made before does not matter, nor whether that succeeds
    have none : AcknowledgedPool.create? arrange options.recordCount options.operationCount =
        none := by
      rw [AcknowledgedPool.create?, KeyPool.create?, if_neg (Nat.not_lt.2 overflows),
        Option.map_none]
    rw [create_eq passes feasible, none]
    cases options.insertOrder with
    | ordered => rfl
    | random => cases KeyPool.create? arrange 0 options.recordCount <;> rfl

/-- **What a check without bounds guarantees.**  Of options that pass their check the weights are at
least one, and all positive numbers.  Construction succeeds if a memory may hold what is asked for
and the keys all have 64 bits, and gives a workload with each key of the two ranges once and none in
both; otherwise it breaks off.  It never answers a failure. -/
theorem create_iff_fits (permutes : ∀ keys, (arrange keys).toList.Perm keys.toList)
    (options : Options) (passes : options.validate = .ok ()) :
    (weighted options ≠ [] ∧
      ∀ entry ∈ weighted options, entry.2 > 0.0 ∧ entry.2.isFinite = true) ∧
    (isFeasible options = true →
      options.recordCount.toNat + options.operationCount.toNat < UInt64.size →
        ∃ work, create arrange options = .ok work ∧ Fresh options work) ∧
    (isFeasible options = false ∨
      UInt64.size ≤ options.recordCount.toNat + options.operationCount.toNat →
        create arrange options = .error .panicked) := by
  refine ⟨(validate_eq_ok_iff.1 passes).weighted, create_of_fits permutes passes, ?_⟩
  rintro (infeasible | overflows)
  · exact create_of_infeasible passes infeasible
  · exact create_of_overflow passes overflows

/-- Inserts only, with the smallest positive weight and a negative zero, of as many keys as 64 bits
leave behind the records. -/
theorem create_iff_fits_at_brim :
    let options : Options := { Options.default with
      recordCount := 18446744073709551613, operationCount := 2, readProportion := -0.0,
      updateProportion := 0.0, insertProportion := Float.ofBits 1 }
    options.validate = .ok () ∧ isFeasible options = true ∧
      ∃ work, create id options = .ok work ∧ Fresh options work := by
  intro options
  have passes : options.validate = .ok () := by decide +kernel
  have feasible : isFeasible options = true := by decide +kernel
  have fits : options.recordCount.toNat + options.operationCount.toNat < UInt64.size := by decide
  exact ⟨passes, feasible,
    (create_iff_fits (fun _ => .refl _) options passes).2.1 feasible fits⟩

/-- Options that pass their check, and construction breaks off: one operation too many for 64 bits,
and keys for inserts that no memory holds. -/
theorem create_breaks_off_beyond_brim :
    let overflowing : Options := { Options.default with
      recordCount := 18446744073709551615, operationCount := 1 }
    let vast : Options := { Options.default with
      recordCount := 1, operationCount := 1152921504606846976, fieldCount := 1, fieldLength := 1 }
    (overflowing.validate = .ok () ∧ isFeasible overflowing = true ∧
      create id overflowing = .error .panicked) ∧
    vast.validate = .ok () ∧ create id vast = .error .panicked := by
  intro overflowing vast
  have overflowingPasses : overflowing.validate = .ok () := by decide +kernel
  have feasible : isFeasible overflowing = true := by decide +kernel
  have vastPasses : vast.validate = .ok () := by decide +kernel
  have infeasible : isFeasible vast = false := by decide +kernel
  exact ⟨⟨overflowingPasses, feasible, create_of_overflow overflowingPasses (by decide)⟩,
    vastPasses, create_of_infeasible vastPasses infeasible⟩

end Mix.Transactions

end StoreBench
