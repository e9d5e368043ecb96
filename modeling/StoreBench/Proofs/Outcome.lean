/-!
Contract: how a computation that may fail comes apart into its steps.

Owns: when two steps one after the other succeed, when they fail, when a check lets pass, and what
is left of a success if failures are not told apart.
-/

namespace StoreBench

variable {ε α β : Type}

theorem bind_eq_ok_iff {first : Except ε α} {next : α → Except ε β} {value : β} :
    (first >>= next) = .ok value ↔ ∃ middle, first = .ok middle ∧ next middle = .ok value := by
  cases first with
  | error fault => simp [bind, Except.bind]
  | ok middle => simp [bind, Except.bind]

theorem bind_eq_error_iff {first : Except ε α} {next : α → Except ε β} {fault : ε} :
    (first >>= next) = .error fault ↔
      first = .error fault ∨ ∃ middle, first = .ok middle ∧ next middle = .error fault := by
  cases first with
  | error other => simp [bind, Except.bind]
  | ok middle => simp [bind, Except.bind]

/-- A check on the way is passed, and the rest succeeds. -/
theorem guard_eq_ok_iff {bad : Prop} [Decidable bad] {fault : ε} {value : α}
    {next : PUnit → Except ε α} :
    (if bad then (throw fault >>= next) else next ⟨⟩) = .ok value ↔
      ¬ bad ∧ next ⟨⟩ = .ok value := by
  split
  · next fails => exact ⟨nofun, fun ⟨passes, _⟩ => absurd fails passes⟩
  · next passes => exact ⟨fun rest => ⟨passes, rest⟩, And.right⟩

theorem guard_eq_error_iff {bad : Prop} [Decidable bad] {fault stop : ε}
    {next : PUnit → Except ε α} :
    (if bad then (throw fault >>= next) else next ⟨⟩) = .error stop ↔
      (bad ∧ fault = stop) ∨ (¬ bad ∧ next ⟨⟩ = .error stop) := by
  split
  · next fails => exact ⟨fun | rfl => .inl ⟨fails, rfl⟩,
      fun | .inl ⟨_, same⟩ => congrArg _ same | .inr ⟨passes, _⟩ => absurd fails passes⟩
  · next passes => exact ⟨fun rest => .inr ⟨passes, rest⟩,
      fun | .inl ⟨fails, _⟩ => absurd fails passes | .inr ⟨_, rest⟩ => rest⟩

/-- A check at the end is passed. -/
theorem check_eq_ok_iff {bad : Prop} [Decidable bad] {fault : ε} :
    (if bad then throw fault else pure ()) = (.ok () : Except ε Unit) ↔ ¬ bad := by
  split
  · next fails => exact ⟨nofun, absurd fails⟩
  · next passes => exact ⟨fun _ => passes, fun _ => rfl⟩

theorem check_eq_error_iff {bad : Prop} [Decidable bad] {fault stop : ε} :
    (if bad then throw fault else pure ()) = (.error stop : Except ε Unit) ↔
      bad ∧ fault = stop := by
  split
  · next fails => exact ⟨fun | rfl => ⟨fails, rfl⟩, fun ⟨_, same⟩ => congrArg _ same⟩
  · next passes => exact ⟨nofun, fun ⟨fails, _⟩ => absurd fails passes⟩

theorem discard_eq_error_iff {result : Except ε α} {fault : ε} :
    discard result = .error fault ↔ result = .error fault := by
  cases result with
  | error other => simp [discard, Functor.discard, Functor.mapConst, Except.map]
  | ok value => exact ⟨nofun, nofun⟩

theorem mapError_eq_error_iff {result : Except ε α} {name : ε → β} {fault : β} :
    result.mapError name = .error fault ↔ ∃ cause, result = .error cause ∧ name cause = fault := by
  cases result with
  | error cause =>
    constructor
    · rintro ⟨⟩
      exact ⟨cause, rfl, rfl⟩
    · rintro ⟨_, ⟨⟩, rfl⟩
      rfl
  | ok value => exact ⟨nofun, nofun⟩

theorem ok_of_toOption {result : Except ε α} {value : α}
    (succeeded : result.toOption = some value) : result = .ok value := by
  cases result with
  | error fault => cases succeeded
  | ok value =>
    cases succeeded
    rfl

end StoreBench
