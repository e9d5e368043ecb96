import StoreBench.Mix.Transactions

/-!
Contract: workloads that make one call in a step.

Owns:
- `Workload.OneCall`, and that the standard workload is of this kind;
- `Workload.Steady`, which excludes that a step is stopped for anything but its call.

Does not own: which call a step makes.
-/

namespace StoreBench.Mix

/-- A step of the workload makes exactly one call, or is stopped before it.  What the step makes of
the answer is left open. -/
def Workload.OneCall {ω : Type} (workload : Workload ω) : Prop :=
  ∀ index step choices work,
    (∃ reason, (workload.plan index step choices work).1 = .stop reason) ∨
      ∃ task, (workload.plan index step choices work).1 = .tasks [task]

theorem Workload.OneCall.eq_singleton {ω : Type} {workload : Workload ω}
    (oneCall : workload.OneCall) {index : Nat} {step : Step} {choices : Choices} {work after : ω}
    {tasks : List Task} (plan : workload.plan index step choices work = (.tasks tasks, after)) :
    ∃ task, tasks = [task] := by
  rcases oneCall index step choices work with ⟨reason, stopped⟩ | ⟨task, single⟩
  · rw [plan] at stopped
    cases stopped
  · rw [plan] at single
    cases single
    exact ⟨task, rfl⟩

/-- Nothing is left to do after the only call of a step. -/
theorem Workload.tasks_eq_nil {ω : Type} (workload : Workload ω) {index : Nat} {task : Task}
    {tasks : List Task} {reply : Store.Reply} {work after : ω}
    (settles : workload.settle index task [] reply work = (.tasks tasks, after)) : tasks = [] :=
  List.eq_nil_of_length_eq_zero
    (Nat.le_zero.1 (workload.settle_le (congrArg Prod.fst settles)))

/-- Every step of the workload makes exactly one call, and succeeds if that answers a status. -/
structure Workload.Steady {ω : Type} (workload : Workload ω) : Prop where
  single : ∀ index step choices work,
    ∃ task, (workload.plan index step choices work).1 = .tasks [task]
  succeeds : ∀ {index task reply work status reason}, reply.outcome = .ok status →
    (workload.settle index task [] reply work).1 ≠ .stop reason

theorem Workload.Steady.oneCall {ω : Type} {workload : Workload ω} (steady : workload.Steady) :
    workload.OneCall :=
  fun index step choices work => .inr (steady.single index step choices work)

namespace Transactions

theorem planTransaction_oneCall (choices : Choices) (work : Transactions) :
    (∃ reason, (planTransaction choices work).1 = .stop reason) ∨
      ∃ task, (planTransaction choices work).1 = .tasks [task] := by
  unfold planTransaction
  dsimp only
  split
  · exact .inl ⟨_, rfl⟩
  · exact .inr ⟨_, rfl⟩
  · split
    · exact .inr ⟨_, rfl⟩
    · exact .inl ⟨_, rfl⟩

theorem workload_oneCall : workload.OneCall := by
  intro index step choices work
  cases step with
  | load => exact .inr ⟨_, rfl⟩
  | transaction warmup => exact planTransaction_oneCall choices work

end Transactions

end StoreBench.Mix
