import StoreBench.Proofs.Phase.Agendas

/-!
Contract: what the two routines of a worker do, action by action.

Owns:
- `journaling`, effects that write down what is done;
- `Follows` and `Gated.Follows`, which tie a part of a routine to an agenda, and the agendas of the
  two routines;
- that they make the same calls with the same result.

Does not own: what happens when the workers of a phase take their steps in turns.
-/

namespace StoreBench.Phase

/-- Actions that are written down. -/
abbrev Journaled : Type → Type := StateM (List Action)

def note (action : Action) : Journaled Unit := modify (· ++ [action])

/-- The answers are given one after the other, whatever is asked. -/
def ask (answers : Nat → Except Stop Unit) (action : Action) : Journaled (Except Stop Unit) := do
  let journal ← get
  note action
  return answers (asked journal)

def journaling (kind : Kind) (answers : Nat → Except Stop Unit) : Effects Journaled where
  init := ask answers .init
  throttle := note .throttle
  operate := fun warmup => ask answers (.operate (kind.step warmup))
  cleanup := ask answers .cleanup
  arrive := note .arrive
  release := note .release
  countDown := note .countDown

section
variable {kind : Kind} {answers : Nat → Except Stop Unit} {duty : Duty} {α : Type} {value : α}
variable {first second agenda journal after : List Action}

/-! ## The routine without a warm-up -/

/-- A part of the routine performs the agenda, and then it answers the value. -/
def Follows (answers : Nat → Except Stop Unit) (part : ExceptT Stop Journaled α) (value : α)
    (agenda : List Action) : Prop :=
  ∀ journal, part.run.run journal =
    (carryOut answers agenda journal).map (Except.map fun _ => value) id

theorem follows_pure (value : α) : Follows answers (pure value) value [] := fun _ => rfl

theorem Follows.bind {part : ExceptT Stop Journaled Unit} {next : ExceptT Stop Journaled α}
    (follows : Follows answers part () first) (followsNext : Follows answers next value second) :
    Follows answers (part >>= fun _ => next) value (first ++ second) := by
  intro journal
  rw [carryOut_append, ExceptT.run_bind, StateT.run_bind, follows journal]
  obtain ⟨reason | done, after⟩ := carryOut answers first journal
  · rfl
  · exact followsNext after

theorem Follows.bindIf {part : ExceptT Stop Journaled Unit} {next : ExceptT Stop Journaled α}
    (condition : Bool) (follows : Follows answers part () first)
    (followsNext : Follows answers next value second) :
    Follows answers (if condition = true then part >>= fun _ => next else next) value
      ((if condition then first else []) ++ second) := by
  cases condition with
  | true => exact follows.bind followsNext
  | false => exact followsNext

theorem follows_attempt (action : Action) (asks : action.asks = true) :
    Follows answers (attempt (ask answers action)) () [action] := by
  intro journal
  rw [carryOut, if_pos asks]
  show (answers (asked journal), journal ++ [action]) = _
  cases answers (asked journal) with
  | ok done => rfl
  | error reason => rfl

theorem follows_throttle :
    Follows answers (ExceptT.lift (note .throttle)) () [.throttle] := fun _ => rfl

theorem follows_operateAll (kind : Kind) (duty : Duty) (number left : Nat) :
    Follows answers (operateAll (journaling kind answers) duty left) ()
      ((List.range' number left).flatMap (duty.iteration kind fun _ => false)) := by
  induction left generalizing number with
  | zero => exact follows_pure ()
  | succ left inductionHypothesis =>
    rw [operateAll, List.range'_succ, List.flatMap_cons, Duty.iteration, List.append_assoc]
    exact follows_throttle.bindIf duty.limited
      ((follows_attempt _ rfl).bind (inductionHypothesis (number + 1)))

theorem run_plainRoutine (kind : Kind) (answers : Nat → Except Stop Unit) (duty : Duty) :
    (plainRoutine (journaling kind answers) duty).run [] =
      (carryOut answers (duty.calls kind fun _ => false) []).map
        (Except.map fun _ => duty.operations) (· ++ [.countDown]) := by
  have body : Follows answers _ duty.operations _ :=
    (follows_attempt .init rfl).bindIf duty.opens <|
      (follows_operateAll kind duty 0 duty.operations.toNat).bind <|
        (follows_attempt .cleanup rfl).bindIf duty.closes (follows_pure duty.operations)
  rw [List.append_nil, ← List.append_assoc, ← List.range_eq_range'] at body
  exact congrArg (Prod.map id (· ++ [.countDown])) (body [])

/-! ## The routine with a warm-up -/

namespace Gated

variable {place later : Bool}

/-- A part of the routine performs the agenda, and then it answers the value.  The place at the
gate is there until the arrival. -/
def Follows (answers : Nat → Except Stop Unit) (place : Bool) (part : Gated Journaled α)
    (value : α) (agenda : List Action) : Prop :=
  ∀ journal, place = decide (.arrive ∉ journal) →
    (part.run.run place).run journal =
      let (result, after) := carryOut answers agenda journal
      ((result.map fun _ => value, decide (.arrive ∉ after)), after)

theorem follows_pure (value : α) : Follows answers place (pure value) value [] := by
  rintro journal rfl
  rfl

theorem Follows.bind {part : Gated Journaled Unit} {next : Gated Journaled α}
    (follows : Follows answers place part () first)
    (placed : (place && decide (.arrive ∉ first)) = later)
    (followsNext : Follows answers later next value second) :
    Follows answers place (part >>= fun _ => next) value (first ++ second) := by
  rintro journal rfl
  rw [carryOut_append, ExceptT.run_bind, StateT.run_bind, StateT.run_bind, follows journal rfl]
  rcases made : carryOut answers first journal with ⟨reason | done, after⟩
  · rfl
  · have placedAfter : later = decide (.arrive ∉ after) := by
      simp [eq_append_of_carryOut made, ← placed]
    rw [placedAfter] at followsNext
    exact followsNext after rfl

theorem Follows.bindIf {part : Gated Journaled Unit} {next : Gated Journaled α}
    (condition : Prop) [Decidable condition]
    (follows : condition → Follows answers place part () first)
    (placed : (place && decide (condition → .arrive ∉ first)) = later)
    (followsNext : Follows answers later next value second) :
    Follows answers place (if condition then part >>= fun _ => next else next) value
      ((if condition then first else []) ++ second) := by
  by_cases holds : condition
  case pos =>
    rw [if_pos holds, if_pos holds]
    exact (follows holds).bind (by simpa [holds] using placed) followsNext
  case neg =>
    have : place = later := by simpa [holds] using placed
    rw [if_neg holds, if_neg holds, this]
    exact followsNext

theorem follows_attempt (action : Action) (asks : action.asks = true) :
    Follows answers place (attempt (ask answers action)) () [action] := by
  rintro journal rfl
  have other : Action.arrive ≠ action := by
    rintro rfl
    cases asks
  have placed : decide (.arrive ∉ journal ++ [action]) = decide (.arrive ∉ journal) := by
    simp [other]
  simp only [carryOut, asks, if_true]
  show ((answers (asked journal), decide (.arrive ∉ journal)), journal ++ [action]) = _
  rw [← placed]
  cases answers (asked journal) with
  | ok done => rfl
  | error reason => rfl

theorem follows_throttle :
    Follows answers place (Gated.perform (note .throttle)) () [.throttle] := by
  rintro journal rfl
  have placed : decide (Action.arrive ∉ journal ++ [.throttle]) = decide (.arrive ∉ journal) := by
    simp
  exact congrArg (fun placed => ((Except.ok (), placed), journal ++ [.throttle])) placed.symm

theorem follows_arrive (kind : Kind) :
    Follows answers place (Gated.arrive (journaling kind answers)) ()
      (if place then [.arrive] else []) := by
  intro journal placed
  cases place with
  | false =>
    exact congrArg (fun placed => ((Except.ok (), placed), journal)) placed
  | true =>
    have used : false = decide (Action.arrive ∉ journal ++ [.arrive]) := by simp
    exact congrArg (fun placed => ((Except.ok (), placed), journal ++ [.arrive])) used

theorem follows_operateAll (kind : Kind) (duty : Duty) (warmup : UInt64) (number left : Nat) :
    Follows answers (decide (number ≤ warmup.toNat))
      (Gated.operateAll (journaling kind answers) duty warmup number left) ()
      ((List.range' number left).flatMap (duty.gatedIteration kind warmup.toNat)) := by
  induction left generalizing number with
  | zero => exact follows_pure ()
  | succ left inductionHypothesis =>
    rw [Gated.operateAll, List.range'_succ, List.flatMap_cons, Duty.gatedIteration, Duty.iteration,
      List.append_assoc, List.append_assoc]
    have operating : Follows answers (decide (number + 1 ≤ warmup.toNat)) _ () _ :=
      (follows_attempt (.operate (kind.step (number < warmup.toNat))) rfl).bind (by simp)
        (inductionHypothesis (number + 1))
    have throttling : Follows answers (decide (number + 1 ≤ warmup.toNat)) _ () _ :=
      .bindIf (duty.limited = true) (fun _ => follows_throttle) (by simp) operating
    refine .bindIf (number = warmup.toNat) (fun boundary => ?arriving) ?placed throttling
    case arriving =>
      have arriving : Follows answers (decide (number ≤ warmup.toNat)) _ () _ := follows_arrive kind
      rwa [decide_eq_true (Nat.le_of_eq boundary)] at arriving ⊢
    case placed =>
      rw [Bool.eq_iff_iff]
      simp only [Bool.and_eq_true, decide_eq_true_eq, List.mem_singleton, not_true, imp_false]
      omega

end Gated

/-- At the end, a place at the gate that is still there is given up. -/
theorem departure_of_run {routine : Gated Journaled UInt64} {result : Except Stop UInt64}
    {hasPlace : Bool} (ran : (routine.run.run true).run [] = ((result, hasPlace), after)) :
    (do
      let (result, hasPlace) ← routine.run.run true
      if hasPlace then note .release
      note .countDown
      return result : Journaled (Except Stop UInt64)).run [] =
        (result, after ++ if hasPlace then [.release, .countDown] else [.countDown]) := by
  rw [StateT.run_bind, ran]
  cases hasPlace with
  | false => rfl
  | true => exact congrArg (Prod.mk result) (List.append_assoc after [.release] [.countDown])

theorem run_warmupRoutine (kind : Kind) (answers : Nat → Except Stop Unit) (duty : Duty)
    (warmup : UInt64) :
    let boundary := min warmup.toNat duty.operations.toNat
    let early := duty.callsBefore kind (· < warmup.toNat) boundary
    let late := duty.callsFrom kind (· < warmup.toNat) boundary
    (warmupRoutine (journaling kind answers) duty warmup).run [] =
      let (result, after) := carryOut answers (early ++ .arrive :: late) []
      (result.map fun _ => duty.operations,
        after ++ (if .arrive ∉ after then [.release, .countDown] else [.countDown])) := by
  intro boundary early late
  -- the agenda of the body still has the arrival in two places: at the boundary, and at the end if
  -- it is not made there
  have body : Gated.Follows answers true _ duty.operations _ :=
    .bindIf (duty.opens = true) (fun _ => Gated.follows_attempt .init rfl) (by simp) <|
      (Gated.follows_operateAll kind duty warmup 0 duty.operations.toNat).bind rfl <|
        (Gated.follows_arrive kind).bind rfl <|
          .bindIf (duty.closes = true) (fun _ => Gated.follows_attempt .cleanup rfl) rfl <|
            Gated.follows_pure duty.operations
  simp only [Nat.zero_le, decide_true, Bool.true_and, decide_eq_true_eq, List.append_nil] at body
  rw [← List.append_assoc (List.flatMap _ _), duty.flatMap_gatedIteration_append,
    List.append_assoc, ← List.append_assoc] at body
  refine (departure_of_run (body [] rfl)).trans ?_
  simp only [decide_eq_true_eq]
  rfl

/-! ## Agreement -/

section
variable {made : Nat} {result : Except Stop Unit}

theorem plainRoutine_of_carryOut {isWarmup : Nat → Bool}
    (done : carryOut answers (duty.calls kind isWarmup) [] =
      (result, (duty.calls kind isWarmup).take made)) :
    (plainRoutine (journaling kind answers) duty).run [] =
      (result.map fun _ => duty.operations,
        (duty.calls kind fun _ => false).take made ++ [.countDown]) := by
  have mapped := carryOut_map_plain answers (duty.calls kind isWarmup) []
  rw [done, duty.map_plain_calls kind isWarmup, List.map_nil] at mapped
  rw [run_plainRoutine, mapped, Prod.map_apply, Prod.map_apply, List.map_take,
    duty.map_plain_calls kind isWarmup]
  rfl

/-- The arrival at the gate is among the calls if none of those before it is answered with a stop;
else the place is given up behind them. -/
theorem warmupRoutine_of_carryOut {warmup : UInt64}
    (done : carryOut answers (duty.calls kind (· < warmup.toNat)) [] =
      (result, (duty.calls kind (· < warmup.toNat)).take made)) :
    let gated := (warmupRoutine (journaling kind answers) duty warmup).run []
    let calls := (duty.calls kind (· < warmup.toNat)).take made
    let early :=
      duty.callsBefore kind (· < warmup.toNat) (min warmup.toNat duty.operations.toNat)
    gated.1 = result.map (fun _ => duty.operations) ∧
      ((∀ number < asked early, answers number = .ok ()) →
        ∃ late, calls = early ++ late ∧ gated.2 = early ++ .arrive :: late ++ [.countDown]) ∧
      ((¬ ∀ number < asked early, answers number = .ok ()) →
        gated.2 = calls ++ [.release, .countDown]) := by
  intro gated calls early
  let late := duty.callsFrom kind (· < warmup.toNat) (min warmup.toNat duty.operations.toNat)
  have whole : early ++ late = duty.calls kind (· < warmup.toNat) :=
    duty.callsBefore_append_callsFrom kind _ (Nat.min_le_right _ _)
  have areCalls : ∀ action ∈ early ++ late, action.isCall = true := fun action member =>
    duty.isCall_of_mem_calls kind _ (whole ▸ member)
  rcases doneAll : carryOut answers (early ++ .arrive :: late) [] with ⟨resultAll, after⟩
  -- the arrival is no call, so without it what is made is what is made of the calls
  obtain ⟨rfl, calls_eq⟩ : resultAll = result ∧ after.filter Action.isCall = calls := by
    have filtered := carryOut_filter_isCall answers (early ++ .arrive :: late) []
    rw [List.filter_append, List.filter_cons_of_neg (by decide), ← List.filter_append,
      List.filter_nil, List.filter_eq_self.mpr areCalls, whole, done, doneAll] at filtered
    exact ⟨(congrArg Prod.fst filtered).symm, (congrArg Prod.snd filtered).symm⟩
  have gated_eq : gated = (resultAll.map fun _ => duty.operations,
      after ++ if .arrive ∉ after then [.release, .countDown] else [.countDown]) := by
    rw [show gated = _ from run_warmupRoutine kind answers duty warmup]
    show (match carryOut answers (early ++ .arrive :: late) [] with | (result, after) => _) = _
    rw [doneAll]
  refine ⟨by rw [gated_eq], fun answered => ?reached, fun stopped => ?missed⟩
  all_goals
    obtain ⟨earlyAnswered, madeLate, after_eq⟩ | ⟨earlyStopped, onlyCalls⟩ :=
      carryOut_arrive (fun action member => areCalls action (List.mem_append_left _ member)) doneAll
  case reached.inl =>
    refine ⟨late.take madeLate, ?_, ?_⟩
    · rw [← calls_eq, after_eq, List.filter_append, List.filter_cons_of_neg (by decide),
        ← List.filter_append]
      refine List.filter_eq_self.mpr fun action member => areCalls action ?_
      exact ((List.take_sublist madeLate late).append_left early).subset member
    · rw [gated_eq, if_neg (by simp [after_eq]), after_eq]
  case reached.inr => exact absurd answered earlyStopped
  case missed.inl => exact absurd earlyAnswered stopped
  case missed.inr =>
    have waiting : .arrive ∉ after := fun arrives => by cases onlyCalls _ arrives
    rw [gated_eq, if_pos waiting, ← calls_eq, List.filter_eq_self.mpr onlyCalls]

end

/-- Both routines make the same calls, but for the warm-up, up to the first that is answered with a
stop, and both answer that stop. -/
theorem routines_agree (kind : Kind) (answers : Nat → Except Stop Unit) (duty : Duty)
    (warmup : UInt64) :
    let plain := (plainRoutine (journaling kind answers) duty).run []
    let gated := (warmupRoutine (journaling kind answers) duty warmup).run []
    let plainCalls := duty.calls kind fun _ => false
    let gatedCalls := duty.calls kind (· < warmup.toNat)
    let early :=
      duty.callsBefore kind (· < warmup.toNat) (min warmup.toNat duty.operations.toNat)
    let arrives : Prop := ∀ number < asked early, answers number = .ok ()
    (∃ result made,
      Ends answers plainCalls result made ∧
      plain = (result.map fun _ => duty.operations, plainCalls.take made ++ [.countDown]) ∧
      gated.1 = plain.1 ∧
      (arrives → ∃ late, gatedCalls.take made = early ++ late ∧
        gated.2 = early ++ .arrive :: late ++ [.countDown]) ∧
      (¬ arrives → gated.2 = gatedCalls.take made ++ [.release, .countDown])) ∧
    (plain.1 = .ok duty.operations ↔
      ∀ number < asked plainCalls, answers number = .ok ()) ∧
    plain.2.count .countDown = 1 ∧ gated.2.count .countDown = 1 ∧
    gated.2.count .arrive + gated.2.count .release = 1 := by
  intro plain gated plainCalls gatedCalls early arrives
  rcases done : carryOut answers gatedCalls [] with ⟨result, after⟩
  obtain ⟨made, rfl, ends⟩ := ends_of_carryOut_nil done
  have endsPlain := ends.map_plain
  rw [duty.map_plain_calls kind] at endsPlain
  have plain_eq : plain = _ := plainRoutine_of_carryOut done
  obtain ⟨same, reached, missed⟩ := warmupRoutine_of_carryOut done
  refine ⟨⟨result, made, endsPlain, plain_eq, same.trans (congrArg Prod.fst plain_eq).symm,
    reached, missed⟩, ?succeeds, ?plainOnce, ?gatedOnce⟩
  case succeeds =>
    rw [plain_eq, ← endsPlain.ok_iff]
    cases result with
    | ok done => exact iff_of_true rfl rfl
    | error reason => exact iff_of_false nofun nofun
  case plainOnce =>
    have areCalls : ∀ action ∈ plainCalls.take made, action.isCall = true := fun action member =>
      duty.isCall_of_mem_calls kind _ (List.mem_of_mem_take member)
    rw [plain_eq, List.count_append, count_eq_zero_of_calls areCalls rfl]
    rfl
  case gatedOnce =>
    have areCalls : ∀ action ∈ gatedCalls.take made, action.isCall = true := fun action member =>
      duty.isCall_of_mem_calls kind _ (List.mem_of_mem_take member)
    by_cases answered : arrives
    case pos =>
      obtain ⟨late, calls_eq, gated_eq⟩ := reached answered
      rw [show gated.2 = _ from gated_eq]
      exact counts_of_arrive (calls_eq ▸ areCalls)
    case neg =>
      rw [show gated.2 = _ from missed answered]
      exact counts_of_release areCalls

/-- A worker that breaks off in the first operation behind its warm-up. -/
example :
    (warmupRoutine (journaling .run fun number => if number = 2 then .error .panicked else .ok ())
      ⟨2, true, true, true⟩ 1).run [] =
        (.error .panicked,
          [.init, .throttle, .operate (.transaction true), .arrive, .throttle,
            .operate (.transaction false), .countDown]) := by
  rfl

end

end StoreBench.Phase
