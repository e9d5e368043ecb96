import Mathlib.Data.List.Basic
import StoreBench.Mix.Workload
import StoreBench.Phase.Routine

/-!
Contract: what a worker has to do, and how far it gets with it.

The answers to what is asked are given in advance, as one sequence.  So an agenda, which is a list
of actions, is carried out up to the first action that is answered with a stop.

Owns:
- `Action` and `carryOut`;
- `Duty.calls`, the agenda of a worker, and where it is cut for the arrival at the gate;
- `Ends`, how far an agenda is carried out and with which result.

Does not own: that the routines carry out these agendas.
-/

namespace StoreBench.Phase

/-! ## Actions -/

/-- What a worker does. -/
inductive Action
  | init
  | throttle
  | operate (step : Mix.Step)
  | cleanup
  | arrive
  | release
  | countDown
  deriving DecidableEq, Repr

namespace Action

/-- Whether the store or the workload answers. -/
def asks : Action → Bool
  | .init | .operate _ | .cleanup => true
  | .throttle | .arrive | .release | .countDown => false

/-- Whether the store, the workload or the rate limiter is called. -/
def isCall : Action → Bool
  | .init | .operate _ | .cleanup | .throttle => true
  | .arrive | .release | .countDown => false

end Action

/-- How many answers were given. -/
def asked (journal : List Action) : Nat := journal.countP Action.asks

/-- The step of the workload that is asked for in an iteration. -/
def Kind.step : Kind → Bool → Mix.Step
  | .load, _ => .load
  | .run, warmup => .transaction warmup

/-- What is asked of the workload, regardless of a warm-up. -/
def Action.plain : Action → Action
  | .operate (.transaction _) => .operate (.transaction false)
  | action => action

theorem Action.asks_plain (action : Action) : action.plain.asks = action.asks := by
  rcases action with _ | _ | (_ | _) | _ | _ | _ | _ <;> rfl

theorem Action.isCall_of_asks {action : Action} (asks : action.asks = true) :
    action.isCall = true := by
  cases action <;> first | rfl | cases asks

theorem asked_map_plain (agenda : List Action) :
    asked (agenda.map Action.plain) = asked agenda := by
  rw [asked, List.countP_map]
  exact List.countP_congr fun action _ => by rw [Function.comp_apply, Action.asks_plain]

theorem asked_filter_isCall (agenda : List Action) :
    asked (agenda.filter Action.isCall) = asked agenda := by
  rw [asked, List.countP_filter]
  refine List.countP_congr fun action _ => ?_
  simpa using Action.isCall_of_asks

/-! ## Agendas -/

namespace Duty

variable (duty : Duty) (kind : Kind) (isWarmup : Nat → Bool)

def iteration (number : Nat) : List Action :=
  (if duty.limited then [.throttle] else []) ++ [.operate (kind.step (isWarmup number))]

/-- The calls before an iteration. -/
def callsBefore (number : Nat) : List Action :=
  (if duty.opens then [.init] else []) ++ (List.range number).flatMap (duty.iteration kind isWarmup)

/-- The calls from an iteration on. -/
def callsFrom (number : Nat) : List Action :=
  (List.range' number (duty.operations.toNat - number)).flatMap (duty.iteration kind isWarmup) ++
    if duty.closes then [.cleanup] else []

def calls : List Action :=
  duty.callsBefore kind isWarmup duty.operations.toNat ++ if duty.closes then [.cleanup] else []

/-- The arrival at the gate, if it is due, and the calls of an iteration. -/
def gatedIteration (warmup number : Nat) : List Action :=
  (if number = warmup then [.arrive] else []) ++ duty.iteration kind (· < warmup) number

theorem isCall_of_mem_iteration {number : Nat} {action : Action}
    (member : action ∈ duty.iteration kind isWarmup number) : action.isCall = true := by
  rw [iteration, List.mem_append, List.mem_ite_nil_right, List.mem_singleton, List.mem_singleton]
    at member
  obtain ⟨-, rfl⟩ | rfl := member <;> rfl

theorem isCall_of_mem_calls {action : Action} (member : action ∈ duty.calls kind isWarmup) :
    action.isCall = true := by
  rw [calls, callsBefore, List.mem_append, List.mem_append, List.mem_flatMap,
    List.mem_ite_nil_right, List.mem_ite_nil_right, List.mem_singleton, List.mem_singleton]
    at member
  obtain (⟨-, rfl⟩ | ⟨number, -, within⟩) | ⟨-, rfl⟩ := member
  · rfl
  · exact duty.isCall_of_mem_iteration kind isWarmup within
  · rfl

theorem flatMap_gatedIteration_of_ne {warmup : Nat} {numbers : List Nat}
    (others : warmup ∉ numbers) :
    numbers.flatMap (duty.gatedIteration kind warmup) =
      numbers.flatMap (duty.iteration kind (· < warmup)) := by
  refine List.flatMap_congr fun number member => ?_
  rw [gatedIteration, if_neg (ne_of_mem_of_not_mem member others), List.nil_append]

theorem callsBefore_append_callsFrom {number : Nat} (within : number ≤ duty.operations.toNat) :
    duty.callsBefore kind isWarmup number ++ duty.callsFrom kind isWarmup number =
      duty.calls kind isWarmup := by
  have joined : List.range number ++ List.range' number (duty.operations.toNat - number) =
      List.range duty.operations.toNat := by
    rw [List.range_eq_range', List.range_eq_range', ← Nat.add_sub_of_le within,
      Nat.add_sub_cancel_left, ← List.range'_append_1, Nat.zero_add]
  rw [calls, callsBefore, callsBefore, callsFrom, ← joined, List.flatMap_append]
  simp only [List.append_assoc]

theorem map_plain_calls :
    (duty.calls kind isWarmup).map Action.plain = duty.calls kind fun _ => false := by
  have iterations (number : Nat) : (duty.iteration kind isWarmup number).map Action.plain =
      duty.iteration kind (fun _ => false) number := by
    rw [iteration, iteration]
    cases duty.limited <;> cases kind <;> rfl
  rw [calls, callsBefore, calls, callsBefore, List.map_append, List.map_append, List.map_flatMap]
  simp only [iterations]
  cases duty.opens <;> cases duty.closes <;> rfl

/-- The arrival is the one at the boundary, else the one behind all operations. -/
theorem flatMap_gatedIteration_append (warmup count : Nat) :
    let iterations := (List.range' 0 count).flatMap (duty.gatedIteration kind warmup)
    iterations ++ (if .arrive ∉ iterations then [.arrive] else []) =
      (List.range (min warmup count)).flatMap (duty.iteration kind (· < warmup)) ++ .arrive ::
        (List.range' (min warmup count) (count - min warmup count)).flatMap
          (duty.iteration kind (· < warmup)) := by
  intro iterations
  obtain reached | short := Nat.lt_or_ge warmup count
  case inl =>
    obtain ⟨left, rfl⟩ := Nat.exists_eq_add_of_lt reached
    -- none of the numbers on either side of the boundary arrives
    have split : iterations =
        (List.range' 0 warmup).flatMap (duty.iteration kind (· < warmup)) ++ .arrive ::
          (List.range' warmup (left + 1)).flatMap (duty.iteration kind (· < warmup)) := by
      have numbers : List.range' 0 (warmup + left + 1) =
          List.range' 0 warmup ++ warmup :: List.range' (warmup + 1) left := by
        rw [Nat.add_assoc, ← List.range'_append_1, Nat.zero_add, List.range'_succ]
      have boundary : duty.gatedIteration kind warmup warmup =
          .arrive :: duty.iteration kind (· < warmup) warmup := by simp [gatedIteration]
      show (List.range' 0 (warmup + left + 1)).flatMap _ = _
      rw [numbers, List.flatMap_append, List.flatMap_cons,
        duty.flatMap_gatedIteration_of_ne kind (by simp),
        duty.flatMap_gatedIteration_of_ne kind (by simp +arith), boundary, List.range'_succ,
        List.flatMap_cons, List.cons_append]
    have arrives : Action.arrive ∈ iterations := by simp [split]
    rw [if_neg (not_not_intro arrives), List.append_nil, split, List.range_eq_range',
      Nat.min_eq_left (by omega), Nat.add_assoc, Nat.add_sub_cancel_left]
  case inr =>
    have same : iterations = (List.range' 0 count).flatMap (duty.iteration kind (· < warmup)) :=
      duty.flatMap_gatedIteration_of_ne kind (by simpa using short)
    have later : .arrive ∉ iterations := by
      rw [same, List.mem_flatMap]
      rintro ⟨number, -, within⟩
      cases duty.isCall_of_mem_iteration kind _ within
    rw [if_pos later, same, List.range_eq_range', Nat.min_eq_right short, Nat.sub_self]
    rfl

end Duty

/-! ## Carrying out an agenda -/

/-- Performs one action after the other, up to the first that is answered with a stop. -/
def carryOut (answers : Nat → Except Stop Unit) :
    List Action → List Action → Except Stop Unit × List Action
  | [], journal => (.ok (), journal)
  | action :: later, journal =>
    match if action.asks then answers (asked journal) else .ok () with
    | .ok () => carryOut answers later (journal ++ [action])
    | .error reason => (.error reason, journal ++ [action])

section
variable {answers : Nat → Except Stop Unit} {first second agenda journal after : List Action}

theorem carryOut_append (first second journal : List Action) :
    carryOut answers (first ++ second) journal =
      match carryOut answers first journal with
      | (.ok (), after) => carryOut answers second after
      | (.error reason, after) => (.error reason, after) := by
  induction first generalizing journal with
  | nil => rfl
  | cons action later inductionHypothesis =>
    rw [List.cons_append, carryOut, carryOut]
    split
    · exact inductionHypothesis _
    · rfl

theorem eq_append_of_carryOut (done : carryOut answers agenda journal = (.ok (), after)) :
    after = journal ++ agenda := by
  induction agenda generalizing journal with
  | nil =>
    cases done
    exact (List.append_nil _).symm
  | cons action later inductionHypothesis =>
    rw [carryOut] at done
    split at done
    · rw [inductionHypothesis done, List.append_assoc, List.singleton_append]
    · cases done

theorem carryOut_map_plain (answers : Nat → Except Stop Unit) (agenda journal : List Action) :
    carryOut answers (agenda.map Action.plain) (journal.map Action.plain) =
      (carryOut answers agenda journal).map id (List.map Action.plain) := by
  induction agenda generalizing journal with
  | nil => rfl
  | cons action later inductionHypothesis =>
    rw [List.map_cons, carryOut, carryOut, Action.asks_plain, asked_map_plain]
    have next := inductionHypothesis (journal ++ [action])
    rw [List.map_append, List.map_singleton] at next
    split
    · exact next
    · simp

theorem carryOut_filter_isCall (answers : Nat → Except Stop Unit) (agenda journal : List Action) :
    carryOut answers (agenda.filter Action.isCall) (journal.filter Action.isCall) =
      (carryOut answers agenda journal).map id (List.filter Action.isCall) := by
  induction agenda generalizing journal with
  | nil => rfl
  | cons action later inductionHypothesis =>
    have next := inductionHypothesis (journal ++ [action])
    cases calls : action.isCall with
    | true =>
      rw [List.filter_append, List.filter_singleton, calls, cond_true] at next
      rw [List.filter_cons_of_pos calls, carryOut, carryOut, asked_filter_isCall]
      split
      · exact next
      · simp [calls]
    | false =>
      have silent : action.asks = false :=
        Bool.eq_false_iff.mpr fun asks => by simp [Action.isCall_of_asks asks] at calls
      rw [List.filter_append, List.filter_singleton, calls, cond_false, List.append_nil] at next
      rw [List.filter_cons_of_neg (by simp [calls]), carryOut, silent]
      exact next

/-! ## Endings -/

/-- Of an agenda, all is made if every answer is a success; else it is made up to the first answer
that is not, which is the result. -/
inductive Ends (answers : Nat → Except Stop Unit) (agenda : List Action) :
    Except Stop Unit → Nat → Prop
  | succeeded (answered : ∀ number < asked agenda, answers number = .ok ()) :
    Ends answers agenda (.ok ()) agenda.length
  | stopped {earlier later : List Action} {last : Action} {reason : Stop}
    (split : agenda = earlier ++ last :: later) (asks : last.asks = true)
    (answered : ∀ number < asked earlier, answers number = .ok ())
    (stop : answers (asked earlier) = .error reason) :
    Ends answers agenda (.error reason) (earlier.length + 1)

theorem asked_append (first second : List Action) :
    asked (first ++ second) = asked first + asked second := List.countP_append

theorem asked_cons (action : Action) (later : List Action) :
    asked (action :: later) = (if action.asks then 1 else 0) + asked later := by
  rw [asked, List.countP_cons, Nat.add_comm]
  rfl

theorem Ends.ok_iff {result : Except Stop Unit} {made : Nat}
    (ends : Ends answers agenda result made) :
    result = .ok () ↔ ∀ number < asked agenda, answers number = .ok () := by
  cases ends with
  | succeeded answered => exact iff_of_true rfl answered
  | @stopped earlier later last reason split asks answered stop =>
    refine iff_of_false nofun fun all => ?_
    have within : asked earlier < asked agenda := by
      rw [split, asked_append, asked_cons, if_pos asks]
      omega
    cases stop.symm.trans (all _ within)

theorem Ends.cons {result : Except Stop Unit} {made : Nat} {action : Action}
    (ok : (if action.asks then answers 0 else .ok ()) = .ok ())
    (ends : Ends (fun number => answers ((if action.asks then 1 else 0) + number)) agenda result
      made) :
    Ends answers (action :: agenda) result (made + 1) := by
  have shift {count : Nat}
      (answered : ∀ number < count, answers ((if action.asks then 1 else 0) + number) = .ok ()) :
      ∀ number < (if action.asks then 1 else 0) + count, answers number = .ok () := by
    intro number less
    cases asks : action.asks with
    | true =>
      cases number with
      | zero => simpa [asks] using ok
      | succ number =>
        rw [Nat.add_comm]
        simpa [asks] using answered number (by simp [asks] at less; omega)
    | false => simpa [asks] using answered number (by simpa [asks] using less)
  cases ends with
  | succeeded answered => exact .succeeded (by rw [asked_cons]; exact shift answered)
  | @stopped earlier later last reason split asks answered stop =>
    have whole : action :: agenda = (action :: earlier) ++ last :: later := by
      rw [split, List.cons_append]
    exact .stopped whole asks (by rw [asked_cons]; exact shift answered)
      (by rw [asked_cons]; exact stop)

theorem ends_of_carryOut {result : Except Stop Unit}
    (done : carryOut answers agenda journal = (result, after)) :
    ∃ made, after = journal ++ agenda.take made ∧
      Ends (fun number => answers (asked journal + number)) agenda result made := by
  induction agenda generalizing journal with
  | nil =>
    cases done
    exact ⟨0, (List.append_nil _).symm, .succeeded nofun⟩
  | cons action later inductionHypothesis =>
    rw [carryOut] at done
    split at done
    case h_1 ok =>
      obtain ⟨made, rfl, ends⟩ := inductionHypothesis done
      refine ⟨made + 1, by simp, .cons ok ?_⟩
      have asked_next : asked (journal ++ [action]) =
          asked journal + if action.asks then 1 else 0 := by rw [asked_append, asked_cons]; rfl
      simpa only [asked_next, Nat.add_assoc] using ends
    case h_2 reason stop =>
      cases done
      cases asks : action.asks with
      | false => simp [asks] at stop
      | true =>
        rw [if_pos asks] at stop
        exact ⟨1, rfl, .stopped (List.nil_append _).symm asks nofun stop⟩

theorem ends_of_carryOut_nil {result : Except Stop Unit}
    (done : carryOut answers agenda [] = (result, after)) :
    ∃ made, after = agenda.take made ∧ Ends answers agenda result made := by
  obtain ⟨made, after_eq, ends⟩ := ends_of_carryOut done
  exact ⟨made, after_eq, by simpa only [show asked [] = 0 from rfl, Nat.zero_add] using ends⟩

theorem carryOut_of_answered (answered : ∀ number < asked agenda, answers number = .ok ()) :
    carryOut answers agenda [] = (.ok (), agenda) := by
  rcases done : carryOut answers agenda [] with ⟨result, after⟩
  obtain ⟨_, _, ends⟩ := ends_of_carryOut_nil done
  obtain rfl := ends.ok_iff.2 answered
  rw [eq_append_of_carryOut done, List.nil_append]

theorem carryOut_of_stopped {earlier : List Action} {last : Action} {reason : Stop}
    (later : List Action) (asks : last.asks = true)
    (answered : ∀ number < asked earlier, answers number = .ok ())
    (stop : answers (asked earlier) = .error reason) :
    carryOut answers (earlier ++ last :: later) [] = (.error reason, earlier ++ [last]) := by
  rw [carryOut_append, carryOut_of_answered answered]
  simp only [carryOut, asks, if_true, stop]

theorem Ends.map_plain {result : Except Stop Unit} {made : Nat}
    (ends : Ends answers agenda result made) :
    Ends answers (agenda.map Action.plain) result made := by
  cases ends with
  | succeeded answered =>
    rw [← agenda.length_map Action.plain]
    exact .succeeded (by rwa [asked_map_plain])
  | @stopped earlier later last reason split asks answered stop =>
    rw [← earlier.length_map Action.plain]
    have splitMap : agenda.map Action.plain =
        earlier.map Action.plain ++ last.plain :: later.map Action.plain := by
      rw [split, List.map_append, List.map_cons]
    refine .stopped splitMap ?_ ?_ ?_
    · rwa [Action.asks_plain]
    · rwa [asked_map_plain]
    · rwa [asked_map_plain]

/-- Either the arrival is reached, between the calls before it and some of those behind it, or one
of the calls before it is answered with a stop and all that is made is calls. -/
theorem carryOut_arrive {early late : List Action} {result : Except Stop Unit}
    (earlyCalls : ∀ action ∈ early, action.isCall = true)
    (done : carryOut answers (early ++ .arrive :: late) [] = (result, after)) :
    (∀ number < asked early, answers number = .ok ()) ∧
        (∃ made, after = early ++ .arrive :: late.take made) ∨
      (¬ ∀ number < asked early, answers number = .ok ()) ∧
        ∀ action ∈ after, action.isCall = true := by
  rw [carryOut_append] at done
  rcases doneEarly : carryOut answers early [] with ⟨stop | ⟨⟨⟩⟩, afterEarly⟩
  all_goals
    rw [doneEarly] at done
    obtain ⟨madeEarly, afterEarly_eq, ends⟩ := ends_of_carryOut_nil doneEarly
  case error =>
    cases done
    refine .inr ⟨fun all => (nomatch ends.ok_iff.mpr all), fun action member => ?_⟩
    rw [afterEarly_eq] at member
    exact earlyCalls action (List.mem_of_mem_take member)
  case ok =>
    have reached : carryOut answers late (early ++ [.arrive]) = (result, after) := by
      rw [← List.nil_append early, ← eq_append_of_carryOut doneEarly]
      exact done
    obtain ⟨made, after_eq, -⟩ := ends_of_carryOut reached
    rw [List.append_assoc, List.singleton_append] at after_eq
    exact .inl ⟨ends.ok_iff.mp rfl, made, after_eq⟩

end

theorem count_eq_zero_of_calls {calls : List Action}
    (areCalls : ∀ action ∈ calls, action.isCall = true) {action : Action}
    (other : action.isCall = false) : calls.count action = 0 :=
  List.count_eq_zero.mpr fun member => by cases other.symm.trans (areCalls action member)

theorem counts_of_arrive {early late : List Action}
    (areCalls : ∀ action ∈ early ++ late, action.isCall = true) :
    let journal := early ++ .arrive :: late ++ [.countDown]
    journal.count .countDown = 1 ∧ journal.count .arrive + journal.count .release = 1 := by
  have none (action : Action) (other : action.isCall = false) :=
    count_eq_zero_of_calls areCalls other
  simp only [List.count_append, Nat.add_eq_zero_iff] at none
  simp [none .countDown rfl, none .arrive rfl, none .release rfl]

theorem counts_of_release {calls : List Action}
    (areCalls : ∀ action ∈ calls, action.isCall = true) :
    let journal := calls ++ [.release, .countDown]
    journal.count .countDown = 1 ∧ journal.count .arrive + journal.count .release = 1 := by
  have none (action : Action) (other : action.isCall = false) :=
    count_eq_zero_of_calls areCalls other
  simp [none .countDown rfl, none .arrive rfl, none .release rfl]

end StoreBench.Phase
