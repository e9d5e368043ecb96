import StoreBench.Phase.Callers
import StoreBench.Proofs.Latency.OrderIndependence
import StoreBench.Proofs.Scheduling

/-!
Contract: what callers that share a store, a tracker and a meter leave behind.

The history of a schedule notes the readings of the clock, the replies, the claims and the returns.
A step of one caller does to the state what it adds to the history.  What others do in between
changes nothing of that, because it does not matter in which order calls are filed.

Owns:
- `Callers.notesAlong`, the history of a schedule;
- `Caller.Accounts`, what a step of one caller does, and `Callers.Accounted`, the invariant of all
  callers with their history;
- that nothing holds up a caller, and that a caller whom nobody interrupts makes its call as
  `Timed.call` does.

Does not own: what the calls add up to.
-/

namespace StoreBench.Phase

open Latency

/-! ## Histories -/

/-- A call of a caller and the reply of the store. -/
structure Exchange where
  caller : Nat
  request : Request
  reply : Store.Reply

def Exchange.answer? (exchange : Exchange) : Option Answer :=
  match exchange.reply.outcome with
  | .ok status => some ⟨exchange.request, status, exchange.reply.fields, exchange.reply.rows⟩
  | .error _ => none

/-- An entry in the history: a caller has read the clock, the store has served a call, a caller has
claimed a number, or the reply has come back to the caller. -/
inductive CallNote
  | read (caller : Nat) (now : UInt64)
  | served (exchange : Exchange)
  | claimed (caller : Nat) (call : TimedCall)
  | returned (exchange : Exchange)

namespace CallNote

def caller : CallNote → Nat
  | .read caller _ | .claimed caller _ => caller
  | .served exchange | .returned exchange => exchange.caller

def served? : CallNote → Option Exchange
  | .served exchange => some exchange
  | _ => none

def claimed? : CallNote → Option TimedCall
  | .claimed _ call => some call
  | _ => none

end CallNote

/-- The calls that were served. -/
def served (history : List CallNote) : List Exchange := history.filterMap CallNote.served?

/-- The calls that have claimed a number, in the order of their numbers. -/
def claimed (history : List CallNote) : List TimedCall := history.filterMap CallNote.claimed?

def historyOf (caller : Nat) (history : List CallNote) : List CallNote :=
  history.filter (·.caller = caller)

/-- A call that is over. -/
inductive FinishedCall
  | failed (request : Request) (fault : Failure) (fields : Store.Row) (rows : List Store.Row)
    (before : UInt64)
  | answered (call : TimedCall)

namespace FinishedCall

def request : FinishedCall → Request
  | .failed request .. => request
  | .answered call => call.request

def reply : FinishedCall → Store.Reply
  | .failed _ fault fields rows _ => ⟨.error fault, fields, rows⟩
  | .answered call => call.reply

/-- What a caller has done for the call: the clock is read on both sides of it, and the reply comes
back as it is. -/
def notes (caller : Nat) (call : FinishedCall) : List CallNote :=
  let exchange := ⟨caller, call.request, call.reply⟩
  match call with
  | .failed _ _ _ _ before => [.read caller before, .served exchange, .returned exchange]
  | .answered call =>
    [.read caller call.before, .served exchange, .read caller call.after, .claimed caller call,
      .returned exchange]

end FinishedCall

/-- The calls without a meter around them, one after the other. -/
def serveAll {σ : Type} (clients : Store.Clients σ) :
    List Request → σ → List Store.Reply × σ
  | [], world => ([], world)
  | request :: later, world =>
    let served := clients.call request.client request.call world
    let rest := serveAll clients later served.2
    (served.1 :: rest.1, rest.2)

/-- What is filed of calls that have claimed their numbers in this order: the first ones as warm-up,
all later ones with their latencies. -/
def eventsOf (target : UInt64) (claims : List TimedCall) : List Event :=
  (claims.take target.toNat).map (fun call => .warmup call.slot) ++
    (claims.drop target.toNat).map fun call => .measured call.slot call.elapsed

def TimedCall.event (call : TimedCall) (warmup : Bool) : Event :=
  if warmup then .warmup call.slot else .measured call.slot call.elapsed

variable {α σ : Type} {clients : Store.Clients σ}

namespace Caller

/-- What the next step of a caller adds to the history. -/
def notes (clients : Store.Clients σ) (index : Nat) (now : UInt64) (world : σ) :
    Caller → List CallNote
  | .asking request _ =>
    let exchange := ⟨index, request, (clients.call request.client request.call world).1⟩
    if exchange.answer?.isSome then [.served exchange] else [.served exchange, .returned exchange]
  | .answered _ _ => [.read index now]
  | .timed call => [.claimed index call]
  | .filing call _ => [.returned ⟨index, call.request, call.reply⟩]
  | .idle => []

/-- What a caller has done for the call that it is making. -/
def pending (index : Nat) : Caller → List CallNote
  | .idle => []
  | .asking _ before => [.read index before]
  | .answered answer before =>
    [.read index before, .served ⟨index, answer.request, answer.reply⟩]
  | .timed call =>
    [.read index call.before, .served ⟨index, call.request, call.reply⟩, .read index call.after]
  | .filing call _ =>
    [.read index call.before, .served ⟨index, call.request, call.reply⟩, .read index call.after,
      .claimed index call]

/-- The answer that waits for its number. -/
def unclaimed : Caller → List Answer
  | .answered answer _ => [answer]
  | .timed call => [call.toAnswer]
  | .idle | .asking _ _ | .filing _ _ => []

/-- What is still to be filed. -/
def due : Caller → List Event
  | .filing call warmup => [call.event warmup]
  | .idle | .asking _ _ | .answered _ _ | .timed _ => []

end Caller

namespace Callers

def notes (clients : Store.Clients σ) : CallerMove → Callers α σ → List CallNote
  | .begin index _ now, _ => [.read index now]
  | .proceed index now, state =>
    (state.callers[index]?).elim [] (·.notes clients index now state.timed.world)

def notesAlong [Aggregate α] (clients : Store.Clients σ) (moves : List CallerMove)
    (state : Callers α σ) : List CallNote :=
  noteAlong (step clients) (notes clients) moves state

end Callers

/-! ## Lists -/

theorem served_append (history more : List CallNote) :
    served (history ++ more) = served history ++ served more := List.filterMap_append

theorem claimed_append (history more : List CallNote) :
    claimed (history ++ more) = claimed history ++ claimed more := List.filterMap_append

theorem historyOf_append (caller : Nat) (history more : List CallNote) :
    historyOf caller (history ++ more) = historyOf caller history ++ historyOf caller more :=
  List.filter_append ..

theorem historyOf_self {caller : Nat} {notes : List CallNote}
    (own : ∀ note ∈ notes, note.caller = caller) : historyOf caller notes = notes :=
  List.filter_eq_self.2 fun note member => decide_eq_true (own note member)

theorem historyOf_of_ne {caller other : Nat} {notes : List CallNote} (different : caller ≠ other)
    (own : ∀ note ∈ notes, note.caller = caller) : historyOf other notes = [] :=
  List.filter_eq_nil_iff.2 fun note member same =>
    different ((own note member).symm.trans (of_decide_eq_true same))

theorem serveAll_append (first second : List Request) (world : σ) :
    serveAll clients (first ++ second) world =
      let before := serveAll clients first world
      let after := serveAll clients second before.2
      (before.1 ++ after.1, after.2) := by
  induction first generalizing world with
  | nil => rfl
  | cons request later inductionHypothesis =>
    rw [List.cons_append, serveAll, inductionHypothesis]
    rfl

theorem eventsOf_concat (target : UInt64) (claims : List TimedCall) (call : TimedCall) :
    eventsOf target (claims ++ [call]) =
      eventsOf target claims ++ [call.event (claims.length < target.toNat)] := by
  obtain early | late := Nat.lt_or_ge claims.length target.toNat
  case inl =>
    have short : (claims ++ [call]).length ≤ target.toNat := by
      rw [List.length_append]
      exact early
    rw [eventsOf, eventsOf, List.take_of_length_le short, List.drop_of_length_le short,
      List.take_of_length_le (Nat.le_of_lt early), List.drop_of_length_le (Nat.le_of_lt early),
      TimedCall.event, decide_eq_true early]
    simp
  case inr =>
    rw [eventsOf, eventsOf, List.take_append_of_le_length late, List.drop_append_of_le_length late,
      TimedCall.event, decide_eq_false (Nat.not_lt_of_le late)]
    simp

theorem event_isCall (call : TimedCall) (warmup : Bool) : (call.event warmup).IsCall := by
  cases warmup <;> trivial

theorem isCall_of_mem_eventsOf {target : UInt64} {claims : List TimedCall} {event : Event}
    (member : event ∈ eventsOf target claims) : event.IsCall := by
  rw [eventsOf, List.mem_append, List.mem_map, List.mem_map] at member
  obtain ⟨call, -, rfl⟩ | ⟨call, -, rfl⟩ := member <;> trivial

theorem Caller.isCall_of_mem_due {caller : Caller} {event : Event} (member : event ∈ caller.due) :
    event.IsCall := by
  cases caller with
  | filing call warmup =>
    cases List.mem_singleton.1 member
    exact event_isCall call warmup
  | idle | asking | answered | timed => cases member

/-! ## The step of one caller -/

/-- The tracker behind so many claims. -/
def Tracker.behind (target : UInt64) (claims : Nat) : Tracker :=
  ⟨if 0 < target then claims else 0, target⟩

theorem Tracker.claim_behind (target : UInt64) (claims : Nat) :
    (behind target claims).claim =
      (decide (claims < target.toNat), behind target (claims + 1)) := by
  by_cases expects : 0 < target
  · simp [claim, behind, expects]
  · have none : target.toNat = 0 := by
      rw [UInt64.lt_iff_toNat_lt] at expects
      exact Nat.eq_zero_of_not_pos expects
    simp [claim, behind, expects, none]

/-- A step of a caller does what it adds to the history: to the store, to the call that it makes, to
the numbers, and to what is filed and still to be filed. -/
structure Caller.Accounts [Aggregate α] (clients : Store.Clients σ) (target : UInt64) (index : Nat)
    (caller : Caller) (timed : Timed α σ) (notes : List CallNote) (next : Caller)
    (after : Timed α σ) : Prop where
  world : serveAll clients ((served notes).map Exchange.request) timed.world =
    ((served notes).map Exchange.reply, after.world)
  own : ∀ note ∈ notes, note.caller = index
  goesOn : ∃ finished : List FinishedCall,
    caller.pending index ++ notes = finished.flatMap (·.notes index) ++ next.pending index
  claims : caller.unclaimed ++ (served notes).filterMap Exchange.answer? =
    (claimed notes).map TimedCall.toAnswer ++ next.unclaimed
  numbers : ∀ before : List TimedCall, timed.tracker = .behind target before.length →
    after.tracker = .behind target (before ++ claimed notes).length ∧
      ∃ events, eventsOf target (before ++ claimed notes) = eventsOf target before ++ events ∧
        after.meter.applyAll next.due = (timed.meter.applyAll caller.due).applyAll events

section
variable [Aggregate α] {target : UInt64} {index : Nat} {caller next : Caller}
  {timed after : Timed α σ}

theorem Caller.accounts_of_claimed_eq_nil {notes : List CallNote} (none : claimed notes = [])
    (world : serveAll clients ((served notes).map Exchange.request) timed.world =
      ((served notes).map Exchange.reply, after.world))
    (own : ∀ note ∈ notes, note.caller = index)
    (finished : List FinishedCall)
    (goesOn : caller.pending index ++ notes =
      finished.flatMap (·.notes index) ++ next.pending index)
    (claims : caller.unclaimed ++ (served notes).filterMap Exchange.answer? = next.unclaimed)
    (tracker : after.tracker = timed.tracker)
    (meter : after.meter.applyAll next.due = timed.meter.applyAll caller.due) :
    Caller.Accounts clients target index caller timed notes next after where
  world := world
  own := own
  goesOn := ⟨finished, goesOn⟩
  claims := by rw [none, claims]; rfl
  numbers := fun before behind => by
    rw [none, List.append_nil]
    exact ⟨tracker.trans behind, [], (List.append_nil _).symm, meter⟩

theorem Caller.accounts_begin (request : Request) (now : UInt64) :
    Caller.Accounts clients target index .idle timed [.read index now] (.asking request now)
      timed :=
  accounts_of_claimed_eq_nil rfl rfl (by simp [CallNote.caller]) [] rfl rfl rfl rfl

theorem Caller.accounts_advance? {now : UInt64}
    (advances : caller.advance? clients now timed = some (next, after)) :
    Caller.Accounts clients target index caller timed (caller.notes clients index now timed.world)
      next after := by
  cases caller with
  | idle => cases advances
  | asking request before =>
    rw [advance?] at advances
    rcases serves : clients.call request.client request.call timed.world with
      ⟨⟨outcome, fields, rows⟩, world⟩
    rw [serves] at advances
    rw [notes, serves]
    have world_eq := congrArg (fun served => ([served.1], served.2)) serves
    cases outcome with
    | error fault =>
      cases advances
      exact accounts_of_claimed_eq_nil rfl world_eq (by simp [Exchange.answer?, CallNote.caller])
        [.failed request fault fields rows before] rfl rfl rfl rfl
    | ok status =>
      cases advances
      exact accounts_of_claimed_eq_nil rfl world_eq (by simp [Exchange.answer?, CallNote.caller])
        [] rfl rfl rfl rfl
  | answered answer before =>
    cases advances
    exact accounts_of_claimed_eq_nil rfl rfl (by simp [notes, CallNote.caller]) [] rfl rfl rfl rfl
  | timed call =>
    rw [advance?] at advances
    rcases claims : timed.tracker.claim with ⟨warmup, tracker⟩
    rw [claims] at advances
    cases advances
    refine ⟨rfl, by simp [notes, CallNote.caller], ⟨[], rfl⟩, rfl, fun before behind => ?_⟩
    rw [behind, Tracker.claim_behind] at claims
    cases claims
    refine ⟨?_, _, eventsOf_concat target before call, rfl⟩
    rw [List.length_append]
    rfl
  | filing call warmup =>
    cases advances
    refine accounts_of_claimed_eq_nil rfl rfl (by simp [notes, CallNote.caller]) [.answered call]
      rfl rfl rfl ?_
    cases warmup <;> rfl

end

/-! ## Accounts -/

namespace Callers

/-- The store, the tracker and the meter are as the history says, but for what is still to be filed.
Every caller has finished its calls one after the other, but for the one that it is making. -/
structure Accounted [Aggregate α] (clients : Store.Clients σ) (world : σ) (target : UInt64)
    (meter : Meter α) (history : List CallNote) (state : Callers α σ) : Prop where
  world : serveAll clients ((served history).map Exchange.request) world =
    ((served history).map Exchange.reply, state.timed.world)
  goesOn : ∀ index, ∃ finished : List FinishedCall,
    historyOf index history =
      finished.flatMap (·.notes index) ++ (state.callers[index]?).elim [] (Caller.pending index)
  claims : ((served history).filterMap Exchange.answer?).Perm
    ((claimed history).map TimedCall.toAnswer ++ state.callers.flatMap Caller.unclaimed)
  tracker : state.timed.tracker = .behind target (claimed history).length
  meter : state.timed.meter.applyAll (state.callers.flatMap Caller.due) =
    meter.applyAll (eventsOf target (claimed history))

variable [Aggregate α] {world : σ} {target : UInt64} {meter : Meter α} {history : List CallNote}
  {state after : Callers α σ}

theorem flatMap_replicate_idle {β : Type} (count : Nat) (part : Caller → List β)
    (nothing : part .idle = []) : (List.replicate count Caller.idle).flatMap part = [] :=
  List.flatMap_eq_nil_iff.2 fun caller member => by rw [List.eq_of_mem_replicate member, nothing]

theorem accounted_opening (count : Nat) :
    Accounted clients world target meter [] (opening world target meter count) where
  world := rfl
  goesOn := fun index => by
    rw [opening, List.getElem?_replicate]
    exact ⟨[], by split <;> rfl⟩
  claims := by
    rw [opening, flatMap_replicate_idle count _ rfl]
    rfl
  tracker := by
    rw [Tracker.behind]
    split <;> rfl
  meter := by
    rw [opening, flatMap_replicate_idle count _ rfl]
    simp [claimed, eventsOf]

theorem isCall_of_mem_flatMap_due {callers : List Caller} {event : Event}
    (member : event ∈ callers.flatMap Caller.due) : event.IsCall := by
  obtain ⟨caller, -, inside⟩ := List.mem_flatMap.1 member
  exact Caller.isCall_of_mem_due inside

/-- It does not matter when the call of one caller is filed. -/
theorem applyAll_flatMap_due [Aggregate.Commutes α] (meter : Meter α) (front rear : List Caller)
    (caller : Caller) :
    meter.applyAll ((front ++ caller :: rear).flatMap Caller.due) =
      (meter.applyAll caller.due).applyAll ((front ++ rear).flatMap Caller.due) := by
  rw [← Meter.applyAll_append]
  refine Meter.applyAll_eq_of_perm ?_ (fun event => isCall_of_mem_flatMap_due) meter
  rw [List.flatMap_append, List.flatMap_cons, List.flatMap_append]
  exact List.perm_append_comm_assoc ..

theorem Accounted.set [Aggregate.Commutes α] {timed next : Timed α σ} {callers : List Caller}
    {index : Nat} {caller later : Caller} {notes : List CallNote}
    (accounted : Accounted clients world target meter history ⟨timed, callers⟩)
    (found : callers[index]? = some caller)
    (step : Caller.Accounts clients target index caller timed notes later next) :
    Accounted clients world target meter (history ++ notes) ⟨next, callers.set index later⟩ := by
  obtain ⟨front, rear, rfl, replaced⟩ := exists_split found
  obtain ⟨numbered, events, filed, meter_eq⟩ := step.numbers _ accounted.tracker
  constructor
  case world =>
    rw [served_append, List.map_append, List.map_append, serveAll_append, accounted.world]
    exact congrArg (fun served => (_ ++ served.1, served.2)) step.world
  case goesOn =>
    intro other
    obtain ⟨finished, before⟩ := accounted.goesOn other
    rw [historyOf_append, before]
    by_cases here : index = other
    case pos =>
      subst here
      obtain ⟨more, continued⟩ := step.goesOn
      have inside := (List.getElem?_eq_some_iff.1 found).1
      refine ⟨finished ++ more, ?_⟩
      rw [historyOf_self step.own, found, List.getElem?_set_self inside, Option.elim_some,
        Option.elim_some, List.append_assoc, continued, List.flatMap_append, List.append_assoc]
    case neg =>
      refine ⟨finished, ?_⟩
      rw [historyOf_of_ne here step.own, List.getElem?_set_ne here, List.append_nil]
  case claims =>
    rw [served_append, claimed_append, List.filterMap_append, List.map_append, replaced]
    -- the answers of the other callers are on both sides, so that counting does it
    refine List.perm_iff_count.2 fun answer => ?_
    have before := (List.perm_iff_count.1 accounted.claims) answer
    have added := congrArg (List.count answer) step.claims
    simp only [List.flatMap_append, List.flatMap_cons, List.count_append] at before added ⊢
    omega
  case tracker => rw [claimed_append, numbered]
  case meter =>
    -- what the others have still to file comes before the new calls in one order and behind them in
    -- the other
    have before := accounted.meter
    rw [applyAll_flatMap_due] at before
    have onlyCalls : ∀ event ∈ (front ++ rear).flatMap Caller.due ++ events, event.IsCall := by
      intro event member
      rcases List.mem_append.1 member with isDue | isNew
      · exact isCall_of_mem_flatMap_due isDue
      · exact isCall_of_mem_eventsOf (filed ▸ List.mem_append_right _ isNew)
    have filing := Meter.applyAll_eq_of_perm List.perm_append_comm onlyCalls
      (timed.meter.applyAll caller.due)
    rw [Meter.applyAll_append, Meter.applyAll_append] at filing
    rw [replaced, claimed_append, filed, Meter.applyAll_append, ← before, applyAll_flatMap_due,
      meter_eq]
    exact filing.symm

theorem Accounted.step [Aggregate.Commutes α] {move : CallerMove}
    (accounted : Accounted clients world target meter history state)
    (fires : Callers.step clients move state = some after) :
    Accounted clients world target meter (history ++ notes clients move state) after := by
  obtain ⟨timed, callers⟩ := state
  cases move with
  | begin index request now =>
    rw [Callers.step] at fires
    split at fires
    · next found =>
      cases fires
      exact accounted.set found (Caller.accounts_begin request now)
    · cases fires
  | proceed index now =>
    obtain ⟨caller, found, rest⟩ := Option.bind_eq_some_iff.1 fires
    obtain ⟨⟨later, next⟩, advances, same⟩ := Option.bind_eq_some_iff.1 rest
    cases same
    rw [notes, found]
    exact accounted.set found (Caller.accounts_advance? advances)

theorem Accounted.of_follow [Aggregate.Commutes α] {count : Nat} {moves : List CallerMove}
    (followed : follow (Callers.step clients) moves (opening world target meter count) =
      some state) :
    Accounted clients world target meter
      ((opening world target meter count).notesAlong clients moves) state :=
  noteAlong_invariant followed (accounted_opening count) fun accounted fires =>
    accounted.step fires

/-! ## Quiet callers -/

omit [Aggregate α] in
theorem flatMap_eq_nil_of_isQuiet {β : Type} {part : Caller → List β} (quiet : state.isQuiet = true)
    (nothing : part .idle = []) : state.callers.flatMap part = [] := by
  refine List.flatMap_eq_nil_iff.2 fun caller member => ?_
  have idle : caller = .idle := of_decide_eq_true (List.all_eq_true.1 quiet caller member)
  rw [idle, nothing]

omit [Aggregate α] in
theorem pending_eq_nil_of_isQuiet (quiet : state.isQuiet = true) (index : Nat) :
    (state.callers[index]?).elim [] (Caller.pending index) = [] := by
  cases found : state.callers[index]? with
  | none => rfl
  | some caller =>
    have idle : caller = .idle :=
      of_decide_eq_true (List.all_eq_true.1 quiet caller (List.mem_of_getElem? found))
    rw [idle]
    rfl

end Callers

/-- How many steps of its call a caller has not made. -/
def Caller.left : Caller → Nat
  | .idle => 0
  | .filing _ _ => 1
  | .timed _ => 2
  | .answered _ _ => 3
  | .asking _ _ => 4

/-- Nothing holds up a caller. -/
theorem Caller.exists_advance? [Aggregate α] (clients : Store.Clients σ) (now : UInt64)
    (timed : Timed α σ) {caller : Caller} (busy : caller ≠ .idle) :
    ∃ next after, caller.advance? clients now timed = some (next, after) ∧
      next.left < caller.left := by
  cases caller with
  | idle => exact absurd rfl busy
  | asking request before =>
    rw [advance?]
    rcases clients.call request.client request.call timed.world with
      ⟨⟨_ | _, fields, rows⟩, world⟩
    · exact ⟨_, _, rfl, by simp [left]⟩
    · exact ⟨_, _, rfl, by simp [left]⟩
  | answered answer before => exact ⟨_, _, rfl, by simp [left]⟩
  | timed call => exact ⟨_, _, rfl, by simp [left]⟩
  | filing call warmup => exact ⟨_, _, rfl, by simp [left]⟩

namespace Callers

variable [Aggregate α]

/-- All calls under way can be brought to an end. -/
theorem exists_quiet (clients : Store.Clients σ) (state : Callers α σ) :
    ∃ moves quiet, follow (step clients) moves state = some quiet ∧ quiet.isQuiet = true := by
  generalize measure_eq : total (state.callers.map Caller.left) = measure
  induction measure using Nat.strongRecOn generalizing state with
  | ind measure inductionHypothesis =>
    -- one busy caller moves, and the clock may stand still
    by_cases quiet : state.isQuiet = true
    case pos => exact ⟨[], state, rfl, quiet⟩
    case neg =>
      obtain ⟨caller, member, busy⟩ : ∃ caller ∈ state.callers, caller ≠ .idle := by
        simpa [isQuiet] using quiet
      obtain ⟨index, found⟩ := List.mem_iff_getElem?.1 member
      obtain ⟨next, after, advances, less⟩ := Caller.exists_advance? clients 0 state.timed busy
      have moves : step clients (.proceed index 0) state =
          some ⟨after, state.callers.set index next⟩ := by
        simp [step, found, advances]
      have sum := total_map_set Caller.left found next
      obtain ⟨later, final, followed, ended⟩ := inductionHypothesis
        (total ((state.callers.set index next).map Caller.left)) (by omega)
        ⟨after, state.callers.set index next⟩ rfl
      exact ⟨.proceed index 0 :: later, final, by rw [follow, moves]; exact followed, ended⟩

section
variable {timed after : Timed α σ} {callers : List Caller} {index : Nat} {caller next : Caller}
  {now : UInt64}

theorem follow_begin (idle : callers[index]? = some .idle) (request : Request)
    (later : List CallerMove) :
    follow (step clients) (.begin index request now :: later) ⟨timed, callers⟩ =
      follow (step clients) later ⟨timed, callers.set index (.asking request now)⟩ := by
  rw [follow, step, idle]
  rfl

theorem notesAlong_begin (idle : callers[index]? = some .idle) (request : Request)
    (later : List CallerMove) :
    notesAlong clients (.begin index request now :: later) ⟨timed, callers⟩ =
      .read index now ::
        notesAlong clients later ⟨timed, callers.set index (.asking request now)⟩ := by
  rw [notesAlong, noteAlong, step, idle]
  rfl

theorem step_proceed (inside : index < callers.length)
    (advances : caller.advance? clients now timed = some (next, after)) :
    step clients (.proceed index now) ⟨timed, callers.set index caller⟩ =
      some ⟨after, callers.set index next⟩ := by
  rw [step, List.getElem?_set_self inside]
  show (caller.advance? clients now timed).bind _ = _
  rw [advances]
  exact congrArg (fun callers => some (Callers.mk after callers)) (List.set_set ..)

theorem follow_proceed (inside : index < callers.length)
    (advances : caller.advance? clients now timed = some (next, after)) (later : List CallerMove) :
    follow (step clients) (.proceed index now :: later) ⟨timed, callers.set index caller⟩ =
      follow (step clients) later ⟨after, callers.set index next⟩ := by
  rw [follow, step_proceed inside advances]
  rfl

theorem notesAlong_proceed (inside : index < callers.length)
    (advances : caller.advance? clients now timed = some (next, after)) (later : List CallerMove) :
    notesAlong clients (.proceed index now :: later) ⟨timed, callers.set index caller⟩ =
      caller.notes clients index now timed.world ++
        notesAlong clients later ⟨after, callers.set index next⟩ := by
  rw [notesAlong, noteAlong, step_proceed inside advances, notes, List.getElem?_set_self inside]
  rfl

end

/-- A caller that nobody interrupts makes its call as `Timed.call` does. -/
theorem follow_call {state : Callers α σ} {index : Nat} (idle : state.callers[index]? = some .idle)
    (clock : σ → UInt64) (request : Request) :
    let made := Timed.call clients clock request.client request.call state.timed
    ∃ moves finished, follow (step clients) moves state = some { state with timed := made.2 } ∧
      notesAlong clients moves state = FinishedCall.notes index finished ∧
      finished.request = request ∧ finished.reply = made.1 := by
  intro made
  obtain ⟨timed, callers⟩ := state
  have inside : index < callers.length := (List.getElem?_eq_some_iff.1 idle).1
  have same : callers.set index .idle = callers := by
    rw [← (List.getElem?_eq_some_iff.1 idle).2]
    exact List.set_getElem_self inside
  have made_eq : made = Timed.call clients clock request.client request.call timed := rfl
  rw [Timed.call] at made_eq
  let before := clock timed.world
  rcases serves : clients.call request.client request.call timed.world with
    ⟨⟨outcome, fields, rows⟩, world⟩
  rw [serves] at made_eq
  let now := clock world
  cases outcome with
  | error fault =>
    have asks : (Caller.asking request before).advance? clients now timed =
        some (.idle, { timed with world }) := by
      rw [Caller.advance?, serves]
    refine ⟨[.begin index request before, .proceed index now],
      .failed request fault fields rows before, ?_, ?_, rfl, ?_⟩
    · rw [follow_begin idle, follow_proceed inside asks, same, made_eq]
      rfl
    · rw [notesAlong_begin idle, notesAlong_proceed inside asks, Caller.notes, serves]
      rfl
    · rw [made_eq]
      rfl
  | ok status =>
    rcases claims : timed.tracker.claim with ⟨warmup, tracker⟩
    rw [claims] at made_eq
    let call : TimedCall := ⟨⟨request, status, fields, rows⟩, before, now⟩
    have asks : (Caller.asking request before).advance? clients now timed =
        some (.answered call.toAnswer before, { timed with world }) := by
      rw [Caller.advance?, serves]
    have numbers : (Caller.timed call).advance? clients now { timed with world } =
        some (.filing call warmup, { timed with world, tracker }) := by
      rw [Caller.advance?, claims]
    refine ⟨[.begin index request before, .proceed index now, .proceed index now,
      .proceed index now, .proceed index now], .answered call, ?_, ?_, rfl, ?_⟩
    · rw [follow_begin idle, follow_proceed inside asks, follow_proceed inside rfl,
        follow_proceed inside numbers, follow_proceed inside rfl, same, made_eq]
      rfl
    · rw [notesAlong_begin idle, notesAlong_proceed inside asks, notesAlong_proceed inside rfl,
        notesAlong_proceed inside numbers, notesAlong_proceed inside rfl, Caller.notes, serves]
      rfl
    · rw [made_eq]
      rfl

end Callers

end StoreBench.Phase
