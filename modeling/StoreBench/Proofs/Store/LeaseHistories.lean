import StoreBench.Store.Lease

/-!
Contract: what a lease does over any history of calls.

Acquisitions and releases may come in any order, and the opener may fail whenever it likes.  Two
facts are kept by every call: the thing is open exactly while somebody holds it, and it was opened
by an earlier call of the opener.  The second one tells the openings apart, for the opener is told
its calls apart by their numbers.

Owns:
- `Lease.Call`, `Lease.serve` and `Lease.behind`, histories of a lease, and the cases of one call;
- `Lease.numbered`, an opener whose things can be told apart;
- the holders, the openings and the handles of a lease after any history.

Does not own: what the thing is, and who calls.
-/

namespace StoreBench.Store.Lease

variable {α : Type}

/-! ## One call -/

inductive Call where
  | acquire
  | release
  deriving DecidableEq, Repr

/-- Serves a call, and says whether it succeeded. -/
def serve (opener : Nat → Except Failure α) (lease : Lease α) : Call → Bool × Lease α
  | .acquire => ((lease.acquire opener).1.isOk, (lease.acquire opener).2)
  | .release => (lease.release.1.isOk, lease.release.2)

/-- What a call can do to a lease, and when. -/
inductive Serves (opener : Nat → Except Failure α) (lease : Lease α) :
    Call → Bool → Lease α → Prop
  | shared {handle : α} (isOpen : lease.handle = some handle) :
      Serves opener lease .acquire true { lease with holders := lease.holders + 1 }
  | opened {handle : α} (isClosed : lease.handle = none)
      (opens : opener lease.opens = .ok handle) :
      Serves opener lease .acquire true
        { lease with
          handle := some handle, holders := lease.holders + 1, opens := lease.opens + 1 }
  | refused {fault : Failure} (isClosed : lease.handle = none)
      (refuses : opener lease.opens = .error fault) :
      Serves opener lease .acquire false { lease with opens := lease.opens + 1 }
  | left {others : Nat} (held : lease.holders = others + 2) :
      Serves opener lease .release true { lease with holders := others + 1 }
  | closed (held : lease.holders = 1) :
      Serves opener lease .release true { lease with handle := none, holders := 0 }
  | unmatched (unheld : lease.holders = 0) : Serves opener lease .release false lease

variable {opener : Nat → Except Failure α} {lease after : Lease α} {call : Call}
  {succeeded : Bool}

theorem acquire_of_open {handle : α} (isOpen : lease.handle = some handle)
    (opener : Nat → Except Failure α) :
    lease.acquire opener = (.ok handle, { lease with holders := lease.holders + 1 }) := by
  rw [acquire, isOpen]

theorem acquire_of_opened {handle : α} (isClosed : lease.handle = none)
    (opens : opener lease.opens = .ok handle) :
    lease.acquire opener = (.ok handle, { lease with
      handle := some handle, holders := lease.holders + 1, opens := lease.opens + 1 }) := by
  simp only [acquire, isClosed, opens]

theorem acquire_of_refused {fault : Failure} (isClosed : lease.handle = none)
    (refuses : opener lease.opens = .error fault) :
    lease.acquire opener = (.error fault, { lease with opens := lease.opens + 1 }) := by
  simp only [acquire, isClosed, refuses]

/-- An acquisition of a closed thing is an answer of the opener. -/
theorem acquire_of_closed (isClosed : lease.handle = none) (opener : Nat → Except Failure α) :
    (lease.acquire opener).1 = opener lease.opens ∧
      (lease.acquire opener).2.opens = lease.opens + 1 := by
  cases opens : opener lease.opens with
  | error fault =>
    rw [acquire_of_refused isClosed opens]
    exact ⟨rfl, rfl⟩
  | ok handle =>
    rw [acquire_of_opened isClosed opens]
    exact ⟨rfl, rfl⟩

/-- An acquisition fails with the opener, and the holders and the thing stay what they were. -/
theorem acquire_eq_error {fault : Failure} (failed : (lease.acquire opener).1 = .error fault) :
    opener lease.opens = .error fault ∧
      (lease.acquire opener).2.holders = lease.holders ∧
      (lease.acquire opener).2.handle = lease.handle := by
  cases held : lease.handle with
  | some handle =>
    rw [acquire_of_open held] at failed
    cases failed
  | none =>
    rw [(acquire_of_closed held opener).1] at failed
    rw [acquire_of_refused held failed]
    exact ⟨failed, rfl, held⟩

theorem release_of_unheld (unheld : lease.holders = 0) :
    lease.release = (.error (.store (.unmatchedRelease lease.name)), lease) := by
  rw [release, unheld]

theorem holders_of_release_error {fault : Failure} (failed : lease.release.1 = .error fault) :
    lease.holders = 0 := by
  rw [release] at failed
  split at failed
  · next unheld => exact unheld
  · cases failed
  · cases failed

theorem serves (opener : Nat → Except Failure α) (lease : Lease α) (call : Call) :
    Serves opener lease call (lease.serve opener call).1 (lease.serve opener call).2 := by
  cases call with
  | acquire =>
    rw [serve]
    cases handle : lease.handle with
    | some thing =>
      rw [acquire_of_open handle]
      exact .shared handle
    | none =>
      cases opens : opener lease.opens with
      | error fault =>
        rw [acquire_of_refused handle opens]
        exact .refused handle opens
      | ok thing =>
        rw [acquire_of_opened handle opens]
        exact .opened handle opens
  | release =>
    rw [serve]
    obtain ⟨name, handle, holders, count⟩ := lease
    match holders with
    | 0 => exact .unmatched rfl
    | 1 => exact .closed rfl
    | others + 2 => exact .left rfl

/-- An acquisition answers what is open behind it. -/
theorem handle_of_acquire {handle : α} (answered : (lease.acquire opener).1 = .ok handle) :
    (lease.acquire opener).2.handle = some handle := by
  cases held : lease.handle with
  | some thing =>
    rw [acquire_of_open held] at answered ⊢
    cases answered
    exact held
  | none =>
    rw [(acquire_of_closed held opener).1] at answered
    rw [acquire_of_opened held answered]

theorem isOpen_eq_false_iff : lease.isOpen = false ↔ lease.handle = none := by
  rw [isOpen, Option.isSome_eq_false_iff, Option.isNone_iff_eq_none]

/-- A successful acquisition is one holder more, a successful release one less, and a failure makes
no difference. -/
theorem Serves.holders_eq (serves : Serves opener lease call succeeded after) :
    after.holders + (if call = .release ∧ succeeded = true then 1 else 0) =
      lease.holders + if call = .acquire ∧ succeeded = true then 1 else 0 := by
  cases serves with
  | shared | opened | refused | unmatched => rfl
  | left held | closed held => rw [held]; rfl

theorem Serves.holders_le (serves : Serves opener lease call succeeded after) :
    after.holders ≤ lease.holders + 1 := by
  cases serves with
  | shared | opened => exact Nat.le_refl _
  | refused | unmatched => exact Nat.le_succ _
  | left held =>
    rw [held]
    exact Nat.le_add_right _ 2
  | closed => exact Nat.zero_le _

theorem Serves.isOpen_iff (serves : Serves opener lease call succeeded after)
    (before : lease.isOpen = true ↔ 0 < lease.holders) :
    after.isOpen = true ↔ 0 < after.holders := by
  cases serves with
  | shared isOpen =>
    refine ⟨fun _ => Nat.succ_pos _, fun _ => ?_⟩
    show lease.handle.isSome = true
    rw [isOpen]
    rfl
  | opened => exact ⟨fun _ => Nat.succ_pos _, fun _ => rfl⟩
  | refused => exact before
  | left held =>
    rw [held] at before
    exact ⟨fun _ => Nat.succ_pos _, fun _ => before.2 (Nat.succ_pos _)⟩
  | closed => exact ⟨nofun, fun positive => absurd positive (Nat.lt_irrefl 0)⟩
  | unmatched => exact before

theorem Serves.name_eq (serves : Serves opener lease call succeeded after) :
    after.name = lease.name := by
  cases serves <;> rfl

theorem Serves.opens_le (serves : Serves opener lease call succeeded after) :
    lease.opens ≤ after.opens := by
  cases serves with
  | opened | refused => exact Nat.le_succ _
  | shared | left | closed | unmatched => exact Nat.le_refl _

/-- A thing that is open before and after a call is the same. -/
theorem Serves.handle_eq (serves : Serves opener lease call succeeded after) {handle : α}
    (isOpen : lease.handle = some handle) (remains : after.isOpen = true) :
    after.handle = some handle := by
  cases serves with
  | shared | left | unmatched => exact isOpen
  | closed => cases remains
  | opened isClosed | refused isClosed =>
    rw [isClosed] at isOpen
    cases isOpen

/-! ## Histories -/

/-- The lease behind some calls. -/
def behind (opener : Nat → Except Failure α) (calls : List Call) (lease : Lease α) : Lease α :=
  calls.foldl (fun lease call => (lease.serve opener call).2) lease

/-- How many calls of a kind have succeeded. -/
def successes (opener : Nat → Except Failure α) (kind : Call) : List Call → Lease α → Nat
  | [], _ => 0
  | call :: rest, lease =>
    (if call = kind ∧ (lease.serve opener call).1 = true then 1 else 0) +
      successes opener kind rest (lease.serve opener call).2

theorem behind_append (first second : List Call) (lease : Lease α) :
    behind opener (first ++ second) lease = behind opener second (behind opener first lease) :=
  List.foldl_append

/-- What every call keeps is kept by a history. -/
theorem behind_keeps {Kept : Lease α → Prop} (kept : ∀ {lease after call succeeded},
    Serves opener lease call succeeded after → Kept lease → Kept after)
    (calls : List Call) (atStart : Kept lease) : Kept (behind opener calls lease) := by
  induction calls generalizing lease with
  | nil => exact atStart
  | cons call rest inductionHypothesis =>
    exact inductionHypothesis (kept (serves opener lease call) atStart)

theorem name_behind (calls : List Call) (lease : Lease α) :
    (behind opener calls lease).name = lease.name :=
  behind_keeps (fun serves before => serves.name_eq.trans before) calls rfl

theorem isOpen_behind_iff (name : String) (calls : List Call) :
    (behind opener calls (closed name)).isOpen = true ↔
      0 < (behind opener calls (closed name)).holders :=
  behind_keeps (fun serves before => serves.isOpen_iff before) calls
    ⟨nofun, fun positive => absurd positive (Nat.lt_irrefl 0)⟩

theorem holders_behind (calls : List Call) (lease : Lease α) :
    (behind opener calls lease).holders + successes opener .release calls lease =
      lease.holders + successes opener .acquire calls lease := by
  induction calls generalizing lease with
  | nil => rfl
  | cons call rest inductionHypothesis =>
    have one := (serves opener lease call).holders_eq
    have others := inductionHypothesis (lease.serve opener call).2
    rw [successes, successes]
    show (behind opener rest (lease.serve opener call).2).holders + _ = _
    omega

/-- No more leases are held than were asked for. -/
theorem holders_behind_le (calls : List Call) (lease : Lease α) :
    (behind opener calls lease).holders ≤ lease.holders + calls.length := by
  induction calls generalizing lease with
  | nil => exact Nat.le_refl _
  | cons call rest inductionHypothesis =>
    have one := (serves opener lease call).holders_le
    have others := inductionHypothesis (lease.serve opener call).2
    show (behind opener rest (lease.serve opener call).2).holders ≤ _
    rw [List.length_cons]
    omega

theorem opens_le_behind (calls : List Call) (lease : Lease α) :
    lease.opens ≤ (behind opener calls lease).opens :=
  behind_keeps (fun serves before => Nat.le_trans before serves.opens_le) calls (Nat.le_refl _)

/-- A thing that is open throughout a history stays the same. -/
theorem handle_behind {handle : α} (calls : List Call) (isOpen : lease.handle = some handle)
    (remains : ∀ part, part <+: calls → (behind opener part lease).isOpen = true) :
    (behind opener calls lease).handle = some handle := by
  induction calls generalizing lease with
  | nil => exact isOpen
  | cons call rest inductionHypothesis =>
    have next := (serves opener lease call).handle_eq isOpen
      (remains [call] ⟨rest, rfl⟩)
    refine inductionHypothesis next fun part first => ?_
    exact remains (call :: part) (List.cons_prefix_cons.2 ⟨rfl, first⟩)

/-! ## Things that can be told apart -/

/-- An opener whose things can be told apart, each by the number of the call that opened it. -/
def numbered (opener : Nat → Except Failure α) (call : Nat) : Except Failure (Nat × α) :=
  (opener call).map (call, ·)

theorem numbered_eq_ok {number : Nat} {handle : Nat × α}
    (opens : numbered opener number = .ok handle) :
    handle.1 = number ∧ opener number = .ok handle.2 := by
  rw [numbered] at opens
  cases opened : opener number with
  | error fault =>
    rw [opened] at opens
    cases opens
  | ok thing =>
    rw [opened] at opens
    cases opens
    exact ⟨rfl, rfl⟩

theorem numbered_eq_error {number : Nat} {fault : Failure}
    (refuses : numbered opener number = .error fault) : opener number = .error fault := by
  rw [numbered] at refuses
  cases opened : opener number with
  | error reason =>
    rw [opened] at refuses
    cases refuses
    rfl
  | ok thing =>
    rw [opened] at refuses
    cases refuses

/-- The thing is not from before a number of calls of the opener. -/
structure Since (number : Nat) (lease : Lease (Nat × α)) : Prop where
  opens : number ≤ lease.opens
  handle : ∀ handle, lease.handle = some handle → number ≤ handle.1

/-- The thing was opened by an earlier call of the opener, under its number. -/
def Stems (opener : Nat → Except Failure α) (lease : Lease (Nat × α)) : Prop :=
  ∀ handle, lease.handle = some handle →
    handle.1 < lease.opens ∧ opener handle.1 = .ok handle.2

section
variable {lease after : Lease (Nat × α)}

theorem Since.serves {number : Nat} (since : Since number lease)
    (serves : Serves (numbered opener) lease call succeeded after) : Since number after := by
  refine ⟨Nat.le_trans since.opens serves.opens_le, ?_⟩
  cases serves with
  | shared | refused | left | unmatched => exact since.handle
  | closed => exact nofun
  | opened _ opens =>
    rintro _ ⟨⟩
    rw [(numbered_eq_ok opens).1]
    exact since.opens

theorem Stems.serves (stems : Stems opener lease)
    (serves : Serves (numbered opener) lease call succeeded after) : Stems opener after := by
  cases serves with
  | shared | left | unmatched => exact stems
  | closed => exact nofun
  | refused isClosed =>
    intro handle isOpen
    rw [show lease.handle = some handle from isOpen] at isClosed
    cases isClosed
  | opened _ opens =>
    rintro handle ⟨⟩
    obtain ⟨number, opened⟩ := numbered_eq_ok opens
    rw [number]
    exact ⟨Nat.lt_succ_self _, opened⟩

/-- What is open behind a closing is younger than all that was open before. -/
theorem lt_of_closed_between {early late : Nat × α} {first second : List Call}
    (stems : Stems opener lease) (isOpen : lease.handle = some early)
    (isClosed : (behind (numbered opener) first lease).isOpen = false)
    (later : (behind (numbered opener) (first ++ second) lease).handle = some late) :
    early.1 < late.1 := by
  have atClosing : Since (behind (numbered opener) first lease).opens
      (behind (numbered opener) first lease) := by
    refine ⟨Nat.le_refl _, ?_⟩
    rw [isOpen_eq_false_iff.1 isClosed]
    exact nofun
  rw [behind_append] at later
  calc early.1
    _ < lease.opens := (stems early isOpen).1
    _ ≤ (behind (numbered opener) first lease).opens := opens_le_behind first lease
    _ ≤ late.1 :=
      (behind_keeps (fun serves since => since.serves serves) second atClosing).handle late later

/-- The next acquisition answers the thing that is open exactly if it stays open until then, and a
younger one if not. -/
theorem handle_eq_iff {early late : Nat × α} (stems : Stems opener lease)
    (isOpen : lease.handle = some early) (middle : List Call)
    (answered : ((behind (numbered opener) middle lease).acquire (numbered opener)).1 = .ok late) :
    (early = late ↔
      ∀ part, part <+: middle → (behind (numbered opener) part lease).isOpen = true) ∧
      (early ≠ late → early.1 < late.1) := by
  have younger {part : List Call} (first : part <+: middle)
      (isClosed : (behind (numbered opener) part lease).isOpen = false) : early.1 < late.1 := by
    obtain ⟨rest, rfl⟩ := first
    have later : (behind (numbered opener) (part ++ (rest ++ [.acquire])) lease).handle =
        some late := by
      rw [← List.append_assoc, behind_append]
      exact handle_of_acquire answered
    exact lt_of_closed_between stems isOpen isClosed later
  have same (remains : ∀ part, part <+: middle →
      (behind (numbered opener) part lease).isOpen = true) : early = late := by
    rw [acquire_of_open (handle_behind middle isOpen remains)] at answered
    exact Except.ok.inj answered
  refine ⟨⟨?_, same⟩, ?_⟩
  · rintro rfl part first
    refine (Bool.eq_false_or_eq_true _).resolve_right fun isClosed => ?_
    exact absurd (younger first isClosed) (Nat.lt_irrefl _)
  · intro apart
    apply Classical.byContradiction
    intro notYounger
    refine apart (same fun part first => (Bool.eq_false_or_eq_true _).resolve_right ?_)
    exact fun isClosed => notYounger (younger first isClosed)

end

/-- **A lease opens its thing for the first holder and closes it with the last.**  Take any opener,
which may fail whenever it likes, and any history of acquisitions and releases, some of which may
have failed.  The holders are the successful acquisitions less the successful releases, and the
thing is open exactly while there are any.  An acquisition calls the opener exactly if there are
none, and passes its answer on; otherwise it asks no opener and answers the thing that is open.  It
fails only if the opener does, and a release fails exactly if there is no holder; neither then
changes the holders or the thing.  Two acquisitions, with anything in between, answer the same
opening exactly if the thing stayed open in between, and a younger one if not. -/
theorem opens_once_per_tenure (name : String) (opener : Nat → Except Failure α)
    (calls : List Call) :
    let start : Lease (Nat × α) := .closed name
    let ask := numbered opener
    let lease := behind ask calls start
    lease.holders + successes ask .release calls start = successes ask .acquire calls start ∧
    (lease.isOpen = true ↔ 0 < lease.holders) ∧
    (lease.holders = 0 →
      (lease.acquire ask).1 = ask lease.opens ∧
      (lease.acquire ask).2.opens = lease.opens + 1) ∧
    (0 < lease.holders → ∃ handle, lease.handle = some handle ∧ opener handle.1 = .ok handle.2 ∧
      ∀ other, lease.acquire other =
        (.ok handle, { lease with holders := lease.holders + 1 })) ∧
    (∀ fault, (lease.acquire ask).1 = .error fault →
      opener lease.opens = .error fault ∧
      (lease.acquire ask).2.holders = lease.holders ∧
      (lease.acquire ask).2.handle = lease.handle) ∧
    ((∃ fault, lease.release.1 = .error fault) ↔ lease.holders = 0) ∧
    (∀ fault, lease.release.1 = .error fault →
      fault = .store (.unmatchedRelease name) ∧ lease.release.2 = lease) ∧
    ∀ early, (lease.acquire ask).1 = .ok early → ∀ middle late,
      ((behind ask (calls ++ .acquire :: middle) start).acquire ask).1 = .ok late →
      (early = late ↔ ∀ part, part <+: middle →
        (behind ask (calls ++ .acquire :: part) start).isOpen = true) ∧
      (early ≠ late → early.1 < late.1) := by
  intro start ask lease
  have isOpen_iff : lease.isOpen = true ↔ 0 < lease.holders := isOpen_behind_iff name calls
  have stems : Stems opener lease :=
    behind_keeps (fun serves stems => stems.serves serves) calls nofun
  have unheld_iff : lease.holders = 0 ↔ lease.handle = none := by
    rw [← isOpen_eq_false_iff, ← Bool.not_eq_true, isOpen_iff]
    omega
  refine ⟨?_, isOpen_iff, ?_, ?_, ?_, ⟨?_, ?_⟩, ?_, ?_⟩
  · rw [holders_behind calls start]
    exact Nat.zero_add _
  · intro unheld
    exact acquire_of_closed (unheld_iff.1 unheld) ask
  · intro held
    obtain ⟨handle, isOpen⟩ := Option.isSome_iff_exists.1 (isOpen_iff.2 held)
    exact ⟨handle, isOpen, (stems handle isOpen).2, acquire_of_open isOpen⟩
  · intro fault failed
    obtain ⟨refused, holders, handle⟩ := acquire_eq_error failed
    exact ⟨numbered_eq_error refused, holders, handle⟩
  · rintro ⟨fault, failed⟩
    exact holders_of_release_error failed
  · intro unheld
    rw [release_of_unheld unheld]
    exact ⟨_, rfl⟩
  · intro fault failed
    have unheld := holders_of_release_error failed
    rw [release_of_unheld unheld] at failed ⊢
    cases failed
    exact ⟨congrArg _ (congrArg _ (name_behind calls start)), rfl⟩
  · intro early answered middle late later
    have through (part : List Call) : behind ask (calls ++ .acquire :: part) start =
        behind ask part (lease.acquire ask).2 := behind_append calls (.acquire :: part) start
    simp only [through] at later ⊢
    exact handle_eq_iff (stems.serves (serves ask lease .acquire)) (handle_of_acquire answered)
      middle later

/-- Every other call of the opener fails.  A second holder joins the first opening; once both have
let go, a release and an acquisition fail, and the acquisition after them answers a younger
opening. -/
theorem opens_once_per_tenure_reopened :
    let opener : Nat → Except Failure Unit :=
      fun call => if call % 2 = 0 then .error (.store (.custom "shut")) else .ok ()
    let ask := numbered opener
    let calls : List Call := [.acquire, .acquire]
    let interlude : List Call := [.acquire, .release, .release, .release, .acquire]
    let lease := behind ask calls (.closed "memory")
    let later := behind ask (calls ++ interlude) (.closed "memory")
    lease.holders = 1 ∧ lease.opens = 2 ∧ later.holders = 0 ∧ later.opens = 3 ∧
    ∃ early late, (lease.acquire ask).1 = .ok early ∧ (later.acquire ask).1 = .ok late ∧
      early ≠ late ∧ early.1 < late.1 ∧
      (∃ fault, later.release.1 = .error fault ∧ later.release.2 = later) := by
  intro opener ask calls interlude lease later
  obtain ⟨_, _, _, _, _, _, _, handles⟩ := opens_once_per_tenure "memory" opener calls
  obtain ⟨_, _, unheld, _, _, releases, unmatched, _⟩ :=
    opens_once_per_tenure "memory" opener (calls ++ interlude)
  have first : lease = ⟨"memory", some (1, ()), 1, 2⟩ := by decide
  have last : later = ⟨"memory", none, 0, 3⟩ := by decide
  have empty : later.holders = 0 := by rw [last]
  have early : (lease.acquire ask).1 = .ok (1, ()) := by
    rw [first]
    rfl
  have late : (later.acquire ask).1 = .ok (3, ()) := by
    refine (unheld empty).1.trans ?_
    show ask later.opens = .ok (3, ())
    rw [last]
    rfl
  have apart : ((1, ()) : Nat × Unit) ≠ (3, ()) := by decide
  obtain ⟨fault, failed⟩ := releases.2 empty
  exact ⟨by rw [first], by rw [first], empty, by rw [last], _, _, early, late, apart,
    (handles _ early _ _ late).2 apart, fault, failed, (unmatched fault failed).2⟩

end StoreBench.Store.Lease
