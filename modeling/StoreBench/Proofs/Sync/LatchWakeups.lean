import StoreBench.Proofs.Totals
import StoreBench.Sync.LatchMonitor

/-!
Contract: a latch opens after its last count-down, not earlier, and wakes everybody who waits.

Only the thread that holds the lock changes the count, so what such a thread has read of the count
is still true when it leaves.  A thread parks only while the count is positive.  So whoever is
parked at the open latch was parked when the last count-down came, and that one wakes it before it
gives the lock up.

Owns:
- the steps of a thread by name;
- `LatchMonitor.Orderly`, the invariant of the count, the lock and the threads;
- what a call that has ended says about the latch, and that an open latch leaves nobody behind.

Does not own: the latch as its users see it, each call being one step.
-/

namespace StoreBench.Sync

/-! ## One thread -/

/-- The thread holds the lock. -/
def LatchStage.HasLock : LatchStage → Prop
  | .holding _ | .notifying | .leaving _ => True
  | _ => False

def LatchStage.HasEnded : LatchStage → Prop
  | .ended _ => True
  | _ => False

namespace LatchThread

/-- Whether the thread has counted down and its call has ended, as a number. -/
def completed (thread : LatchThread) : Nat :=
  match thread.call, thread.stage with
  | .countDown, .ended _ => 1
  | _, _ => 0

/-- Whether the thread has counted down, as a number. -/
def lowered (thread : LatchThread) : Nat :=
  match thread.call, thread.stage with
  | .countDown, .notifying | .countDown, .leaving _ | .countDown, .ended _ => 1
  | _, _ => 0

/-- What the stage of a thread says about the count. -/
def Knows (count : Nat) (thread : LatchThread) : Prop :=
  match thread.stage with
  | .notifying => count = 0
  | .leaving seen => seen = count ∧ (thread.call = .wait → seen = 0)
  | .ended seen => count ≤ seen ∧ (thread.call = .wait → seen = 0)
  | _ => True

variable {thread : LatchThread} {count later : Nat}

/-- What a thread without the lock knows stays true while the count goes down. -/
theorem Knows.mono (knows : thread.Knows count) (unlocked : ¬ thread.stage.HasLock)
    (less : later ≤ count) : thread.Knows later := by
  obtain ⟨call, stage⟩ := thread
  cases stage with
  | ended seen => exact ⟨Nat.le_trans less knows.1, knows.2⟩
  | holding | notifying | leaving => exact absurd trivial unlocked
  | _ => trivial

/-- A notification wakes a thread that is parked and does nothing to any other. -/
theorem wake_cases (thread : LatchThread) :
    (∃ call, thread = ⟨call, .parked⟩ ∧ thread.wake = ⟨call, .woken⟩) ∨
      thread.stage ≠ .parked ∧ thread.wake = thread := by
  obtain ⟨call, stage⟩ := thread
  cases stage with
  | parked => exact .inl ⟨call, rfl, rfl⟩
  | _ => exact .inr ⟨nofun, rfl⟩

theorem lowered_wake (thread : LatchThread) : thread.wake.lowered = thread.lowered := by
  rcases thread.wake_cases with ⟨call, rfl, woken⟩ | ⟨_, same⟩
  · rw [woken]
    cases call <;> rfl
  · rw [same]

theorem hasLock_wake (thread : LatchThread) :
    thread.wake.stage.HasLock ↔ thread.stage.HasLock := by
  rcases thread.wake_cases with ⟨call, rfl, woken⟩ | ⟨_, same⟩
  · rw [woken]
    exact Iff.rfl
  · rw [same]

theorem Knows.wake (knows : thread.Knows count) : thread.wake.Knows count := by
  rcases thread.wake_cases with ⟨call, rfl, woken⟩ | ⟨_, same⟩
  · rw [woken]
    trivial
  · rwa [same]

theorem wake_stage_ne_parked (thread : LatchThread) : thread.wake.stage ≠ .parked := by
  rcases thread.wake_cases with ⟨call, rfl, woken⟩ | ⟨awake, same⟩
  · rw [woken]
    nofun
  · rwa [same]

end LatchThread

/-! ## All threads -/

namespace LatchMonitor

/-- A step of a thread, by what becomes of its stage and of everything else. -/
inductive Advance (monitor : LatchMonitor) (thread : Nat) (call : LatchCall) :
    LatchStage → LatchStage → LatchMonitor → Prop
  | entered (free : monitor.owner = none) :
      Advance monitor thread call .entering (.holding false)
        { monitor with owner := some thread }
  | resumed (free : monitor.owner = none) :
      Advance monitor thread call .woken (.holding true) { monitor with owner := some thread }
  /-- A count-down that does not open the latch; it may be open already. -/
  | counted {rested : Bool} (counts : call = .countDown) (several : monitor.count ≠ 1) :
      Advance monitor thread call (.holding rested) (.leaving (monitor.count - 1))
        { monitor with count := monitor.count - 1 }
  | opened {rested : Bool} (counts : call = .countDown) (last : monitor.count = 1) :
      Advance monitor thread call (.holding rested) .notifying { monitor with count := 0 }
  | found {rested : Bool} (reads : call ≠ .countDown)
      (admitted : call = .wait → monitor.count = 0) :
      Advance monitor thread call (.holding rested) (.leaving monitor.count) monitor
  | parked {rested : Bool} (closed : 0 < monitor.count) :
      Advance monitor thread call (.holding rested) .parked { monitor with owner := none }
  | notified : Advance monitor thread call .notifying (.leaving monitor.count) monitor.notifyAll
  | left {seen : Nat} :
      Advance monitor thread call (.leaving seen) (.ended seen) { monitor with owner := none }
  | stirred : Advance monitor thread call .parked .woken monitor

variable {monitor middle after : LatchMonitor} {thread : Nat} {call : LatchCall}
  {stage next : LatchStage}

theorem look_cases (monitor : LatchMonitor) (thread : Nat) (call : LatchCall) (rested : Bool) :
    ∃ next middle, monitor.Advance thread call (.holding rested) next middle ∧
      monitor.look thread call rested = middle.put thread ⟨call, next⟩ := by
  rcases Nat.eq_zero_or_pos monitor.count with isOpen | closed
  · have shut : ¬ 0 < monitor.count := by omega
    have found : monitor.look thread call rested =
        monitor.put thread ⟨call, .leaving monitor.count⟩ := by
      cases call with
      | countDown => rw [look, if_pos isOpen]
      | wait => rw [look, if_neg shut]
      | waitTimeout => rw [look, if_neg fun both => shut both.1]
      | readCount => rfl
    by_cases counts : call = .countDown
    · refine ⟨_, _, .counted counts (by omega), ?_⟩
      obtain ⟨count, owner, threads⟩ := monitor
      cases isOpen
      exact found
    · exact ⟨_, _, .found counts fun _ => isOpen, found⟩
  · cases call with
    | countDown =>
      by_cases last : monitor.count = 1
      · exact ⟨_, _, .opened rfl last, by rw [look, if_neg (by omega), if_pos last]⟩
      · exact ⟨_, _, .counted rfl last, by rw [look, if_neg (by omega), if_neg last]⟩
    | wait => exact ⟨_, _, .parked closed, by rw [look, if_pos closed]⟩
    | waitTimeout =>
      cases rested with
      | false => exact ⟨_, _, .parked closed, by rw [look, if_pos ⟨closed, rfl⟩]⟩
      | true => exact ⟨_, _, .found nofun nofun, by rw [look, if_neg fun both => nomatch both.2]⟩
    | readCount => exact ⟨_, _, .found nofun nofun, rfl⟩

theorem advance_of_step {move : LatchMove} (steps : monitor.step move = some after) :
    ∃ thread call stage next middle, monitor.threads[thread]? = some ⟨call, stage⟩ ∧
      monitor.Advance thread call stage next middle ∧ after = middle.put thread ⟨call, next⟩ := by
  cases move with
  | lock thread =>
    rw [step] at steps
    split at steps
    · cases steps
    · next free =>
      have free := Option.not_isSome_iff_eq_none.1 free
      split at steps
      · next call found =>
        cases steps
        exact ⟨thread, call, _, _, _, found, .entered free, rfl⟩
      · next call found =>
        cases steps
        exact ⟨thread, call, _, _, _, found, .resumed free, rfl⟩
      · cases steps
  | act thread =>
    rw [step] at steps
    split at steps
    · next call rested found =>
      cases steps
      obtain ⟨next, middle, advance, same⟩ := monitor.look_cases thread call rested
      exact ⟨thread, call, _, next, middle, found, advance, same⟩
    · next call found =>
      cases steps
      exact ⟨thread, call, _, _, _, found, .notified, rfl⟩
    · next call seen found =>
      cases steps
      exact ⟨thread, call, _, _, _, found, .left, rfl⟩
    · cases steps
  | stir thread =>
    rw [step] at steps
    split at steps
    · next call found =>
      cases steps
      exact ⟨thread, call, _, _, _, found, .stirred, rfl⟩
    · cases steps

/-- How many count-downs have ended. -/
def completed (monitor : LatchMonitor) : Nat :=
  total (monitor.threads.map LatchThread.completed)

/-- How many threads have counted down. -/
def lowered (monitor : LatchMonitor) : Nat := total (monitor.threads.map LatchThread.lowered)

/-- The count, the lock and the threads agree. -/
structure Orderly (initial : Nat) (monitor : LatchMonitor) : Prop where
  count : monitor.count = initial - monitor.lowered
  owned : ∀ {thread}, monitor.owner = some thread → thread < monitor.threads.length
  locked : ∀ {thread : Nat} {entry : LatchThread}, monitor.threads[thread]? = some entry →
    (entry.stage.HasLock ↔ monitor.owner = some thread)
  knows : ∀ {thread : Nat} {entry : LatchThread}, monitor.threads[thread]? = some entry →
    entry.Knows monitor.count
  /-- Whoever is parked at the open latch is about to be woken. -/
  noticed : ∀ {thread : Nat} {call : LatchCall}, monitor.count = 0 →
    monitor.threads[thread]? = some ⟨call, .parked⟩ →
    ∃ (other : Nat) (call : LatchCall), monitor.threads[other]? = some ⟨call, .notifying⟩

/-! ## One step -/

/-- The other threads stay as they are, or all of them are notified. -/
theorem Advance.threads (advance : monitor.Advance thread call stage next middle) :
    stage ≠ .notifying ∧ middle.threads = monitor.threads ∨
      stage = .notifying ∧ middle.threads = monitor.threads.map LatchThread.wake := by
  cases advance with
  | notified => exact .inr ⟨rfl, rfl⟩
  | _ => exact .inl ⟨nofun, rfl⟩

theorem Advance.length_threads (advance : monitor.Advance thread call stage next middle) :
    (middle.put thread ⟨call, next⟩).threads.length = monitor.threads.length := by
  rw [put, List.length_set]
  rcases advance.threads with ⟨_, same⟩ | ⟨_, woken⟩
  · rw [same]
  · rw [woken, List.length_map]

/-- Every thread after a step is the one that made it, or stood there before; those are woken by a
thread that notifies. -/
theorem Advance.each (advance : monitor.Advance thread call stage next middle)
    (property : Nat → LatchThread → Prop) (own : property thread ⟨call, next⟩)
    (others : ∀ other old, thread ≠ other → monitor.threads[other]? = some old →
      (stage ≠ .notifying → property other old) ∧ (stage = .notifying → property other old.wake))
    {other : Nat} {entry : LatchThread}
    (stands : (middle.put thread ⟨call, next⟩).threads[other]? = some entry) :
    property other entry := by
  rcases of_getElem?_set stands with ⟨rfl, rfl⟩ | ⟨apart, stood⟩
  · exact own
  · rcases advance.threads with ⟨silent, same⟩ | ⟨notifies, woken⟩
    · rw [same] at stood
      exact (others other entry apart stood).1 silent
    · rw [woken, List.getElem?_map] at stood
      obtain ⟨old, was, rfl⟩ := Option.map_eq_some_iff.1 stood
      exact (others other old apart was).2 notifies

theorem Advance.lowered_eq (advance : monitor.Advance thread call stage next middle)
    (found : monitor.threads[thread]? = some ⟨call, stage⟩) :
    (middle.put thread ⟨call, next⟩).lowered + (LatchThread.mk call stage).lowered =
      monitor.lowered + (LatchThread.mk call next).lowered := by
  rcases advance.threads with ⟨_, same⟩ | ⟨notifies, woken⟩
  · rw [← same] at found
    rw [lowered, lowered, ← same]
    exact total_map_set LatchThread.lowered found _
  · subst notifies
    have stood : middle.threads[thread]? = some ⟨call, .notifying⟩ := by
      rw [woken, List.getElem?_map, found]
      rfl
    have others : total (middle.threads.map LatchThread.lowered) = monitor.lowered := by
      rw [woken, List.map_map, lowered]
      exact congrArg total (List.map_congr_left fun entry _ => entry.lowered_wake)
    rw [← others]
    exact total_map_set LatchThread.lowered stood _

/-- A thread keeps the lock, takes it while it is free, gives it up, or has nothing to do with
it. -/
theorem Advance.lock_cases (advance : monitor.Advance thread call stage next middle) :
    stage.HasLock ∧ next.HasLock ∧ middle.owner = monitor.owner ∨
      monitor.owner = none ∧ next.HasLock ∧ middle.owner = some thread ∨
      stage.HasLock ∧ ¬ next.HasLock ∧ middle.owner = none ∨
      ¬ stage.HasLock ∧ ¬ next.HasLock ∧ middle.owner = monitor.owner := by
  cases advance with
  | entered free | resumed free => exact .inr (.inl ⟨free, trivial, rfl⟩)
  | counted | opened | found | notified => exact .inl ⟨trivial, trivial, rfl⟩
  | parked | left => exact .inr (.inr (.inl ⟨trivial, id, rfl⟩))
  | stirred => exact .inr (.inr (.inr ⟨id, id, rfl⟩))

/-- The lock of a thread is its own business. -/
theorem Advance.owner (advance : monitor.Advance thread call stage next middle)
    (locked : stage.HasLock ↔ monitor.owner = some thread) :
    (next.HasLock ↔ middle.owner = some thread) ∧
      ∀ other, thread ≠ other → (middle.owner = some other ↔ monitor.owner = some other) := by
  rcases advance.lock_cases with
    ⟨had, has, same⟩ | ⟨free, has, taken⟩ | ⟨had, hasNot, free⟩ | ⟨hadNot, hasNot, same⟩
  · rw [same]
    exact ⟨⟨fun _ => locked.1 had, fun _ => has⟩, fun _ _ => Iff.rfl⟩
  · rw [free, taken]
    exact ⟨⟨fun _ => rfl, fun _ => has⟩,
      fun other apart => ⟨fun same => absurd (Option.some.inj same) apart, nofun⟩⟩
  · rw [free, locked.1 had]
    exact ⟨⟨fun has => absurd has hasNot, nofun⟩,
      fun other apart => ⟨nofun, fun same => absurd (Option.some.inj same) apart⟩⟩
  · rw [same, ← locked]
    exact ⟨⟨fun has => absurd has hasNot, fun had => absurd had hadNot⟩, fun _ _ => Iff.rfl⟩

/-- Only a thread with the lock changes the count, which goes down. -/
theorem Advance.count_cases (advance : monitor.Advance thread call stage next middle) :
    middle.count = monitor.count ∨ stage.HasLock ∧ middle.count ≤ monitor.count := by
  cases advance with
  | counted => exact .inr ⟨trivial, Nat.sub_le _ _⟩
  | opened => exact .inr ⟨trivial, Nat.zero_le _⟩
  | _ => exact .inl rfl

/-- What the thread itself knows after its step. -/
theorem Advance.knows (advance : monitor.Advance thread call stage next middle)
    (knew : (LatchThread.mk call stage).Knows monitor.count) :
    (LatchThread.mk call next).Knows middle.count := by
  cases advance with
  | counted counts => exact ⟨rfl, fun waits => by rw [counts] at waits; cases waits⟩
  | opened => rfl
  | found _ admitted => exact ⟨rfl, admitted⟩
  | notified => exact ⟨rfl, fun _ => knew⟩
  | left => exact ⟨Nat.le_of_eq knew.1.symm, knew.2⟩
  | _ => trivial

/-- What a thread counts down is taken off the count, as far as there is anything left. -/
theorem Advance.count_eq (advance : monitor.Advance thread call stage next middle) :
    ∃ amount, (LatchThread.mk call next).lowered = (LatchThread.mk call stage).lowered + amount ∧
      middle.count = monitor.count - amount := by
  cases advance with
  | counted counts =>
    subst counts
    exact ⟨1, rfl, rfl⟩
  | opened counts last =>
    subst counts
    exact ⟨1, rfl, by rw [last]⟩
  | found reads =>
    cases call with
    | countDown => exact absurd rfl reads
    | _ => exact ⟨0, rfl, rfl⟩
  | _ => exact ⟨0, by cases call <;> rfl, rfl⟩

/-- The latch opens only under a thread that then has to notify. -/
theorem Advance.notifies_of_opened (advance : monitor.Advance thread call stage next middle)
    (isOpen : middle.count = 0) : monitor.count = 0 ∨ next = .notifying := by
  cases advance with
  | counted _ several =>
    change monitor.count - 1 = 0 at isOpen
    exact .inl (by omega)
  | opened => exact .inr rfl
  | _ => exact .inl isOpen

/-- Nobody parks at the open latch. -/
theorem Advance.ne_parked (advance : monitor.Advance thread call stage next middle)
    (isOpen : middle.count = 0) : next ≠ .parked := by
  cases advance with
  | parked closed => exact absurd isOpen (Nat.ne_of_gt closed)
  | _ => nofun

/-- A thread that notifies goes on to do so, whatever another one does. -/
theorem Advance.notifying (advance : monitor.Advance thread call stage next middle)
    (found : monitor.threads[thread]? = some ⟨call, stage⟩) (silent : stage ≠ .notifying)
    {other : Nat} {otherCall : LatchCall}
    (notifies : monitor.threads[other]? = some ⟨otherCall, .notifying⟩) :
    (middle.put thread ⟨call, next⟩).threads[other]? = some ⟨otherCall, .notifying⟩ := by
  have apart : thread ≠ other := by
    rintro rfl
    rw [found] at notifies
    cases notifies
    exact silent rfl
  rw [put, List.getElem?_set_ne apart]
  rcases advance.threads with ⟨_, same⟩ | ⟨loud, _⟩
  · rwa [same]
  · exact absurd loud silent

variable {initial : Nat}

theorem Orderly.step {move : LatchMove} (orderly : monitor.Orderly initial)
    (steps : monitor.step move = some after) : after.Orderly initial := by
  obtain ⟨thread, call, stage, next, middle, found, advance, rfl⟩ := advance_of_step steps
  obtain ⟨ownLock, otherLocks⟩ := advance.owner (orderly.locked found)
  have size := advance.length_threads
  have self : (middle.put thread ⟨call, next⟩).threads[thread]? = some ⟨call, next⟩ := by
    have inside := (List.getElem?_eq_some_iff.1 found).1
    rw [← size, put, List.length_set] at inside
    exact List.getElem?_set_self inside
  refine ⟨?_, ?_, ?_, ?_, ?_⟩
  · obtain ⟨amount, more, less⟩ := advance.count_eq
    have lowered := advance.lowered_eq found
    have count := orderly.count
    show middle.count = _
    omega
  · intro holder owns
    rw [size]
    by_cases same : thread = holder
    · exact same ▸ (List.getElem?_eq_some_iff.1 found).1
    · exact orderly.owned ((otherLocks holder same).1 owns)
  · intro other entry stands
    refine advance.each (fun other entry => entry.stage.HasLock ↔ middle.owner = some other)
      ownLock (fun other old apart stood => ?_) stands
    have locked := (orderly.locked stood).trans (otherLocks other apart).symm
    exact ⟨fun _ => locked, fun _ => old.hasLock_wake.trans locked⟩
  · intro other entry stands
    refine advance.each (fun _ entry => entry.Knows middle.count)
      (advance.knows (orderly.knows found)) (fun other old apart stood => ?_) stands
    have knows : old.Knows middle.count := by
      rcases advance.count_cases with same | ⟨had, less⟩
      · rw [same]
        exact orderly.knows stood
      · refine (orderly.knows stood).mono (fun has => apart ?_) less
        have owner := (orderly.locked found).1 had
        rw [(orderly.locked stood).1 has] at owner
        exact (Option.some.inj owner).symm
    exact ⟨fun _ => knows, fun _ => knows.wake⟩
  · intro other otherCall isOpen stands
    have stood : stage ≠ .notifying ∧
        ∃ call, monitor.threads[other]? = some ⟨call, .parked⟩ := by
      refine advance.each (fun other entry => entry.stage = .parked → stage ≠ .notifying ∧
        ∃ call, monitor.threads[other]? = some ⟨call, .parked⟩)
        (fun parks => absurd parks (advance.ne_parked isOpen)) (fun other old apart was => ?_)
        stands rfl
      refine ⟨fun silent parked => ⟨silent, old.call, ?_⟩,
        fun _ parked => absurd parked old.wake_stage_ne_parked⟩
      rw [was, ← parked]
    obtain ⟨silent, _, parked⟩ := stood
    rcases advance.notifies_of_opened isOpen with wasOpen | notifies
    · obtain ⟨waker, wakerCall, wakes⟩ := orderly.noticed wasOpen parked
      exact ⟨waker, wakerCall, advance.notifying found silent wakes⟩
    · exact ⟨thread, call, by rw [← notifies]; exact self⟩

theorem orderly_opening (calls : List LatchCall) : (opening initial calls).Orderly initial := by
  have fresh {thread : Nat} {entry : LatchThread}
      (found : (opening initial calls).threads[thread]? = some entry) :
      entry.stage = .entering := by
    obtain ⟨call, _, rfl⟩ := List.mem_map.1 (List.mem_of_getElem? found)
    rfl
  refine ⟨?_, nofun, ?_, ?_, ?_⟩
  · have none : (opening initial calls).lowered = 0 := by
      apply total_map_eq_zero
      intro entry member
      obtain ⟨call, _, rfl⟩ := List.mem_map.1 member
      cases call <;> rfl
    rw [none]
    rfl
  · intro thread entry found
    rw [fresh found]
    exact ⟨False.elim, nofun⟩
  · intro thread entry found
    rw [LatchThread.Knows, fresh found]
    trivial
  · intro thread call _ found
    cases fresh found

theorem Orderly.of_reaches {calls : List LatchCall}
    (reaches : Reaches LatchMonitor.step (opening initial calls) monitor) :
    monitor.Orderly initial :=
  reaches.invariant (orderly_opening calls) fun _ _ _ orderly steps => orderly.step steps

/-! ## All steps -/

/-- As long as no call that counts down is in the midst of it, the count-downs that are made are
those that have ended. -/
theorem Orderly.completed_eq (orderly : monitor.Orderly initial)
    (idle : ∀ {holder : Nat} {entry : LatchThread}, monitor.owner = some holder →
      monitor.threads[holder]? = some entry → entry.call ≠ .countDown) :
    monitor.completed = monitor.lowered := by
  apply congrArg total
  apply List.map_congr_left
  intro entry member
  obtain ⟨thread, found⟩ := List.getElem?_of_mem member
  have outside : entry.stage.HasLock → entry.call ≠ .countDown :=
    fun has => idle ((orderly.locked found).1 has) found
  obtain ⟨call, stage⟩ := entry
  cases call with
  | countDown =>
    cases stage with
    | notifying | leaving => exact absurd rfl (outside trivial)
    | _ => rfl
  | _ => rfl

/-- Nobody is parked at the open latch once the lock is free. -/
theorem Orderly.stage_ne_parked (orderly : monitor.Orderly initial) (isOpen : monitor.count = 0)
    (free : monitor.owner = none) {entry : LatchThread} (member : entry ∈ monitor.threads) :
    entry.stage ≠ .parked := by
  intro parked
  obtain ⟨call, stage⟩ := entry
  cases parked
  obtain ⟨thread, found⟩ := List.getElem?_of_mem member
  obtain ⟨waker, wakerCall, wakes⟩ := orderly.noticed isOpen found
  have holds := (orderly.locked wakes).1 trivial
  rw [free] at holds
  cases holds

/-- At the open latch somebody goes on of its own accord as long as a call has not ended. -/
theorem Orderly.exists_step (orderly : monitor.Orderly initial) (isOpen : monitor.count = 0)
    {entry : LatchThread} (member : entry ∈ monitor.threads) (unended : ¬ entry.stage.HasEnded) :
    ∃ thread move after, monitor.offer thread = some move ∧ monitor.step move = some after := by
  cases owner : monitor.owner with
  | none =>
    obtain ⟨thread, found⟩ := List.getElem?_of_mem member
    have awake := orderly.stage_ne_parked isOpen owner member
    have unlocked : ¬ entry.stage.HasLock := by
      rw [orderly.locked found, owner]
      nofun
    obtain ⟨call, stage⟩ := entry
    cases stage with
    | entering | woken =>
      refine ⟨thread, .lock thread, ?_⟩
      simp [offer, LatchMonitor.step, owner, found]
    | holding | notifying | leaving => exact absurd trivial unlocked
    | parked => exact absurd rfl awake
    | ended => exact absurd trivial unended
  | some holder =>
    obtain ⟨⟨call, stage⟩, found⟩ : ∃ thread, monitor.threads[holder]? = some thread :=
      ⟨_, List.getElem?_eq_getElem (orderly.owned owner)⟩
    have locked := (orderly.locked found).2 owner
    cases stage with
    | holding | notifying | leaving =>
      refine ⟨holder, .act holder, ?_⟩
      simp [offer, LatchMonitor.step, found]
    | _ => exact absurd locked id

/-- **No early release and no lost wake-up.**  Whatever calls are made at a latch at the same time,
in whichever order their steps come (a thread with several calls makes them one after the other),
and whoever wakes up for no reason or because its time is up: unless a call is in the midst of
counting down, the count is the number of count-downs to wait for less those that have ended, and
that is what a call that asks for the count finds.  A wait ends with the latch open; whoever has
found it open can rely on that, since it never closes again.  Once the latch is open and the lock
is free nobody is parked, and somebody goes on of its own accord until all calls have ended. -/
theorem no_early_release_no_lost_wakeup (count : Nat) (calls : List LatchCall)
    {monitor : LatchMonitor} (reaches : Reaches LatchMonitor.step (opening count calls) monitor) :
    ((∀ {holder : Nat} {entry : LatchThread}, monitor.owner = some holder →
        monitor.threads[holder]? = some entry → entry.call ≠ .countDown) →
      monitor.count = count - monitor.completed) ∧
    (∀ seen, ⟨.readCount, .leaving seen⟩ ∈ monitor.threads →
      seen = count - monitor.completed) ∧
    (∀ call seen, ⟨call, .ended seen⟩ ∈ monitor.threads →
      (call = .wait → seen = 0) ∧ (seen = 0 → monitor.count = 0)) ∧
    (∀ move after, monitor.step move = some after → monitor.count = 0 → after.count = 0) ∧
    (monitor.count = 0 → monitor.owner = none →
      ∀ entry ∈ monitor.threads, entry.stage ≠ .parked) ∧
    (monitor.count = 0 → (∃ entry ∈ monitor.threads, ¬ entry.stage.HasEnded) →
      ∃ thread move after, monitor.offer thread = some move ∧ monitor.step move = some after) := by
  have orderly := Orderly.of_reaches reaches
  refine ⟨fun idle => ?_, fun seen member => ?_, fun call seen member => ?_,
    fun move after steps isOpen => ?_, fun isOpen free entry => orderly.stage_ne_parked isOpen free,
    fun isOpen ⟨entry, member, unended⟩ => orderly.exists_step isOpen member unended⟩
  · rw [orderly.completed_eq idle]
    exact orderly.count
  · obtain ⟨thread, found⟩ := List.getElem?_of_mem member
    have owner := (orderly.locked found).1 trivial
    have completed := orderly.completed_eq fun {holder entry} owns stands => by
      rw [owner] at owns
      cases owns
      rw [found] at stands
      cases stands
      nofun
    rw [completed, ← orderly.count]
    exact (orderly.knows found).1
  · obtain ⟨thread, found⟩ := List.getElem?_of_mem member
    have knows := orderly.knows found
    exact ⟨knows.2, fun foundOpen => Nat.le_zero.1 (foundOpen ▸ knows.1)⟩
  · obtain ⟨_, _, _, _, _, _, advance, rfl⟩ := advance_of_step steps
    obtain ⟨amount, _, less⟩ := advance.count_eq
    rw [isOpen, Nat.zero_sub] at less
    exact less

/-- A timed wait ends before the latch opens; a wait is woken too early, parks again, and is woken
by the second of three count-downs; the third one finds the latch open. -/
theorem no_early_release_no_lost_wakeup_past_zero :
    ∃ monitor, follow LatchMonitor.step
        [.lock 0, .act 0, .lock 1, .act 1, .stir 1, .stir 0, .lock 0, .act 0, .lock 1, .act 1,
          .act 1, .lock 2, .act 2, .act 2, .lock 3, .act 3, .act 3, .act 3, .lock 4, .act 4,
          .act 4, .lock 0, .act 0, .act 0, .lock 5, .act 5]
        (opening 2 [.wait, .waitTimeout, .countDown, .countDown, .countDown, .readCount]) =
          some monitor ∧
      ⟨.waitTimeout, .ended 2⟩ ∈ monitor.threads ∧ ⟨.wait, .ended 0⟩ ∈ monitor.threads ∧
      ⟨.readCount, .leaving 0⟩ ∈ monitor.threads ∧ monitor.completed = 3 ∧
      monitor.count = 2 - 3 := by
  let final : LatchMonitor := ⟨0, some 5,
    [⟨.wait, .ended 0⟩, ⟨.waitTimeout, .ended 2⟩, ⟨.countDown, .ended 1⟩, ⟨.countDown, .ended 0⟩,
      ⟨.countDown, .ended 0⟩, ⟨.readCount, .leaving 0⟩]⟩
  have followed : follow LatchMonitor.step
      [.lock 0, .act 0, .lock 1, .act 1, .stir 1, .stir 0, .lock 0, .act 0, .lock 1, .act 1,
        .act 1, .lock 2, .act 2, .act 2, .lock 3, .act 3, .act 3, .act 3, .lock 4, .act 4,
        .act 4, .lock 0, .act 0, .act 0, .lock 5, .act 5]
      (opening 2 [.wait, .waitTimeout, .countDown, .countDown, .countDown, .readCount]) =
        some final := by
    decide
  obtain ⟨count, -⟩ := no_early_release_no_lost_wakeup 2 _ (reaches_of_follow followed)
  have idle : ∀ {holder : Nat} {entry : LatchThread}, final.owner = some holder →
      final.threads[holder]? = some entry → entry.call ≠ .countDown := by
    intro holder entry owns stands
    cases owns
    cases stands
    nofun
  exact ⟨final, followed, by decide, by decide, by decide, by decide, count idle⟩

end LatchMonitor

end StoreBench.Sync
