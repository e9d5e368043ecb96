import StoreBench.Interleaving
import StoreBench.Sync.Latch

/-!
Contract: the latch as a count behind a lock, with a condition variable for those who wait.

A thread reads and changes the count only while it holds the lock.  The one that counts down to
zero wakes all parked threads before it gives the lock up, in a step of its own.  Waiting on the
condition variable gives the lock up and parks the thread in one step; a parked thread that is
notified, or wakes up for no reason or because its time is up, has to take the lock again.

Owns:
- the stages of the four calls, and the system of all threads;
- the run in which helpers open a latch under a waiting thread.
-/

namespace StoreBench.Sync

inductive LatchCall
  | countDown
  | wait
  /-- A wait that may end, with the answer whether the latch is open, before it opens. -/
  | waitTimeout
  /-- Asks how many count-downs are missing. -/
  | readCount
  deriving DecidableEq, Repr

/-- Where a call stands. -/
inductive LatchStage
  /-- It has not taken the lock yet. -/
  | entering
  /-- It holds the lock; `rested` tells whether it was parked before. -/
  | holding (rested : Bool)
  /-- It holds the lock, has counted down to zero, and has yet to wake those that are parked. -/
  | notifying
  /-- It holds the lock and has nothing left to do but to give it up; `seen` is the count that it
  read last, or that it left. -/
  | leaving (seen : Nat)
  /-- It is parked on the condition variable and nobody has woken it. -/
  | parked
  /-- It was woken and has to take the lock again. -/
  | woken
  /-- It has ended with this count; a timed wait answers whether that is zero. -/
  | ended (seen : Nat)
  deriving DecidableEq, Repr

/-- A thread that makes one call. -/
structure LatchThread where
  call : LatchCall
  stage : LatchStage
  deriving DecidableEq, Repr

/-- The thread after a notification. -/
def LatchThread.wake (thread : LatchThread) : LatchThread :=
  if thread.stage = .parked then { thread with stage := .woken } else thread

/-- A count, its lock and the threads. -/
structure LatchMonitor where
  count : Nat
  /-- The thread that holds the lock. -/
  owner : Option Nat
  threads : List LatchThread
  deriving DecidableEq, Repr

/-- What can happen next. -/
inductive LatchMove
  | lock (thread : Nat)
  /-- The thread that holds the lock takes its next step. -/
  | act (thread : Nat)
  /-- A parked thread wakes up although nobody notified it. -/
  | stir (thread : Nat)
  deriving DecidableEq, Repr

namespace LatchMonitor

/-- Threads about to make their calls. -/
def opening (count : Nat) (calls : List LatchCall) : LatchMonitor :=
  ⟨count, none, calls.map (⟨·, .entering⟩)⟩

def put (monitor : LatchMonitor) (thread : Nat) (entry : LatchThread) : LatchMonitor :=
  { monitor with threads := monitor.threads.set thread entry }

def notifyAll (monitor : LatchMonitor) : LatchMonitor :=
  { monitor with threads := monitor.threads.map LatchThread.wake }

/-- What a call does as soon as it holds the lock.  A count-down past zero does nothing, and the
last one has to notify; a wait parks while the count is positive; a timed wait parks at most
once. -/
def look (monitor : LatchMonitor) (thread : Nat) (call : LatchCall) (rested : Bool) :
    LatchMonitor :=
  let park := { monitor with owner := none }.put thread ⟨call, .parked⟩
  let finish := monitor.put thread ⟨call, .leaving monitor.count⟩
  match call with
  | .countDown =>
    if monitor.count = 0 then finish
    else if monitor.count = 1 then { monitor with count := 0 }.put thread ⟨call, .notifying⟩
    else
      { monitor with count := monitor.count - 1 }.put thread ⟨call, .leaving (monitor.count - 1)⟩
  | .wait => if 0 < monitor.count then park else finish
  | .waitTimeout => if 0 < monitor.count ∧ !rested then park else finish
  | .readCount => finish

def step : LatchMove → LatchMonitor → Option LatchMonitor
  | .lock thread, monitor =>
    if monitor.owner.isSome then none
    else
      match monitor.threads[thread]? with
      | some ⟨call, .entering⟩ =>
        some ({ monitor with owner := some thread }.put thread ⟨call, .holding false⟩)
      | some ⟨call, .woken⟩ =>
        some ({ monitor with owner := some thread }.put thread ⟨call, .holding true⟩)
      | _ => none
  | .act thread, monitor =>
    match monitor.threads[thread]? with
    | some ⟨call, .holding rested⟩ => some (monitor.look thread call rested)
    | some ⟨call, .notifying⟩ =>
      some (monitor.notifyAll.put thread ⟨call, .leaving monitor.count⟩)
    | some ⟨call, .leaving seen⟩ =>
      some ({ monitor with owner := none }.put thread ⟨call, .ended seen⟩)
    | _ => none
  | .stir thread, monitor =>
    match monitor.threads[thread]? with
    | some ⟨call, .parked⟩ => some (monitor.put thread ⟨call, .woken⟩)
    | _ => none

/-- The move that a thread makes next of its own accord. -/
def offer (thread : Nat) (monitor : LatchMonitor) : Option LatchMove :=
  match monitor.threads[thread]? with
  | some ⟨_, .entering⟩ => some (.lock thread)
  | some ⟨_, .woken⟩ => some (.lock thread)
  | some ⟨_, .holding _⟩ => some (.act thread)
  | some ⟨_, .notifying⟩ => some (.act thread)
  | some ⟨_, .leaving _⟩ => some (.act thread)
  | _ => none

/-- Lets the threads take turns until none can move. -/
def run (monitor : LatchMonitor) : LatchMonitor :=
  let threads := monitor.threads.length
  (drive step (roundRobin step threads offer) (8 * threads) 0 monitor).1

end LatchMonitor

/-- A thread waits at a latch while helpers count it down, one each: whether the wait ends,
and the latch afterwards. -/
def Latch.waitWithHelpers (latch : Latch) : Bool × Latch :=
  let calls := .wait :: List.replicate latch.count .countDown
  let final := (LatchMonitor.opening latch.count calls).run
  (final.threads.head?.map (·.stage) == some (.ended 0), ⟨final.count⟩)

end StoreBench.Sync
