import StoreBench.Phase.Run
import StoreBench.Proofs.Config.Split
import StoreBench.Proofs.Phase.ClaimedNumbers
import StoreBench.Proofs.Scheduling

/-!
Contract: which calls of a phase are filed as warm-up.

Two mechanisms meet.  Each worker tells its steps before the warm-up boundary from those behind
it, and the boundary is where it meets the others; and the tracker takes the first numbers that
are claimed for the warm-up, whoever claims them.  While the gate is closed no worker has claimed
more numbers than its share of the warm-up.  Once a worker is past the gate every worker has claimed
its share, unless it was stopped or one of its steps went on after a call that failed: then calls
behind the boundary take the numbers that are left.

Owns:
- `Setting.Splits` and `Setting.Routes`, what a phase must be like;
- `State.overlookedAlong`, the failures that the steps of a schedule go on after;
- `State.Routed`, the invariant that ties the tracker to the iterations of the workers;
- the filing of calls in every run.

Does not own: how often each call is filed.
-/

namespace StoreBench.Phase

open Latency

variable {α ω σ : Type}

/-- A phase with a warm-up that is the same for all workers, operations that are split evenly,
and a workload of single calls. -/
structure Setting.Routes (setting : Setting ω σ) : Prop where
  warm : 0 < setting.warmup
  whole : setting.warmupTotal.toNat = setting.workers * setting.warmup.toNat
  even : ∀ {first second}, first < setting.workers → second < setting.workers →
    (setting.operations.getD first 0).toNat ≤ (setting.operations.getD second 0).toNat + 1
  oneCall : setting.workload.OneCall

/-! ## All workers -/

namespace State

/-- Nothing has failed so far: no start of a worker, and no routine. -/
def Unharmed (state : State α ω σ) : Prop :=
  state.spawnFault = none ∧ ∀ worker ∈ state.workers, ¬ worker.Failed

/-- The failures that steps go on after in a move. -/
def overlooked (setting : Setting ω σ) (move : Move) (state : State α ω σ) : List Failure :=
  match move with
  | .worker index _ =>
    (state.workers[index]?.bind (Worker.overlooked? setting index state.shared)).toList
  | _ => []

/-- The failures of calls that steps go on after along a schedule. -/
def overlookedAlong [Aggregate α] (setting : Setting ω σ) (moves : List Move)
    (state : State α ω σ) : List Failure :=
  noteAlong (step setting) (overlooked setting) moves state

/-- What is said of a call that is about to be filed: behind the warm-up only once nobody is
awaited any more; and, if nothing has failed and no failure was overlooked, as its iteration
tells. -/
def FilesRight (setting : Setting ω σ) (faults : List Failure) (state : State α ω σ)
    (worker : Worker) (warmup : Bool) : Prop :=
  (warmup = false → state.shared.gate.isOpen = true) ∧
    (state.Unharmed → faults = [] → (warmup = true ↔ worker.iteration < setting.warmup.toNat))

/-- The tracker has given out the numbers that the workers have claimed, and calls are filed
accordingly; `faults` are the failures that were overlooked. -/
structure Routed (setting : Setting ω σ) (faults : List Failure) (state : State α ω σ) : Prop where
  inOrder : state.InOrder setting
  target : state.shared.tracker.target = setting.warmupTotal
  claimed : ∃ numbers : Nat → Nat,
    state.shared.tracker.calls = total ((List.range setting.workers).map numbers) ∧
      ∀ {index} {worker : Worker}, state.workers[index]? = some worker →
        worker.Claimed setting.warmup.toNat (setting.operations.getD index 0).toNat
          state.shared.gate.isOpen (faults = []) (numbers index)
  serves : ∀ {index} {worker : Worker}, state.workers[index]? = some worker →
    worker.Serves setting index
  files : ∀ {index : Nat} {worker : Worker} {task later status elapsed warmup},
    state.workers[index]? = some worker →
    worker.place = .serving task later (.filing status elapsed warmup) →
    state.FilesRight setting faults worker warmup

variable {setting : Setting ω σ} {state : State α ω σ} {faults : List Failure}

theorem InOrder.exists_worker (inOrder : state.InOrder setting) {index : Nat}
    (inside : index ∈ List.range setting.workers) :
    ∃ worker, state.workers[index]? = some worker := by
  rw [List.mem_range, Setting.workers, ← inOrder.size] at inside
  exact ⟨_, List.getElem?_eq_getElem inside⟩

/-- While somebody is awaited a worker before the boundary claims a number of the warm-up. -/
theorem Routed.calls_lt (routed : state.Routed setting faults) (routes : setting.Routes)
    (isClosed : ¬ state.shared.gate.isOpen = true) {index : Nat} {worker : Worker}
    (found : state.workers[index]? = some worker) (unharmed : ¬ worker.Failed)
    (early : worker.claims < setting.warmup.toNat) :
    state.shared.tracker.calls < setting.warmupTotal.toNat := by
  obtain ⟨numbers, calls, claimed⟩ := routed.claimed
  have share : ∀ other ∈ List.range setting.workers, numbers other ≤ setting.warmup.toNat := by
    intro other inside
    obtain ⟨party, got⟩ := routed.inOrder.exists_worker inside
    exact (claimed got).share isClosed
  have own := (claimed found).atMost unharmed
  have sum := total_map_lt share (List.mem_range.2 (routed.inOrder.lt_workers found))
    (Nat.lt_of_le_of_lt own early)
  rw [total_map_of_eq fun _ _ => rfl, List.length_range] at sum
  rw [calls, routes.whole]
  exact sum

/-- Once nobody is awaited, and nothing has failed and no failure was overlooked, all numbers of the
warm-up are claimed if some worker goes beyond its share. -/
theorem Routed.le_calls (routed : state.Routed setting faults) (routes : setting.Routes)
    (isOpen : state.shared.gate.isOpen = true) (unharmed : state.Unharmed) (heeded : faults = [])
    {index : Nat} (inside : index < setting.workers)
    (beyond : setting.warmup.toNat < (setting.operations.getD index 0).toNat) :
    setting.warmupTotal.toNat ≤ state.shared.tracker.calls := by
  obtain ⟨numbers, calls, claimed⟩ := routed.claimed
  have share : ∀ other ∈ List.range setting.workers, setting.warmup.toNat ≤ numbers other := by
    intro other inRange
    obtain ⟨worker, found⟩ := routed.inOrder.exists_worker inRange
    have member := List.mem_of_getElem? found
    have party : worker ∈ state.parties := by
      rw [parties, unharmed.1]
      exact member
    have iterations := (routed.inOrder.fits found).le_claims
      (routed.inOrder.hasPlace_eq_false isOpen party) (unharmed.2 worker member)
    have same := (claimed found).exactly heeded (unharmed.2 worker member)
    have even := routes.even inside (List.mem_range.1 inRange)
    omega
  have sum := total_map_le share
  rw [total_map_of_eq fun _ _ => rfl, List.length_range] at sum
  rw [calls, routes.whole]
  exact sum

/-- If no worker has more than it has operations, all have no more than there are operations. -/
theorem InOrder.total_le (inOrder : state.InOrder setting) {numbers : Nat → Nat}
    (whole : ∀ {index : Nat} {worker : Worker}, state.workers[index]? = some worker →
      numbers index ≤ (setting.operations.getD index 0).toNat) :
    total ((List.range setting.workers).map numbers) ≤
      total (setting.operations.map UInt64.toNat) := by
  refine total_map_le_total (by rw [List.length_range, List.length_map]; rfl)
    fun {position member} got => ?_
  obtain ⟨_, rfl⟩ := List.getElem?_eq_some_iff.1 got
  rw [List.getElem_range]
  obtain ⟨worker, found⟩ := inOrder.exists_worker (List.mem_of_getElem? got)
  rw [List.getElem_range] at found
  have share := whole found
  rw [← List.getD_map _ _ UInt64.toNat] at share
  exact share

theorem Routed.calls_le (routed : state.Routed setting faults) :
    state.shared.tracker.calls ≤ total (setting.operations.map UInt64.toNat) := by
  obtain ⟨numbers, calls, claimed⟩ := routed.claimed
  rw [calls]
  exact routed.inOrder.total_le fun found => (claimed found).whole

theorem Routed.target_pos (routed : state.Routed setting faults) (routes : setting.Routes)
    {index : Nat} (inside : index < setting.workers) : 0 < state.shared.tracker.target := by
  rw [routed.target, UInt64.lt_iff_toNat_lt, routes.whole]
  exact Nat.mul_pos (Nat.zero_lt_of_lt inside) routes.warm

/-- The number that a worker claims is right. -/
theorem Routed.claim_right (routed : state.Routed setting faults) (routes : setting.Routes)
    {index : Nat} {worker : Worker} (spawned : index < state.spawned)
    (found : state.workers[index]? = some worker) {task : Mix.Task} {later : List Mix.Task}
    {status : Status} {elapsed : UInt64}
    (stands : worker.place = .serving task later (.timed status elapsed)) :
    state.FilesRight setting faults worker state.shared.tracker.claim.1 := by
  obtain ⟨routine, unfinished, stage⟩ := (routed.inOrder.fits found).serving stands
  have inside := routed.inOrder.lt_workers found
  have party : worker ∈ state.parties := by
    rw [← getElem?_parties spawned] at found
    exact List.mem_of_getElem? found
  have claims : worker.claims = worker.iteration := by rw [Worker.claims, stands]
  have target := routed.target_pos routes inside
  have flag : state.shared.tracker.claim.1 =
      decide (state.shared.tracker.calls < setting.warmupTotal.toNat) := by
    rw [Tracker.claim, if_pos target, routed.target]
  rw [flag, FilesRight, decide_eq_false_iff_not, decide_eq_true_eq]
  rcases stage with ⟨hasPlace, early⟩ | ⟨hasPlace, boundary, isOpen⟩
  · -- the worker itself is awaited
    have isClosed : ¬ state.shared.gate.isOpen = true := by
      intro isOpen
      rw [routed.inOrder.hasPlace_eq_false isOpen party] at hasPlace
      cases hasPlace
    have first := routed.calls_lt routes isClosed found (Worker.not_failed_of_routine routine)
      (by rw [claims]; exact early)
    exact ⟨fun last => absurd first last, fun _ _ => ⟨fun _ => early, fun _ => first⟩⟩
  · refine ⟨fun _ => isOpen, ?_⟩
    intro unharmed heeded
    have last := routed.le_calls routes isOpen unharmed heeded inside
      (Nat.lt_of_le_of_lt boundary unfinished)
    omega

theorem InOrder.unharmed_of_fires [Aggregate α] {move : Move} {after : State α ω σ}
    (inOrder : state.InOrder setting) (fires : state.Fires setting move after)
    (unharmed : after.Unharmed) : state.Unharmed := by
  cases fires with
  | @worker index fate worker next shared spawned found advance =>
    refine ⟨unharmed.1, ?_⟩
    intro other member failed
    obtain ⟨position, got⟩ := List.getElem?_of_mem member
    have inside := (List.getElem?_eq_some_iff.1 found).1
    by_cases same : index = position
    · subst same
      rw [found] at got
      cases got
      exact unharmed.2 next (List.mem_of_getElem? (List.getElem?_set_self inside))
        (advance.failed (inOrder.fits found) failed)
    · rw [← List.getElem?_set_ne same] at got
      exact unharmed.2 other (List.mem_of_getElem? got) failed
  | spawned | joined | timeStopped | concluded | roused | wrote => exact unharmed
  | stoodIn => cases unharmed.1

theorem serves_of_fires [Aggregate α] {move : Move} {after : State α ω σ}
    (fires : state.Fires setting move after) (oneCall : setting.workload.OneCall)
    (serves : ∀ {index : Nat} {worker : Worker}, state.workers[index]? = some worker →
      worker.Serves setting index)
    {index : Nat} {worker : Worker} (found : after.workers[index]? = some worker) :
    worker.Serves setting index := by
  cases fires with
  | worker spawned inside advance =>
    rcases of_getElem?_set found with ⟨rfl, rfl⟩ | ⟨_, found⟩
    · exact advance.serves oneCall (serves inside)
    · exact serves found
  | spawned | stoodIn | joined | timeStopped | concluded | roused | wrote => exact serves found

theorem routed_opening (setting : Setting ω σ) (world : σ) (work : ω) (meter : Meter α)
    (now : UInt64) : (opening setting world work meter now).Routed setting [] := by
  refine ⟨inOrder_opening setting world work meter now, rfl, ⟨fun _ => 0, ?_, ?_⟩, ?_, ?_⟩
  · rw [total_map_of_eq fun _ _ => rfl, Nat.mul_zero]
    rfl
  · intro index worker found
    rw [worker_opening (List.mem_of_getElem? found)]
    exact Worker.claimed_fresh _ _ _ _ _
  · intro index worker found
    rw [worker_opening (List.mem_of_getElem? found)]
    exact Worker.serves_fresh _ _ _
  · intro index worker task later status elapsed warmup found stands
    rw [worker_opening (List.mem_of_getElem? found)] at stands
    cases stands

theorem InOrder.filesRight_of_fires [Aggregate α] {move : Move} {after : State α ω σ}
    (inOrder : state.InOrder setting) (fires : state.Fires setting move after) {worker : Worker}
    {warmup : Bool} (right : state.FilesRight setting faults worker warmup)
    (more : List Failure) : after.FilesRight setting (faults ++ more) worker warmup := by
  refine ⟨fun measured => isOpen_of_fires fires (right.1 measured), fun unharmed heeded => ?_⟩
  exact right.2 (inOrder.unharmed_of_fires fires unharmed) (List.append_eq_nil_iff.1 heeded).1

theorem Routed.fires [Aggregate α] {move : Move} {after : State α ω σ}
    (routed : state.Routed setting faults) (routes : setting.Routes)
    (fires : state.Fires setting move after) :
    after.Routed setting (faults ++ state.overlooked setting move) := by
  have inOrder := routed.inOrder.fires fires
  have opens := isOpen_of_fires fires
  have serving {index : Nat} {worker : Worker} (got : after.workers[index]? = some worker) :
      worker.Serves setting index :=
    serves_of_fires fires routes.oneCall routed.serves got
  have kept {worker : Worker} {warmup : Bool}
      (right : state.FilesRight setting faults worker warmup) :=
    routed.inOrder.filesRight_of_fires fires right (state.overlooked setting move)
  obtain ⟨numbers, calls, claimed⟩ := routed.claimed
  cases fires with
  | @worker index fate worker next shared spawned found advance =>
    have inside := routed.inOrder.lt_workers found
    have serves : worker.Serves setting index := routed.serves found
    have noted : state.overlooked setting (.worker index fate) =
        (worker.overlooked? setting index state.shared).toList := by
      rw [overlooked, found, Option.bind_some]
    obtain ⟨more, target, amount, own⟩ := advance.claimed routes.oneCall serves
      (routed.target_pos routes inside) (routed.inOrder.fits found) (claimed found)
    refine ⟨inOrder, target.trans routed.target, ?_, serving, ?_⟩
    · rw [noted]
      refine exists_shares (fun other member => member.Claimed setting.warmup.toNat
        (setting.operations.getD other 0).toNat shared.gate.isOpen
        (faults ++ (worker.overlooked? setting index state.shared).toList = [])) inside calls amount
        (own.mono id fun heeded => ?_) fun got => (claimed got).mono opens fun heeded => ?_
      · rw [List.append_eq_nil_iff, Option.toList_eq_nil_iff] at heeded
        exact heeded
      · exact (List.append_eq_nil_iff.1 heeded).1
    · intro other member task later status elapsed warmup got stands
      rcases of_getElem?_set got with ⟨rfl, rfl⟩ | ⟨_, got⟩
      · obtain ⟨before, iteration, rfl⟩ := advance.filing stands
        have right := kept (routed.claim_right routes spawned found before)
        exact ⟨right.1, by rw [iteration]; exact right.2⟩
      · exact kept (routed.files got stands)
  | spawned | stoodIn | joined | timeStopped | concluded | roused | wrote =>
    refine ⟨inOrder, routed.target, ⟨numbers, calls, fun got => ?_⟩, serving,
      fun got stands => kept (routed.files got stands)⟩
    exact (claimed got).mono opens fun heeded => (List.append_eq_nil_iff.1 heeded).1

theorem Routed.of_follow [Aggregate α] (routes : setting.Routes) {world : σ} {work : ω}
    {meter : Meter α} {now : UInt64} {moves : List Move}
    (followed : follow (step setting) moves (opening setting world work meter now) =
      some state) :
    state.Routed setting ((opening setting world work meter now).overlookedAlong setting moves) :=
  noteAlong_invariant followed (routed_opening setting world work meter now)
    fun routed steps => routed.fires routes (fires_of_step steps).2

end State

/-! ## Phases of a configuration -/

/-- The operations and the warm-up of a phase are those that a configuration fixes, and the warm-up
of all workers fits in a word. -/
structure Setting.Splits (config : Config) (setting : Setting ω σ) : Prop where
  operations : setting.operations = config.opsPerWorker setting.kind
  warmupTotal : setting.warmupTotal.toNat = config.workers.toNat * setting.warmup.toNat

theorem splits_settingOf (config : Config) (kind : Kind) (exits : Bool)
    (workload : Mix.Workload ω) (clients : Store.Clients σ) :
    (settingOf config kind exits workload clients).Splits config := by
  have workers : (settingOf config kind exits workload clients).workers = config.workers.toNat :=
    config.length_opsPerWorker kind
  have word : config.workers.toNat.toUInt64 = config.workers := UInt64.ofNat_toNat
  refine ⟨rfl, ?_⟩
  rw [Setting.warmupTotal, workers, word, Nat.mul_comm]
  cases kind with
  | load => simp [settingOf]
  | run => exact config.toNat_warmupTarget

theorem routes_settingOf (config : Config) (exits : Bool) {workload : Mix.Workload ω}
    (clients : Store.Clients σ) (warm : 0 < config.warmupPerWorker) (oneCall : workload.OneCall) :
    (settingOf config .run exits workload clients).Routes := by
  have workers : (settingOf config .run exits workload clients).workers = config.workers.toNat :=
    config.length_opsPerWorker .run
  refine ⟨warm, ?_, ?_, oneCall⟩
  · rw [workers, (splits_settingOf config .run exits workload clients).warmupTotal]
  · intro first second firstInside secondInside
    rw [workers] at firstInside secondInside
    show ((config.opsPerWorker .run).getD first 0).toNat ≤
      ((config.opsPerWorker .run).getD second 0).toNat + 1
    rw [config.getD_opsPerWorker .run firstInside, config.getD_opsPerWorker .run secondInside]
    exact config.opsOf_le_succ .run first second

/-- The numbers that a run phase gives out fit in 64 bits. -/
theorem tracker_calls_lt [Aggregate α] (config : Config) (exits : Bool)
    (workload : Mix.Workload ω) (clients : Store.Clients σ) (warm : 0 < config.warmupPerWorker)
    (oneCall : workload.OneCall) (world : σ) (work : ω) (meter : Meter α) (now : UInt64)
    {state : State α ω σ}
    (reaches : Reaches (State.step (settingOf config .run exits workload clients))
      (State.opening (settingOf config .run exits workload clients) world work meter now) state) :
    state.shared.tracker.calls < UInt64.size := by
  obtain ⟨moves, followed⟩ := exists_follow reaches
  have routes := routes_settingOf config exits clients warm oneCall
  have calls := (State.Routed.of_follow routes followed).calls_le
  have whole := config.total_opsPerWorker .run
  exact Nat.lt_of_le_of_lt calls (whole ▸ (config.phaseOps .run).toNat_lt)

end StoreBench.Phase
