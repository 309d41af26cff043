/-
This file says what becomes of the commands a queue is given: whatever is called, answered or
reset in whatever order, the promise of every call is queued, under way or settled, once.

Nor does a lane stall. Pumps of a lane may run one above the other, and the first to end says that
the lane is not drained. But each looks at the lane again before it ends, so the last one leaves
no work behind.
-/

import OpenClaw.Process.ActiveTaskWaits

namespace OpenClaw.CommandQueue

open Machine

/-- The promise a frame has yet to settle. -/
@[simp] def Frame.promises : Frame → List ℕ
  | .onWait _ entry | .settling entry _ => [entry.promise]
  | .task running => [running.entry.promise]
  | .pump _ | .resetting _ => []

@[simp] def LaneState.promises (laneState : LaneState) : List ℕ :=
  laneState.queue.map (·.promise)

/-- The promises of the calls so far: queued, dequeued, awaited or settled. -/
def QueueState.everywhere (state : QueueState) : List ℕ :=
  state.lanes.values.flatMap LaneState.promises ++ state.stack.flatMap Frame.promises ++
    state.awaiting.map (·.entry.promise) ++ state.promises.map Prod.fst

def toCome (nextPromise promise : ℕ) : ℕ := if promise < nextPromise then 0 else 1

/-- In how many places a promise is; one that no call has made yet is still to come. -/
@[simp] def QueueState.places (state : QueueState) (promise : ℕ) : ℕ :=
  (state.lanes.values.flatMap LaneState.promises).count promise +
    (state.stack.flatMap Frame.promises).count promise +
    (state.awaiting.map (·.entry.promise)).count promise +
    (state.promises.map Prod.fst).count promise + toCome state.nextPromise promise

variable {state next : QueueState} {promise : ℕ}

/-- Setting a lane exchanges the promises of its queue. -/
theorem places_setLane (state : QueueState) (promise : ℕ) (lane : String) (laneState : LaneState) :
    (state.setLane lane laneState).places promise + (state.lane lane).promises.count promise =
      state.places promise + laneState.promises.count promise := by
  have share : ∀ {entries others : List (String × LaneState)}, entries.Perm others →
      ((entries.map Prod.snd).flatMap LaneState.promises).count promise =
        ((others.map Prod.snd).flatMap LaneState.promises).count promise :=
    fun same => ((same.map _).flatMap_right _).count_eq promise
  simp only [QueueState.places, QueueState.lane, QueueState.setLane, OrderedMap.values,
    share (state.lanes.perm_entries_set lane laneState), share (state.lanes.perm_entries lane)]
  cases state.lanes.get lane <;> simp <;> omega

theorem places_setLane_of_queue (state : QueueState) (promise : ℕ) (lane : String)
    (laneState : LaneState) (queue : laneState.queue = (state.lane lane).queue) :
    (state.setLane lane laneState).places promise = state.places promise := by
  have exchanged := places_setLane state promise lane laneState
  rw [LaneState.promises, LaneState.promises, queue] at exchanged
  exact Nat.add_right_cancel exchanged

theorem places_notify (state : QueueState) :
    (notifyActiveTaskWaiters state).places promise = state.places promise := by
  rw [notifyActiveTaskWaiters_eq]
  rfl

theorem places_drainLane (lane : String) :
    (drainLane state lane).places promise = state.places promise := by
  rw [drainLane]
  split
  · rfl
  · exact places_setLane_of_queue state promise lane { state.lane lane with draining := true } rfl

theorem places_startTask (lane : String) (entry : QueueEntry) :
    (startTask state lane entry).places promise =
      state.places promise + [entry.promise].count promise := by
  have kept := places_setLane_of_queue state promise lane { state.lane lane with
    activeTaskIds := (state.lane lane).activeTaskIds ++ [state.nextTaskId] } rfl
  simp [startTask, QueueState.setLane, List.count_cons] at kept ⊢
  omega

/-- A turn of a pump leaves the promise it takes off the queue with its entry. -/
theorem places_pumpTurn {lane : String} {below : List Frame}
    (onTop : state.stack = .pump lane :: below) (late : Bool) :
    (pumpTurn state lane below late).places promise = state.places promise := by
  have popped := places_setLane_of_queue state promise lane
    { state.lane lane with draining := false } rfl
  rw [pumpTurn]
  dsimp only
  split
  · rename_i entry queue split
    have taken := places_setLane state promise lane { state.lane lane with queue }
    simp only [LaneState.promises, split, List.map_cons, List.count_cons] at taken
    split
    · split
      · simp [QueueState.setLane, List.count_cons] at taken ⊢
        omega
      · rw [places_startTask, List.count_singleton]
        omega
    · simpa [onTop, QueueState.setLane] using popped
  · simpa [onTop, QueueState.setLane] using popped

theorem places_completeTask (task : Task) (outcome : Outcome) :
    (completeTask state task outcome).places promise =
      state.places promise + [task.entry.promise].count promise := by
  rw [completeTask]
  dsimp only
  split
  · rw [QueueState.places, notifyActiveTaskWaiters_eq]
    have kept := places_setLane_of_queue state promise task.lane { state.lane task.lane with
      activeTaskIds := (state.lane task.lane).activeTaskIds.filter (· ≠ task.taskId) } rfl
    simp [QueueState.setLane, QueueState.lane, List.count_cons] at kept ⊢
    omega
  · simp [List.count_cons]
    omega

/-- A call makes its promise, and puts it into its lane or settles it. -/
theorem places_enqueue (lane : String) (hasOnWait : Bool) :
    (enqueueCommandInLane state lane hasOnWait).places promise = state.places promise := by
  have made : toCome state.nextPromise promise =
      toCome (state.nextPromise + 1) promise + [state.nextPromise].count promise := by
    rw [List.count_singleton, toCome, toCome]
    grind
  rw [enqueueCommandInLane]
  dsimp only
  split
  · simp at made ⊢
    omega
  · rw [places_drainLane]
    have queued := places_setLane { state with nextPromise := state.nextPromise + 1 } promise
      (normalizeLane lane) { state.lane (normalizeLane lane) with
        queue := (state.lane (normalizeLane lane)).queue ++ [⟨state.nextPromise, hasOnWait⟩] }
    simp [QueueState.lane, QueueState.setLane] at made queued ⊢
    omega

theorem places_runCall (call : Call) :
    (runCall state call).places promise = state.places promise := by
  cases call with
  | enqueueCommandInLane lane hasOnWait => exact places_enqueue lane hasOnWait
  | setCommandLaneConcurrency lane maxConcurrent =>
    exact (places_drainLane _).trans (places_setLane_of_queue state promise _ _ rfl)
  | clearCommandLane lane =>
    rw [runCall, clearCommandLane]
    dsimp only
    split
    · rfl
    · rename_i laneState found
      have emptied := places_setLane state promise (normalizeLane lane)
        { laneState with queue := [] }
      simp [QueueState.lane, QueueState.setLane, found, Function.comp_def] at emptied ⊢
      omega
  | markGatewayDraining => rfl
  | resetAllLanes =>
    simp [runCall, resetAllLanes, OrderedMap.values, OrderedMap.mapValues, List.flatMap_map]
  | waitForActiveTasks timeoutMs =>
    rw [runCall, waitForActiveTasks]
    dsimp only
    split
    · rfl
    split
    · rfl
    · exact places_notify _

/-- What a step can do. -/
inductive Taken (state : QueueState) : QueueState → Prop
  | call (call : Call) : Taken state (runCall state call)
  | pump {lane below} (late : Bool) (onTop : state.stack = .pump lane :: below) :
    Taken state (pumpTurn state lane below late)
  | settle {entry outcome below} (onTop : state.stack = .settling entry outcome :: below) :
    Taken state { state with
      stack := below, promises := state.promises ++ [(entry.promise, .task outcome)] }
  | drain {lane lanes below} (onTop : state.stack = .resetting (lane :: lanes) :: below) :
    Taken state (drainLane { state with stack := .resetting lanes :: below } lane)
  | drained {below} (onTop : state.stack = .resetting [] :: below) :
    Taken state (notifyActiveTaskWaiters { state with stack := below })
  | start {lane entry below} (onTop : state.stack = .onWait lane entry :: below) :
    Taken state (startTask { state with stack := below } lane entry)
  | await {task below} (onTop : state.stack = .task task :: below) :
    Taken state { state with stack := below, awaiting := state.awaiting ++ [task] }
  | throw {task below} (outcome : Outcome) (onTop : state.stack = .task task :: below) :
    Taken state (completeTask { state with stack := below } task outcome)
  | complete {task} (outcome : Outcome) (awaited : task ∈ state.awaiting) :
    Taken state (completeTask { state with awaiting := state.awaiting.erase task } task outcome)
  | timeout (waiter : ActiveTaskWaiter) : Taken state (resolveActiveTaskWaiter state waiter false)

theorem taken_of_step {action : Action} (taken : step state action = some next) :
    Taken state next := by
  cases action <;> simp only [step, resumeFrame] at taken <;> split at taken <;>
    first | obtain ⟨⟩ := taken | (split at taken <;> obtain ⟨⟩ := taken)
  · exact .call _
  · exact .pump _ ‹_›
  · exact .settle ‹_›
  · exact .drain ‹_›
  · exact .drained ‹_›
  · exact .start ‹_›
  · exact .await ‹_›
  · exact .throw _ ‹_›
  · exact .complete _ (List.mem_of_find?_eq_some ‹_›)
  · exact .timeout _

/-- Every step leaves every promise in as many places as it was in. -/
theorem places_step (taken : Taken state next) : next.places promise = state.places promise := by
  cases taken with
  | call call => exact places_runCall call
  | pump late onTop => exact places_pumpTurn onTop late
  | settle onTop | await onTop =>
    simp [onTop, List.count_cons]
    omega
  | drain onTop =>
    rw [places_drainLane]
    simp [onTop]
  | drained onTop =>
    rw [places_notify]
    simp [onTop]
  | start onTop =>
    rw [places_startTask]
    simp [onTop, List.count_cons]
    omega
  | throw outcome onTop =>
    rw [places_completeTask]
    simp [onTop, List.count_cons]
    omega
  | complete outcome awaited =>
    have split := ((List.perm_cons_erase awaited).map (·.entry.promise)).count_eq promise
    rw [places_completeTask]
    simp [List.count_cons] at split ⊢
    omega
  | timeout waiter =>
    rw [resolveActiveTaskWaiter]
    split <;> rfl

/-- In every state the queue can come to, the promises of all calls so far are queued, under way
or settled, each of them once. -/
theorem commands_are_accounted_for (reached : Reachable state) :
    state.everywhere.Perm (List.range state.nextPromise) := by
  obtain ⟨actions, run⟩ := reached
  have once : ∀ promise, state.places promise = 1 := fun promise =>
    run.invariant (fun _ _ _ once _ taken => (places_step (taken_of_step taken)).trans once)
      (by rfl)
  refine List.perm_iff_count.2 fun promise => ?_
  have place := once promise
  rw [QueueState.places, toCome] at place
  simp only [QueueState.everywhere, List.count_append, List.nodup_range.count, List.mem_range]
  grind

/-- A command is running and another one waits behind it. -/
theorem waiting_commands_are_accounted_for : ∃ state : QueueState, state.everywhere = [1, 0] ∧
    state.everywhere.Perm (List.range state.nextPromise) := by
  let actions : List Action := [.call (.enqueueCommandInLane "main" false), .resume false,
    .taskReturns, .resume false, .call (.enqueueCommandInLane "main" false)]
  exact ⟨(execute step QueueState.initial actions).getD {}, by decide,
    commands_are_accounted_for ⟨actions, steps_of_execute (by decide)⟩⟩

/-! ### No lane stalls -/

/-- A lane that could start a command. -/
@[grind] def LaneState.HasWork (laneState : LaneState) : Prop :=
  laneState.queue ≠ [] ∧ laneState.activeTaskIds.length < laneState.maxConcurrent

/-- The lanes a frame pumps, or will. -/
@[simp] def Frame.attends : Frame → List String
  | .pump lane => [lane]
  | .resetting lanes => lanes
  | _ => []

/-- A lane that is drained has its pump, and a lane that has work is attended to. -/
structure QueueState.Attended (state : QueueState) (lane : String) : Prop where
  draining : (state.lane lane).draining = true → .pump lane ∈ state.stack
  working : (state.lane lane).HasWork → lane ∈ state.stack.flatMap Frame.attends

variable {lane other : String}

section

attribute [local simp] QueueState.setLane QueueState.lane OrderedMap.get_set

theorem attended_drainLane (own : (state.lane lane).draining = true → .pump lane ∈ state.stack)
    (others : other ≠ lane → state.Attended other) : (drainLane state lane).Attended other := by
  rw [drainLane]
  by_cases same : other = lane
  · subst same
    split
    next drains => exact ⟨own, fun _ => List.mem_flatMap.2 ⟨_, own drains, List.mem_cons_self⟩⟩
    next => exact ⟨fun _ => List.mem_cons_self, fun _ => by simp⟩
  · obtain ⟨draining, working⟩ := others same
    split
    · exact ⟨draining, working⟩
    · constructor <;> simp at * <;> grind

theorem attended_startTask (entry : QueueEntry) (attended : state.Attended other) :
    (startTask state lane entry).Attended other := by
  obtain ⟨draining, working⟩ := attended
  constructor <;> simp [startTask] at * <;> grind

theorem attended_pumpTurn {below : List Frame} (onTop : state.stack = .pump lane :: below)
    (late : Bool) (attended : state.Attended other) :
    (pumpTurn state lane below late).Attended other := by
  obtain ⟨draining, working⟩ := attended
  rw [pumpTurn]
  dsimp only
  split
  · split
    · split
      · constructor <;> simp [onTop] at * <;> grind
      · refine attended_startTask _ ?_
        constructor <;> simp [onTop] at * <;> grind
    · constructor <;> simp [onTop] at * <;> grind
  · constructor <;> simp [onTop] at * <;> grind

theorem attended_completeTask (task : Task) (outcome : Outcome) (attended : state.Attended other) :
    (completeTask state task outcome).Attended other := by
  obtain ⟨draining, working⟩ := attended
  rw [completeTask]
  dsimp only
  split
  · rw [notifyActiveTaskWaiters_eq]
    constructor <;> simp at * <;> grind
  · constructor <;> simp at * <;> grind

/-- The lanes with a queue are drained after a reset. -/
theorem attended_resetAllLanes : (resetAllLanes state).Attended other := by
  cases found : state.lanes.get other with
  | none => constructor <;> simp [resetAllLanes, found, LaneState.HasWork]
  | some laneState =>
    have := (OrderedMap.get_eq_some_iff _ _ _).1 found
    constructor <;> simp [resetAllLanes, found, LaneState.HasWork]
    grind

theorem attended_runCall (call : Call) (attended : ∀ other, state.Attended other) :
    (runCall state call).Attended other := by
  obtain ⟨draining, working⟩ := attended other
  cases call with
  | enqueueCommandInLane lane hasOnWait =>
    have own := (attended (normalizeLane lane)).draining
    rw [runCall, enqueueCommandInLane]
    dsimp only
    split
    · exact ⟨draining, working⟩
    · refine attended_drainLane ?_ fun different => ?_
      · simpa using own
      · constructor <;> simp at * <;> grind
  | setCommandLaneConcurrency lane maxConcurrent =>
    have own := (attended (normalizeLane lane)).draining
    refine attended_drainLane ?_ fun different => ?_
    · simpa using own
    · constructor <;> simp at * <;> grind
  | clearCommandLane lane =>
    rw [runCall, clearCommandLane]
    dsimp only
    split
    · exact ⟨draining, working⟩
    · constructor <;> simp at * <;> grind
  | markGatewayDraining => exact ⟨draining, working⟩
  | resetAllLanes => exact attended_resetAllLanes
  | waitForActiveTasks timeoutMs =>
    rw [runCall, waitForActiveTasks, notifyActiveTaskWaiters_eq]
    dsimp only
    split
    · exact ⟨draining, working⟩
    split <;> exact ⟨draining, working⟩

theorem attended_step (taken : Taken state next) (attended : ∀ other, state.Attended other)
    (other : String) : next.Attended other := by
  obtain ⟨draining, working⟩ := attended other
  have popped : ∀ {frame : Frame} {below : List Frame}, state.stack = frame :: below →
      frame.attends = [] → { state with stack := below }.Attended other := fun onTop idle => by
    constructor <;> simp [onTop, idle] at * <;> grind [Frame.attends]
  cases taken with
  | call call => exact attended_runCall call attended
  | pump late onTop => exact attended_pumpTurn onTop late ⟨draining, working⟩
  | settle onTop | await onTop =>
    obtain ⟨draining, working⟩ := popped onTop rfl
    exact ⟨draining, working⟩
  | @drain lane lanes below onTop =>
    have own := (attended lane).draining
    refine attended_drainLane ?_ fun different => ?_
    · simpa [onTop] using own
    · constructor <;> simp [onTop] at * <;> grind
  | drained onTop =>
    obtain ⟨draining, working⟩ := popped onTop rfl
    rw [notifyActiveTaskWaiters_eq]
    exact ⟨draining, working⟩
  | start onTop => exact attended_startTask _ (popped onTop rfl)
  | throw outcome onTop => exact attended_completeTask _ _ (popped onTop rfl)
  | complete outcome => exact attended_completeTask _ _ ⟨draining, working⟩
  | timeout waiter =>
    rw [resolveActiveTaskWaiter]
    split <;> exact ⟨draining, working⟩

end

/-- Whenever the queue is not at work, no lane has a command that it could start. -/
theorem no_lane_stalls (reached : Reachable state) (idle : state.stack = []) (lane : String) :
    (state.lane lane).queue = [] ∨
      (state.lane lane).maxConcurrent ≤ (state.lane lane).activeTaskIds.length := by
  obtain ⟨actions, run⟩ := reached
  have attended : ∀ other, state.Attended other :=
    run.invariant (fun _ _ _ attended _ taken => attended_step (taken_of_step taken) attended)
      fun _ => ⟨fun drains => absurd drains Bool.false_ne_true, fun works => absurd rfl works.1⟩
  by_contra stalls
  rw [not_or, Nat.not_le] at stalls
  have works := (attended lane).working stalls
  simp [idle] at works

/-- A command waits for the one that runs. -/
theorem no_lane_stalls_behind_a_task : ∃ state : QueueState, (state.lane "main").queue ≠ [] ∧
    ((state.lane "main").queue = [] ∨
      (state.lane "main").maxConcurrent ≤ (state.lane "main").activeTaskIds.length) := by
  let actions : List Action := [.call (.enqueueCommandInLane "main" false), .resume false,
    .taskReturns, .resume false, .call (.enqueueCommandInLane "main" false), .resume false]
  exact ⟨(execute step QueueState.initial actions).getD {}, by decide,
    no_lane_stalls ⟨actions, steps_of_execute (by decide)⟩ (by decide) "main"⟩

/-- No task completes twice, and the slots of a lane are held by tasks of its generation that have
not completed. -/
theorem slots_are_held_by_live_tasks (reached : Reachable state) : state.completedIds.Nodup ∧
    ∀ lane, ∀ taskId ∈ (state.lane lane).activeTaskIds, taskId ∉ state.completedIds ∧
      ∃ task ∈ state.live, task.taskId = taskId ∧ task.lane = lane ∧
        task.taskGeneration = (state.lane lane).generation := by
  have kept := tasksKept_of_reachable reached
  refine ⟨(List.nodup_append.1 kept.distinct).2.1, fun lane taskId active => ⟨fun completed => ?_,
    kept.active lane taskId active⟩⟩
  exact kept.not_active completed (mem_activeTasks.2 ⟨lane, active⟩)

theorem slot_is_held_by_its_task : ∃ state : QueueState, 1 ∉ state.completedIds ∧
    ∃ task ∈ state.live, task.taskId = 1 ∧ task.lane = "main" ∧
      task.taskGeneration = (state.lane "main").generation := by
  let actions : List Action := [.call (.enqueueCommandInLane "main" false), .resume false]
  exact ⟨(execute step QueueState.initial actions).getD {},
    (slots_are_held_by_live_tasks ⟨actions, steps_of_execute (by decide)⟩).2 "main" 1 (by decide)⟩

end OpenClaw.CommandQueue
