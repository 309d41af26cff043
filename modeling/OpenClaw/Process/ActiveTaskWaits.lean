/-
This file proves that waiting for active tasks is exact.

What a step can do to the tasks and to those who wait for them is said once: it starts a task,
brings one to its completion, resets the lanes, registers a waiter, answers waiters, or does
nothing to either (`effect_of_step`). Every task is live until it completes, the active ids of a
lane are ids of live tasks of that lane and its generation, and ids are not used twice; so a task
that has completed is active in no lane. Without a reset the converse holds too, from a state on:
what was active there is active or has completed. A waiter is registered as long as one of its
tasks is active, because the one step that makes a task inactive also tells the waiters.
-/

import OpenClaw.Process.CommandQueue

namespace OpenClaw.CommandQueue

open Machine

/-! ### What the operations do to tasks and waiters -/

def Frame.task? : Frame → Option Task
  | .task running => some running
  | _ => none

/-- The tasks that have started and not completed. -/
def QueueState.live (state : QueueState) : List Task :=
  state.awaiting ++ state.stack.filterMap Frame.task?

def QueueState.completedIds (state : QueueState) : List ℕ :=
  state.completed.map fun entry => entry.1.taskId

@[simp] theorem lane_setLane (state : QueueState) (lane other : String) (laneState : LaneState) :
    (state.setLane lane laneState).lane other =
      if other = lane then laneState else state.lane other := by
  rw [QueueState.setLane, QueueState.lane, QueueState.lane]
  dsimp only
  rw [OrderedMap.get_set]
  split
  · rfl
  · rfl

variable {state : QueueState}

theorem mem_activeTasks {taskId : ℕ} :
    taskId ∈ state.activeTasks ↔ ∃ lane, taskId ∈ (state.lane lane).activeTaskIds := by
  rw [QueueState.activeTasks, List.mem_flatMap]
  constructor
  · rintro ⟨laneState, member, active⟩
    obtain ⟨lane, found⟩ := (state.lanes.mem_values_iff laneState).1 member
    exact ⟨lane, by rwa [QueueState.lane, found]⟩
  · rintro ⟨lane, active⟩
    rw [QueueState.lane] at active
    cases found : state.lanes.get lane with
    | none => rw [found] at active; cases active
    | some laneState =>
      rw [found] at active
      exact ⟨laneState, (state.lanes.mem_values_iff laneState).2 ⟨lane, found⟩, active⟩

theorem hasPendingActiveTasks_iff (state : QueueState) (taskIds : List ℕ) :
    hasPendingActiveTasks state taskIds = true ↔
      ∃ taskId ∈ taskIds, taskId ∈ state.activeTasks := by
  simp only [hasPendingActiveTasks, List.any_eq_true, List.contains_iff_mem, QueueState.activeTasks,
    List.mem_flatMap]
  constructor
  · rintro ⟨laneState, member, taskId, active, inIds⟩
    exact ⟨taskId, inIds, laneState, member, active⟩
  · rintro ⟨taskId, inIds, laneState, member, active⟩
    exact ⟨laneState, member, taskId, active, inIds⟩

/-- The tasks that are active and those that have completed are the same. -/
structure SameLanes (state next : QueueState) : Prop where
  active : ∀ lane, (next.lane lane).activeTaskIds = (state.lane lane).activeTaskIds
  generation : ∀ lane, (next.lane lane).generation = (state.lane lane).generation
  completed : next.completed = state.completed
  nextTaskId : next.nextTaskId = state.nextTaskId

/-- Nothing but the live tasks has changed of what concerns tasks and waiters. -/
structure SameButLive (state next : QueueState) : Prop extends SameLanes state next where
  waiters : next.activeTaskWaiters = state.activeTaskWaiters
  waits : next.waits = state.waits
  nextWaiter : next.nextWaiter = state.nextWaiter

/-- Nothing has. -/
structure Quiet (state next : QueueState) : Prop extends SameButLive state next where
  live : next.live.Perm state.live

theorem Quiet.refl (state : QueueState) : Quiet state state where
  active _ := rfl
  generation _ := rfl
  completed := rfl
  nextTaskId := rfl
  waiters := rfl
  waits := rfl
  nextWaiter := rfl
  live := .rfl

theorem Quiet.trans {first second third : QueueState} (before : Quiet first second)
    (after : Quiet second third) : Quiet first third where
  active lane := (after.active lane).trans (before.active lane)
  generation lane := (after.generation lane).trans (before.generation lane)
  completed := after.completed.trans before.completed
  nextTaskId := after.nextTaskId.trans before.nextTaskId
  waiters := after.waiters.trans before.waiters
  waits := after.waits.trans before.waits
  nextWaiter := after.nextWaiter.trans before.nextWaiter
  live := after.live.trans before.live

/-- A lane may change but for its active tasks and its generation. -/
theorem quiet_setLane {lane : String} {laneState : LaneState}
    (active : laneState.activeTaskIds = (state.lane lane).activeTaskIds)
    (generation : laneState.generation = (state.lane lane).generation) :
    Quiet state (state.setLane lane laneState) where
  active other := by
    rw [lane_setLane]
    split
    next same => rw [same, active]
    next => rfl
  generation other := by
    rw [lane_setLane]
    split
    next same => rw [same, generation]
    next => rfl
  completed := rfl
  nextTaskId := rfl
  waiters := rfl
  waits := rfl
  nextWaiter := rfl
  live := .rfl

/-- The stack may change but for the tasks on it. -/
theorem quiet_stack {stack : List Frame}
    (tasks : stack.filterMap Frame.task? = state.stack.filterMap Frame.task?) :
    Quiet state { state with stack } where
  active _ := rfl
  generation _ := rfl
  completed := rfl
  nextTaskId := rfl
  waiters := rfl
  waits := rfl
  nextWaiter := rfl
  live := by rw [QueueState.live, QueueState.live, tasks]

theorem quiet_drainLane (state : QueueState) (lane : String) :
    Quiet state (drainLane state lane) := by
  rw [drainLane]
  split
  · exact .refl state
  · have drained : Quiet state
        (state.setLane lane { state.lane lane with draining := true }) := quiet_setLane rfl rfl
    exact drained.trans (quiet_stack rfl)

/-- The waiters that stay are those with a task that is active. -/
theorem notifyActiveTaskWaiters_eq (state : QueueState) :
    notifyActiveTaskWaiters state =
      { state with
        activeTaskWaiters := state.activeTaskWaiters.filter fun waiter =>
          hasPendingActiveTasks state waiter.activeTaskIds
        waits := state.waits ++ (state.activeTaskWaiters.filter fun waiter =>
          !hasPendingActiveTasks state waiter.activeTaskIds).map fun waiter =>
            (waiter.id, true) } := by
  -- what has been told already, and what is to come
  suffices general : ∀ (rest told : List ActiveTaskWaiter) (waits : List (ℕ × Bool)),
      (∀ waiter ∈ told, hasPendingActiveTasks state waiter.activeTaskIds = true) →
      rest.foldl
        (fun state waiter =>
          if waiter.activeTaskIds.isEmpty || !hasPendingActiveTasks state waiter.activeTaskIds then
            resolveActiveTaskWaiter state waiter true
          else state) { state with activeTaskWaiters := told ++ rest, waits } =
        { state with
          activeTaskWaiters := told ++ rest.filter fun waiter =>
            hasPendingActiveTasks state waiter.activeTaskIds
          waits := waits ++ (rest.filter fun waiter =>
            !hasPendingActiveTasks state waiter.activeTaskIds).map fun waiter =>
              (waiter.id, true) } from
    general state.activeTaskWaiters [] state.waits fun _ absent => absurd absent List.not_mem_nil
  intro rest
  induction rest with
  | nil => intro told waits _; simp
  | cons waiter rest inductionHypothesis =>
    intro told waits stay
    have condition : (waiter.activeTaskIds.isEmpty || !hasPendingActiveTasks
        { state with activeTaskWaiters := told ++ waiter :: rest, waits } waiter.activeTaskIds) =
          !hasPendingActiveTasks state waiter.activeTaskIds := by
      cases ids : waiter.activeTaskIds with
      | nil => simp [hasPendingActiveTasks]
      | cons first others => rfl
    rw [List.foldl_cons, condition]
    cases pending : hasPendingActiveTasks state waiter.activeTaskIds with
    | true =>
      have staying : ∀ other ∈ told ++ [waiter],
          hasPendingActiveTasks state other.activeTaskIds = true := by
        intro other member
        rcases List.mem_append.1 member with before | here
        · exact stay other before
        · exact List.mem_singleton.1 here ▸ pending
      have next := inductionHypothesis (told ++ [waiter]) waits staying
      rw [List.append_assoc, List.append_assoc] at next
      rw [Bool.not_true, if_neg Bool.false_ne_true]
      simp only [List.filter_cons, pending, Bool.not_true, if_true, Bool.false_eq_true, if_false]
      exact next
    | false =>
      have registered : waiter ∈ told ++ waiter :: rest :=
        List.mem_append_right told List.mem_cons_self
      have fresh : waiter ∉ told := fun member => by
        have := stay waiter member
        rw [pending] at this
        cases this
      have erased : (told ++ waiter :: rest).erase waiter = told ++ rest := by
        rw [List.erase_append_right _ fresh, List.erase_cons_head]
      have next := inductionHypothesis told (waits ++ [(waiter.id, true)]) stay
      rw [List.append_assoc] at next
      rw [Bool.not_false, if_pos rfl, resolveActiveTaskWaiter, if_pos registered]
      dsimp only
      rw [erased]
      simp only [List.filter_cons, pending, Bool.not_false, if_true, Bool.false_eq_true, if_false,
        List.map_cons]
      exact next

/-! ### What a step does to tasks and waiters -/

inductive Effect (state : QueueState) : Action → QueueState → Prop
  | quiet {action : Action} {next : QueueState} (same : Quiet state next) : Effect state action next
  | starts {action : Action} (middle : QueueState) (lane : String) (entry : QueueEntry)
      (same : Quiet state middle) : Effect state action (startTask middle lane entry)
  | completes {action : Action} (middle : QueueState) (task : Task) (outcome : Outcome)
      (same : SameButLive state middle) (leaves : state.live.Perm (task :: middle.live)) :
      Effect state action (completeTask middle task outcome)
  | resets : Effect state (.call .resetAllLanes) (resetAllLanes state)
  | waits (timeoutMs : ℤ) :
      Effect state (.call (.waitForActiveTasks timeoutMs)) (waitForActiveTasks state timeoutMs)
  | notifies {action : Action} (middle : QueueState) (same : Quiet state middle) :
      Effect state action (notifyActiveTaskWaiters middle)
  | timesOut (waiter : ActiveTaskWaiter) (registered : waiter ∈ state.activeTaskWaiters) :
      Effect state (.timeout waiter.id) (resolveActiveTaskWaiter state waiter false)

theorem effect_runCall (state : QueueState) (call : Call) :
    Effect state (.call call) (runCall state call) := by
  cases call with
  | resetAllLanes => exact .resets
  | waitForActiveTasks timeoutMs => exact .waits timeoutMs
  | markGatewayDraining =>
    exact .quiet ⟨⟨⟨fun _ => rfl, fun _ => rfl, rfl, rfl⟩, rfl, rfl, rfl⟩, .rfl⟩
  | clearCommandLane lane =>
    refine .quiet ?_
    rw [runCall, clearCommandLane]
    dsimp only
    split
    next => exact .refl state
    next laneState found =>
      have sameLane : state.lane (normalizeLane lane) = laneState := by
        rw [QueueState.lane, found]; rfl
      have cleared : Quiet state
          (state.setLane (normalizeLane lane) { laneState with queue := [] }) :=
        quiet_setLane (by rw [sameLane]) (by rw [sameLane])
      exact cleared.trans ⟨⟨⟨fun _ => rfl, fun _ => rfl, rfl, rfl⟩, rfl, rfl, rfl⟩, .rfl⟩
  | setCommandLaneConcurrency lane maxConcurrent =>
    refine .quiet ?_
    have changed : Quiet state (state.setLane (normalizeLane lane)
        { state.lane (normalizeLane lane) with maxConcurrent := (max 1 maxConcurrent).toNat }) :=
      quiet_setLane rfl rfl
    exact changed.trans (quiet_drainLane _ _)
  | enqueueCommandInLane lane hasOnWait =>
    refine .quiet ?_
    rw [runCall, enqueueCommandInLane]
    dsimp only
    have numbered : Quiet state { state with nextPromise := state.nextPromise + 1 } :=
      ⟨⟨⟨fun _ => rfl, fun _ => rfl, rfl, rfl⟩, rfl, rfl, rfl⟩, .rfl⟩
    split
    · exact numbered.trans ⟨⟨⟨fun _ => rfl, fun _ => rfl, rfl, rfl⟩, rfl, rfl, rfl⟩, .rfl⟩
    · have queued : Quiet { state with nextPromise := state.nextPromise + 1 }
          (QueueState.setLane { state with nextPromise := state.nextPromise + 1 }
            (normalizeLane lane) { state.lane (normalizeLane lane) with
              queue := (state.lane (normalizeLane lane)).queue ++
                [⟨state.nextPromise, hasOnWait⟩] }) :=
        quiet_setLane rfl rfl
      refine (numbered.trans queued).trans (Quiet.trans ?_ (quiet_drainLane _ _))
      exact ⟨⟨⟨fun _ => rfl, fun _ => rfl, rfl, rfl⟩, rfl, rfl, rfl⟩, .rfl⟩

theorem effect_pumpTurn {lane : String} {below : List Frame}
    (onTop : state.stack = .pump lane :: below) (late : Bool) (action : Action) :
    Effect state action (pumpTurn state lane below late) := by
  have left : Quiet state { state.setLane lane { state.lane lane with draining := false } with
      stack := below } := by
    have changed : Quiet state (state.setLane lane { state.lane lane with draining := false }) :=
      quiet_setLane rfl rfl
    refine changed.trans (quiet_stack ?_)
    rw [QueueState.setLane, onTop]
    rfl
  rw [pumpTurn]
  dsimp only
  split
  next entry queue _ =>
    have taken : Quiet state (state.setLane lane { state.lane lane with queue }) :=
      quiet_setLane rfl rfl
    split
    · split
      · exact .quiet (taken.trans (quiet_stack rfl))
      · exact .starts _ lane entry taken
    · exact .quiet left
  next => exact .quiet left

variable {next : QueueState}

theorem effect_resumeFrame {late : Bool} (action : Action)
    (taken : resumeFrame state late = some next) : Effect state action next := by
  rw [resumeFrame] at taken
  split at taken
  next lane below onTop =>
    obtain rfl := Option.some.inj taken
    exact effect_pumpTurn onTop late action
  next entry outcome below onTop =>
    obtain rfl := Option.some.inj taken
    have popped : Quiet state { state with stack := below } := quiet_stack (by rw [onTop]; rfl)
    exact .quiet (popped.trans ⟨⟨⟨fun _ => rfl, fun _ => rfl, rfl, rfl⟩, rfl, rfl, rfl⟩, .rfl⟩)
  next lane lanes below onTop =>
    obtain rfl := Option.some.inj taken
    have popped : Quiet state { state with stack := .resetting lanes :: below } :=
      quiet_stack (by rw [onTop]; rfl)
    exact .quiet (popped.trans (quiet_drainLane _ lane))
  next below onTop =>
    obtain rfl := Option.some.inj taken
    exact .notifies _ (quiet_stack (by rw [onTop]; rfl))
  next => cases taken

variable {action : Action}

/-- Every step starts a task, completes one, resets the lanes, registers or answers waiters, or
leaves tasks and waiters as they are. -/
theorem effect_of_step (taken : step state action = some next) : Effect state action next := by
  cases action with
  | call call =>
    rw [step] at taken
    split at taken
    · obtain rfl := Option.some.inj taken
      exact effect_runCall state call
    · cases taken
  | resume late => exact effect_resumeFrame _ taken
  | onWaitReturns =>
    rw [step] at taken
    split at taken
    next lane entry below onTop =>
      obtain rfl := Option.some.inj taken
      exact .starts _ lane entry (quiet_stack (by rw [onTop]; rfl))
    next => cases taken
  | taskReturns =>
    rw [step] at taken
    split at taken
    next task below onTop =>
      obtain rfl := Option.some.inj taken
      refine .quiet ⟨⟨⟨fun _ => rfl, fun _ => rfl, rfl, rfl⟩, rfl, rfl, rfl⟩, ?_⟩
      rw [QueueState.live, QueueState.live, onTop, List.filterMap_cons, List.append_assoc]
      exact .refl _
    next => cases taken
  | taskThrows reason =>
    rw [step] at taken
    split at taken
    next task below onTop =>
      obtain rfl := Option.some.inj taken
      refine .completes { state with stack := below } task (.rejected reason)
        ⟨⟨fun _ => rfl, fun _ => rfl, rfl, rfl⟩, rfl, rfl, rfl⟩ ?_
      rw [QueueState.live, QueueState.live, onTop, List.filterMap_cons]
      exact List.perm_middle
    next => cases taken
  | taskSettles taskId outcome =>
    rw [step] at taken
    split at taken
    · split at taken
      next task found =>
        obtain rfl := Option.some.inj taken
        refine .completes { state with awaiting := state.awaiting.erase task } task outcome
          ⟨⟨fun _ => rfl, fun _ => rfl, rfl, rfl⟩, rfl, rfl, rfl⟩ ?_
        have awaited := List.mem_of_find?_eq_some found
        rw [QueueState.live, QueueState.live, ← List.cons_append]
        exact (List.perm_cons_erase awaited).append_right _
      next => cases taken
    · cases taken
  | timeout waiterId =>
    rw [step] at taken
    split at taken
    · split at taken
      next waiter found =>
        obtain rfl := Option.some.inj taken
        have named : waiter.id = waiterId := by simpa using List.find?_some found
        rw [← named]
        exact .timesOut waiter (List.mem_of_find?_eq_some found)
      next => cases taken
    · cases taken

/-! ### What the operations are to tasks and waiters -/

/-- The waiters without an active task have been answered, and only they. -/
structure Notified (state next : QueueState) : Prop where
  waiters : next.activeTaskWaiters = state.activeTaskWaiters.filter fun waiter =>
    hasPendingActiveTasks next waiter.activeTaskIds
  waits : next.waits = state.waits ++ (state.activeTaskWaiters.filter fun waiter =>
    !hasPendingActiveTasks next waiter.activeTaskIds).map fun waiter => (waiter.id, true)

theorem notified_notify (state : QueueState) : Notified state (notifyActiveTaskWaiters state) := by
  rw [notifyActiveTaskWaiters_eq]
  exact ⟨rfl, rfl⟩

theorem sameLanes_notify (state : QueueState) :
    SameLanes state (notifyActiveTaskWaiters state) := by
  rw [notifyActiveTaskWaiters_eq]
  exact ⟨fun _ => rfl, fun _ => rfl, rfl, rfl⟩

@[simp] theorem live_notify (state : QueueState) :
    (notifyActiveTaskWaiters state).live = state.live := by
  rw [notifyActiveTaskWaiters_eq]
  rfl

@[simp] theorem nextWaiter_notify (state : QueueState) :
    (notifyActiveTaskWaiters state).nextWaiter = state.nextWaiter := by
  rw [notifyActiveTaskWaiters_eq]

/-- What a completion does to the tasks: the task is no longer among the active ones of its lane,
unless the lane is of a later generation. -/
structure Completes (state next : QueueState) (task : Task) (outcome : Outcome) : Prop where
  active : ∀ lane, (next.lane lane).activeTaskIds =
    if lane = task.lane ∧ task.taskGeneration = (state.lane lane).generation then
      (state.lane lane).activeTaskIds.filter (· ≠ task.taskId)
    else (state.lane lane).activeTaskIds
  generation : ∀ lane, (next.lane lane).generation = (state.lane lane).generation
  completed : next.completed = state.completed ++ [(task, outcome)]
  nextTaskId : next.nextTaskId = state.nextTaskId
  live : next.live = state.live
  nextWaiter : next.nextWaiter = state.nextWaiter
  told : (task.taskGeneration ≠ (state.lane task.lane).generation ∧
      next.activeTaskWaiters = state.activeTaskWaiters ∧ next.waits = state.waits) ∨
    Notified state next

theorem completes_completeTask (state : QueueState) (task : Task) (outcome : Outcome) :
    Completes state (completeTask state task outcome) task outcome := by
  by_cases current : task.taskGeneration = (state.lane task.lane).generation
  · let without := QueueState.setLane
      { state with completed := state.completed ++ [(task, outcome)] } task.lane
      { state.lane task.lane with
        activeTaskIds := (state.lane task.lane).activeTaskIds.filter (· ≠ task.taskId) }
    have made : completeTask state task outcome = { notifyActiveTaskWaiters without with
        stack := .pump task.lane :: .settling task.entry outcome :: without.stack } := by
      have stack : (notifyActiveTaskWaiters without).stack = without.stack := by
        rw [notifyActiveTaskWaiters_eq]
      rw [completeTask]
      exact (if_pos current).trans (congrArg (fun stack => { notifyActiveTaskWaiters without with
        stack := .pump task.lane :: .settling task.entry outcome :: stack }) stack)
    have lanes : ∀ lane, without.lane lane = if lane = task.lane then
        { state.lane task.lane with
          activeTaskIds := (state.lane task.lane).activeTaskIds.filter (· ≠ task.taskId) }
        else state.lane lane := fun lane => lane_setLane _ _ _ _
    have same := sameLanes_notify without
    rw [made]
    refine ⟨fun lane => (same.active lane).trans ?_, fun lane => (same.generation lane).trans ?_,
      same.completed, same.nextTaskId, ?_, nextWaiter_notify without,
      .inr ⟨(notified_notify without).waiters, (notified_notify without).waits⟩⟩
    · rw [lanes]
      by_cases own : lane = task.lane
      · rw [if_pos own, if_pos ⟨own, own ▸ current⟩, own]
      · rw [if_neg own, if_neg fun both => own both.1]
    · rw [lanes]
      split
      next own => rw [own]
      next => rfl
    · have kept := live_notify without
      rw [QueueState.live, QueueState.live] at kept ⊢
      rw [notifyActiveTaskWaiters_eq]
      rfl
  · have made : completeTask state task outcome = { state with
        completed := state.completed ++ [(task, outcome)]
        stack := .settling task.entry outcome :: state.stack } := by
      rw [completeTask]
      exact if_neg current
    rw [made]
    refine ⟨fun lane => ?_, fun _ => rfl, rfl, rfl, rfl, rfl, .inl ⟨current, rfl, rfl⟩⟩
    rw [if_neg]
    · rfl
    · rintro ⟨rfl, same⟩
      exact current same

/-- What the start of a task does: the next id becomes active in the lane. -/
structure Starts (state next : QueueState) (task : Task) : Prop where
  number : task.taskId = state.nextTaskId
  ofGeneration : task.taskGeneration = (state.lane task.lane).generation
  active : ∀ lane, (next.lane lane).activeTaskIds =
    if lane = task.lane then (state.lane lane).activeTaskIds ++ [task.taskId]
    else (state.lane lane).activeTaskIds
  generation : ∀ lane, (next.lane lane).generation = (state.lane lane).generation
  completed : next.completed = state.completed
  nextTaskId : next.nextTaskId = state.nextTaskId + 1
  live : next.live.Perm (task :: state.live)
  waiters : next.activeTaskWaiters = state.activeTaskWaiters
  waits : next.waits = state.waits
  nextWaiter : next.nextWaiter = state.nextWaiter

theorem starts_startTask (state : QueueState) (lane : String) (entry : QueueEntry) :
    Starts state (startTask state lane entry)
      ⟨state.nextTaskId, (state.lane lane).generation, lane, entry⟩ := by
  refine ⟨rfl, rfl, fun other => ?_, fun other => ?_, rfl, rfl, List.perm_middle, rfl, rfl, rfl⟩
  · refine (congrArg LaneState.activeTaskIds (lane_setLane state lane other _)).trans ?_
    dsimp only
    split
    next same => rw [same]
    next => rfl
  · refine (congrArg LaneState.generation (lane_setLane state lane other _)).trans ?_
    split
    next same => rw [same]
    next => rfl

theorem sameLanes_waitForActiveTasks (state : QueueState) (timeoutMs : ℤ) :
    SameLanes state (waitForActiveTasks state timeoutMs) ∧
      (waitForActiveTasks state timeoutMs).live = state.live ∧
      (waitForActiveTasks state timeoutMs).nextWaiter = state.nextWaiter + 1 := by
  rw [waitForActiveTasks]
  dsimp only
  split
  · exact ⟨⟨fun _ => rfl, fun _ => rfl, rfl, rfl⟩, rfl, rfl⟩
  · split
    · exact ⟨⟨fun _ => rfl, fun _ => rfl, rfl, rfl⟩, rfl, rfl⟩
    · rw [notifyActiveTaskWaiters_eq]
      exact ⟨⟨fun _ => rfl, fun _ => rfl, rfl, rfl⟩, rfl, rfl⟩

theorem lane_resetAllLanes (state : QueueState) (lane : String) :
    ((resetAllLanes state).lane lane).activeTaskIds = [] := by
  rw [QueueState.lane, resetAllLanes]
  dsimp only
  rw [OrderedMap.get_mapValues]
  cases state.lanes.get lane with
  | none => rfl
  | some laneState => rfl

/-! ### Tasks are live until they complete -/

structure TasksKept (state : QueueState) : Prop where
  distinct : (state.live.map Task.taskId ++ state.completedIds).Nodup
  numbered : ∀ taskId ∈ state.live.map Task.taskId ++ state.completedIds,
    taskId < state.nextTaskId
  active : ∀ lane, ∀ taskId ∈ (state.lane lane).activeTaskIds, ∃ task ∈ state.live,
    task.taskId = taskId ∧ task.lane = lane ∧
      task.taskGeneration = (state.lane lane).generation

theorem tasksKept_initial : TasksKept QueueState.initial :=
  ⟨List.nodup_nil, fun _ absent => absurd absent List.not_mem_nil,
    fun _ _ absent => absurd absent List.not_mem_nil⟩

theorem TasksKept.of_same (kept : TasksKept state)
    (same : SameLanes state next) (live : next.live.Perm state.live) : TasksKept next := by
  have sameIds : (next.live.map Task.taskId ++ next.completedIds).Perm
      (state.live.map Task.taskId ++ state.completedIds) := by
    rw [QueueState.completedIds, same.completed, ← QueueState.completedIds]
    exact (live.map Task.taskId).append_right _
  refine ⟨sameIds.nodup_iff.2 kept.distinct, fun taskId member => ?_, fun lane taskId active => ?_⟩
  · rw [same.nextTaskId]
    exact kept.numbered taskId (sameIds.subset member)
  · rw [same.active] at active
    obtain ⟨task, member, rest⟩ := kept.active lane taskId active
    exact ⟨task, live.symm.subset member, by rwa [same.generation]⟩

variable {task : Task} {outcome : Outcome} {tasks : List ℕ}

theorem TasksKept.of_starts (kept : TasksKept state)
    (starts : Starts state next task) : TasksKept next := by
  have sameIds : (next.live.map Task.taskId ++ next.completedIds).Perm
      (task.taskId :: (state.live.map Task.taskId ++ state.completedIds)) := by
    rw [QueueState.completedIds, starts.completed, ← QueueState.completedIds]
    exact (starts.live.map Task.taskId).append_right _
  refine ⟨sameIds.nodup_iff.2 (List.nodup_cons.2 ⟨fun used => ?_, kept.distinct⟩),
    fun taskId member => ?_, fun lane taskId active => ?_⟩
  · have := kept.numbered _ used
    rw [starts.number] at this
    exact absurd this (lt_irrefl _)
  · rw [starts.nextTaskId]
    rcases List.mem_cons.1 (sameIds.subset member) with rfl | before
    · rw [starts.number]; omega
    · exact (kept.numbered taskId before).trans (Nat.lt_succ_self _)
  · rw [starts.generation]
    have fromBefore : taskId ∈ (state.lane lane).activeTaskIds → ∃ task ∈ next.live,
        task.taskId = taskId ∧ task.lane = lane ∧
          task.taskGeneration = (state.lane lane).generation := fun before => by
      obtain ⟨old, member, rest⟩ := kept.active lane taskId before
      exact ⟨old, starts.live.symm.subset (List.mem_cons_of_mem _ member), rest⟩
    rw [starts.active] at active
    split at active
    next own =>
      rcases List.mem_append.1 active with before | new
      · exact fromBefore before
      · exact ⟨task, starts.live.symm.subset List.mem_cons_self, (List.mem_singleton.1 new).symm,
          own.symm, own ▸ starts.ofGeneration⟩
    next => exact fromBefore active

theorem TasksKept.of_completes {state middle next : QueueState}
    (kept : TasksKept state) (same : SameButLive state middle)
    (leaves : state.live.Perm (task :: middle.live))
    (completes : Completes middle next task outcome) : TasksKept next := by
  have sameIds : (next.live.map Task.taskId ++ next.completedIds).Perm
      (state.live.map Task.taskId ++ state.completedIds) := by
    have moved := (leaves.map Task.taskId).append_right state.completedIds
    refine List.Perm.trans ?_ moved.symm
    rw [QueueState.completedIds, completes.completed, completes.live, same.completed,
      List.map_append, ← List.append_assoc, ← QueueState.completedIds]
    exact List.perm_append_singleton _ _
  refine ⟨sameIds.nodup_iff.2 kept.distinct, fun taskId member => ?_, fun lane taskId active => ?_⟩
  · rw [completes.nextTaskId, same.nextTaskId]
    exact kept.numbered taskId (sameIds.subset member)
  · have before : taskId ∈ (state.lane lane).activeTaskIds := by
      rw [completes.active, same.active] at active
      split at active
      · exact List.mem_of_mem_filter active
      · exact active
    obtain ⟨old, member, named, ofLane, current⟩ := kept.active lane taskId before
    rw [completes.generation, same.generation]
    rcases List.mem_cons.1 (leaves.subset member) with rfl | stays
    · rw [completes.active, same.generation, if_pos ⟨ofLane.symm, current⟩,
        List.mem_filter] at active
      exact absurd named.symm (of_decide_eq_true active.2)
    · exact ⟨old, completes.live ▸ stays, named, ofLane, current⟩

theorem TasksKept.step (kept : TasksKept state)
    (taken : step state action = some next) : TasksKept next := by
  cases effect_of_step taken with
  | quiet same => exact kept.of_same same.toSameLanes same.live
  | starts middle lane entry same =>
    exact (kept.of_same same.toSameLanes same.live).of_starts (starts_startTask middle lane entry)
  | completes middle task outcome same leaves =>
    exact kept.of_completes same leaves (completes_completeTask middle task outcome)
  | resets =>
    refine ⟨kept.distinct, kept.numbered, fun lane taskId active => ?_⟩
    rw [lane_resetAllLanes] at active
    cases active
  | waits timeoutMs =>
    obtain ⟨same, live, -⟩ := sameLanes_waitForActiveTasks state timeoutMs
    exact kept.of_same same (.of_eq live)
  | notifies middle same =>
    exact (kept.of_same same.toSameLanes same.live).of_same (sameLanes_notify middle)
      (.of_eq (live_notify middle))
  | timesOut waiter registered =>
    rw [resolveActiveTaskWaiter, if_pos registered]
    exact kept.of_same ⟨fun _ => rfl, fun _ => rfl, rfl, rfl⟩ .rfl

theorem tasksKept_of_reachable (reached : Reachable state) :
    TasksKept state := by
  obtain ⟨actions, run⟩ := reached
  exact run.invariant (fun _ _ _ kept _ taken => kept.step taken) tasksKept_initial

/-- A task that has completed is active in no lane. -/
theorem TasksKept.not_active (kept : TasksKept state) {taskId : ℕ}
    (completed : taskId ∈ state.completedIds) : taskId ∉ state.activeTasks := by
  intro active
  obtain ⟨lane, inLane⟩ := mem_activeTasks.1 active
  obtain ⟨task, member, rfl, -⟩ := kept.active lane taskId inLane
  exact (List.nodup_append.1 kept.distinct).2.2 _ (List.mem_map_of_mem member) _ completed rfl

/-! ### One waiter -/

/-- The answers a waiter has been given. -/
def QueueState.answers (state : QueueState) (waiterId : ℕ) : List (ℕ × Bool) :=
  state.waits.filter fun wait => wait.1 = waiterId

def QueueState.waiting (state : QueueState) (waiterId : ℕ) : List ActiveTaskWaiter :=
  state.activeTaskWaiters.filter fun waiter => waiter.id = waiterId

/-- Waiters are numbered in the order of the calls. -/
structure WaitersKept (state : QueueState) : Prop where
  numbered : ∀ waiter ∈ state.activeTaskWaiters, waiter.id < state.nextWaiter
  answered : ∀ wait ∈ state.waits, wait.1 < state.nextWaiter

theorem Notified.keeps (notified : Notified state next)
    (counter : state.nextWaiter ≤ next.nextWaiter) (kept : WaitersKept state) :
    WaitersKept next := by
  refine ⟨fun waiter member => ?_, fun wait member => ?_⟩
  · rw [notified.waiters] at member
    exact (kept.numbered waiter (List.mem_of_mem_filter member)).trans_le counter
  · rw [notified.waits] at member
    rcases List.mem_append.1 member with before | told
    · exact (kept.answered wait before).trans_le counter
    · obtain ⟨waiter, registered, rfl⟩ := List.mem_map.1 told
      exact (kept.numbered waiter (List.mem_of_mem_filter registered)).trans_le counter

theorem WaitersKept.of_same (kept : WaitersKept state)
    (waiters : next.activeTaskWaiters = state.activeTaskWaiters)
    (waits : next.waits = state.waits) (counter : next.nextWaiter = state.nextWaiter) :
    WaitersKept next := by
  refine ⟨fun waiter member => ?_, fun wait member => ?_⟩
  · rw [counter]
    exact kept.numbered waiter (waiters ▸ member)
  · rw [counter]
    exact kept.answered wait (waits ▸ member)

/-- The state with a waiter for the tasks that are active. -/
def registerWaiter (state : QueueState) : QueueState :=
  { state with
    nextWaiter := state.nextWaiter + 1
    activeTaskWaiters := state.activeTaskWaiters ++ [⟨state.nextWaiter, state.activeTasks⟩] }

/-- What `waitForActiveTasks` leaves: an answer at once, or a waiter that is registered and, if
need be, told. -/
theorem waitForActiveTasks_cases (state : QueueState) (timeoutMs : ℤ) :
    (∃ drained, waitForActiveTasks state timeoutMs = { state with
        nextWaiter := state.nextWaiter + 1
        waits := state.waits ++ [(state.nextWaiter, drained)] } ∧
      (drained = true ↔ state.activeTasks = []) ∧ (drained = false → timeoutMs ≤ 0)) ∨
    (waitForActiveTasks state timeoutMs = notifyActiveTaskWaiters (registerWaiter state) ∧
      state.activeTasks ≠ [] ∧ 0 < timeoutMs) := by
  rw [waitForActiveTasks]
  dsimp only
  split
  next none => exact .inl ⟨true, rfl, iff_of_true rfl none, nofun⟩
  next some =>
    split
    next late => exact .inl ⟨false, rfl, iff_of_false nofun some, fun _ => late⟩
    next early => exact .inr ⟨rfl, some, not_le.1 early⟩

theorem WaitersKept.registered (kept : WaitersKept state) :
    WaitersKept (registerWaiter state) := by
  refine ⟨fun waiter member => ?_, fun wait member =>
    (kept.answered wait member).trans (Nat.lt_succ_self _)⟩
  rcases List.mem_append.1 member with before | new
  · exact (kept.numbered waiter before).trans (Nat.lt_succ_self _)
  · obtain rfl := List.mem_singleton.1 new
    exact Nat.lt_succ_self _

theorem WaitersKept.step (kept : WaitersKept state)
    (taken : step state action = some next) : WaitersKept next := by
  cases effect_of_step taken with
  | quiet same => exact kept.of_same same.waiters same.waits same.nextWaiter
  | starts middle lane entry same =>
    have starts := starts_startTask middle lane entry
    exact kept.of_same (starts.waiters.trans same.waiters) (starts.waits.trans same.waits)
      (starts.nextWaiter.trans same.nextWaiter)
  | completes middle task outcome same leaves =>
    have keptMiddle := kept.of_same same.waiters same.waits same.nextWaiter
    have completes := completes_completeTask middle task outcome
    obtain ⟨-, waiters, waits⟩ | notified := completes.told
    · exact keptMiddle.of_same waiters waits completes.nextWaiter
    · exact notified.keeps completes.nextWaiter.ge keptMiddle
  | resets => exact kept.of_same rfl rfl rfl
  | waits timeoutMs =>
    obtain ⟨drained, made, -⟩ | ⟨made, -⟩ := waitForActiveTasks_cases state timeoutMs
    · rw [made]
      refine ⟨fun waiter member => (kept.numbered waiter member).trans (Nat.lt_succ_self _),
        fun wait member => ?_⟩
      rcases List.mem_append.1 member with before | new
      · exact (kept.answered wait before).trans (Nat.lt_succ_self _)
      · obtain rfl := List.mem_singleton.1 new
        exact Nat.lt_succ_self _
    · rw [made]
      exact (notified_notify _).keeps (nextWaiter_notify _).ge kept.registered
  | notifies middle same =>
    exact (notified_notify middle).keeps (nextWaiter_notify middle).ge
      (kept.of_same same.waiters same.waits same.nextWaiter)
  | timesOut waiter registered =>
    rw [resolveActiveTaskWaiter, if_pos registered]
    refine ⟨fun other member => kept.numbered other (List.mem_of_mem_erase member),
      fun wait member => ?_⟩
    rcases List.mem_append.1 member with before | new
    · exact kept.answered wait before
    · obtain rfl := List.mem_singleton.1 new
      exact kept.numbered waiter registered

theorem waitersKept_of_reachable (reached : Reachable state) :
    WaitersKept state := by
  obtain ⟨actions, run⟩ := reached
  exact run.invariant (fun _ _ _ kept _ taken => kept.step taken)
    ⟨fun _ absent => absurd absent List.not_mem_nil, fun _ absent => absurd absent List.not_mem_nil⟩

/-- Where a waiter for the given tasks stands: registered once and without an answer, or answered
once; and with `drained` only when all the tasks have completed. -/
inductive WaitState (waiterId : ℕ) (tasks : List ℕ) (state : QueueState) : Prop
  | pending (registered : state.waiting waiterId = [⟨waiterId, tasks⟩])
      (unanswered : state.answers waiterId = [])
  | settled (drained : Bool) (gone : state.waiting waiterId = [])
      (answered : state.answers waiterId = [(waiterId, drained)])
      (completed : drained = true → ∀ taskId ∈ tasks, taskId ∈ state.completedIds)

/-- The state of a waiter, with what was active when it was made: active or completed, and one
of it active as long as the waiter is registered. -/
structure WaitKept (waiterId : ℕ) (tasks : List ℕ) (state : QueueState) : Prop where
  counted : waiterId < state.nextWaiter
  tracked : ∀ taskId ∈ tasks, taskId ∈ state.activeTasks ∨ taskId ∈ state.completedIds
  stands : WaitState waiterId tasks state
  waits : state.waiting waiterId ≠ [] → ∃ taskId ∈ tasks, taskId ∈ state.activeTasks

section One

variable {waiterId : ℕ}

theorem WaitState.of_same (stands : WaitState waiterId tasks state)
    (waiting : next.waiting waiterId = state.waiting waiterId)
    (answers : next.answers waiterId = state.answers waiterId)
    (completed : ∀ taskId ∈ state.completedIds, taskId ∈ next.completedIds) :
    WaitState waiterId tasks next := by
  cases stands with
  | pending registered unanswered =>
    exact .pending (waiting.trans registered) (answers.trans unanswered)
  | settled drained gone answered all =>
    exact .settled drained (waiting.trans gone) (answers.trans answered)
      fun isDrained taskId member => completed taskId (all isDrained taskId member)

/-- A waiter that is told stays registered exactly when one of its tasks is active. -/
theorem WaitState.notified (stands : WaitState waiterId tasks state) (told : Notified state next)
    (completed : ∀ taskId ∈ state.completedIds, taskId ∈ next.completedIds)
    (tracked : ∀ taskId ∈ tasks, taskId ∈ next.activeTasks ∨ taskId ∈ next.completedIds) :
    WaitState waiterId tasks next ∧
      (next.waiting waiterId ≠ [] → ∃ taskId ∈ tasks, taskId ∈ next.activeTasks) := by
  have waiting : next.waiting waiterId = (state.waiting waiterId).filter fun waiter =>
      hasPendingActiveTasks next waiter.activeTaskIds := by
    rw [QueueState.waiting, told.waiters, QueueState.waiting, List.filter_comm]
  have answers : next.answers waiterId = state.answers waiterId ++
      ((state.waiting waiterId).filter fun waiter =>
        !hasPendingActiveTasks next waiter.activeTaskIds).map fun waiter => (waiter.id, true) := by
    rw [QueueState.answers, told.waits, List.filter_append, List.filter_map, QueueState.answers,
      QueueState.waiting, List.filter_comm]
    rfl
  cases stands with
  | settled drained gone answered all =>
    rw [gone] at waiting answers
    refine ⟨.settled drained waiting (by rw [answers, answered]; rfl) fun isDrained taskId member =>
      completed taskId (all isDrained taskId member), fun registered => absurd waiting registered⟩
  | pending registered unanswered =>
    rw [registered] at waiting answers
    rw [unanswered] at answers
    cases pending : hasPendingActiveTasks next tasks with
    | true =>
      simp only [List.filter_cons, pending, if_true, List.filter_nil] at waiting
      simp only [List.filter_cons, pending, Bool.not_true, Bool.false_eq_true, if_false,
        List.filter_nil, List.map_nil, List.append_nil] at answers
      exact ⟨.pending waiting answers, fun _ => (hasPendingActiveTasks_iff next tasks).1 pending⟩
    | false =>
      have noneActive : ∀ taskId ∈ tasks, taskId ∉ next.activeTasks := by
        intro taskId member active
        rw [(hasPendingActiveTasks_iff next tasks).2 ⟨taskId, member, active⟩] at pending
        cases pending
      simp only [List.filter_cons, pending, Bool.false_eq_true, if_false,
        List.filter_nil] at waiting
      simp only [List.filter_cons, pending, Bool.not_false, if_true, List.filter_nil,
        List.map_cons, List.map_nil, List.nil_append] at answers
      exact ⟨.settled true waiting answers fun _ taskId member =>
        (tracked taskId member).resolve_left (noneActive taskId member),
        fun registered => absurd waiting registered⟩

/-- A step with the same waiters, which loses no active task but to its completion. -/
theorem WaitKept.of_same (kept : WaitKept waiterId tasks state)
    (waiters : next.activeTaskWaiters = state.activeTaskWaiters)
    (waits : next.waits = state.waits) (counter : next.nextWaiter = state.nextWaiter)
    (active : ∀ taskId ∈ state.activeTasks, taskId ∈ next.activeTasks)
    (completed : ∀ taskId ∈ state.completedIds, taskId ∈ next.completedIds) :
    WaitKept waiterId tasks next := by
  have waiting : next.waiting waiterId = state.waiting waiterId := by
    rw [QueueState.waiting, waiters, QueueState.waiting]
  have answers : next.answers waiterId = state.answers waiterId := by
    rw [QueueState.answers, waits, QueueState.answers]
  refine ⟨counter ▸ kept.counted, fun taskId member =>
    (kept.tracked taskId member).imp (active taskId) (completed taskId),
    kept.stands.of_same waiting answers completed, fun registered => ?_⟩
  obtain ⟨taskId, member, isActive⟩ := kept.waits (waiting ▸ registered)
  exact ⟨taskId, member, active taskId isActive⟩

/-- A step that tells the waiters. -/
theorem WaitKept.notified (kept : WaitKept waiterId tasks state) (told : Notified state next)
    (counter : state.nextWaiter ≤ next.nextWaiter)
    (completed : ∀ taskId ∈ state.completedIds, taskId ∈ next.completedIds)
    (tracked : ∀ taskId ∈ tasks, taskId ∈ next.activeTasks ∨ taskId ∈ next.completedIds) :
    WaitKept waiterId tasks next := by
  obtain ⟨stands, waits⟩ := kept.stands.notified told completed tracked
  exact ⟨kept.counted.trans_le counter, tracked, stands, waits⟩

end One

theorem activeTasks_subset (lanes : ∀ lane, ∀ taskId ∈ (state.lane lane).activeTaskIds,
      taskId ∈ (next.lane lane).activeTaskIds) :
    ∀ taskId ∈ state.activeTasks, taskId ∈ next.activeTasks := by
  intro taskId active
  obtain ⟨lane, inLane⟩ := mem_activeTasks.1 active
  exact mem_activeTasks.2 ⟨lane, lanes lane taskId inLane⟩

theorem SameLanes.activeTasks_subset (same : SameLanes state next) :
    ∀ taskId ∈ state.activeTasks, taskId ∈ next.activeTasks :=
  CommandQueue.activeTasks_subset fun lane _ active => (same.active lane).symm ▸ active

theorem SameLanes.completedIds_subset (same : SameLanes state next) :
    ∀ taskId ∈ state.completedIds, taskId ∈ next.completedIds := fun _ member => by
  rwa [QueueState.completedIds, same.completed]

theorem Starts.activeTasks_subset (starts : Starts state next task) :
    ∀ taskId ∈ state.activeTasks, taskId ∈ next.activeTasks := by
  refine CommandQueue.activeTasks_subset fun lane taskId active => ?_
  rw [starts.active]
  split
  · exact List.mem_append_left _ active
  · exact active

theorem Completes.completedIds_subset (completes : Completes state next task outcome) :
    ∀ taskId ∈ state.completedIds, taskId ∈ next.completedIds := fun _ member => by
  rw [QueueState.completedIds, completes.completed, List.map_append]
  exact List.mem_append_left _ member

/-- A completion makes no other task inactive. -/
theorem Completes.active_or_completed (completes : Completes state next task outcome) :
    ∀ taskId ∈ state.activeTasks, taskId ∈ next.activeTasks ∨ taskId ∈ next.completedIds := by
  intro taskId active
  obtain ⟨lane, inLane⟩ := mem_activeTasks.1 active
  by_cases own : taskId = task.taskId
  · refine .inr ?_
    rw [QueueState.completedIds, completes.completed, List.map_append]
    exact List.mem_append_right _ (List.mem_singleton.2 own)
  · refine .inl (mem_activeTasks.2 ⟨lane, ?_⟩)
    rw [completes.active]
    split
    · exact List.mem_filter.2 ⟨inLane, decide_eq_true own⟩
    · exact inLane

/-- A completion in a later generation of the lane makes no task inactive. -/
theorem Completes.activeTasks_subset (completes : Completes state next task outcome)
    (stale : task.taskGeneration ≠ (state.lane task.lane).generation) :
    ∀ taskId ∈ state.activeTasks, taskId ∈ next.activeTasks := by
  refine CommandQueue.activeTasks_subset fun lane taskId active => ?_
  rw [completes.active, if_neg]
  · exact active
  · rintro ⟨rfl, current⟩
    exact stale current

/-- The steps with which waiting is exact: all but a reset of the lanes. -/
def NoReset (_ : QueueState) (action : Action) : Prop := action ≠ .call .resetAllLanes

theorem WaitKept.registerOther {waiterId : ℕ}
    (kept : WaitKept waiterId tasks state) (timeoutMs : ℤ) :
    WaitKept waiterId tasks (waitForActiveTasks state timeoutMs) := by
  have other : state.nextWaiter ≠ waiterId := kept.counted.ne'
  obtain ⟨drained, made, -⟩ | ⟨made, -⟩ := waitForActiveTasks_cases state timeoutMs
  · rw [made]
    refine ⟨kept.counted.trans (Nat.lt_succ_self _), kept.tracked,
      kept.stands.of_same rfl ?_ fun _ member => member, kept.waits⟩
    rw [QueueState.answers, List.filter_append, List.filter_cons_of_neg
      (by simpa using other), List.filter_nil, List.append_nil, QueueState.answers]
  · rw [made]
    have withOther : WaitKept waiterId tasks (registerWaiter state) := by
      have waiting : QueueState.waiting (registerWaiter state) waiterId =
          state.waiting waiterId := by
        rw [QueueState.waiting, registerWaiter, List.filter_append, List.filter_cons_of_neg
          (by simpa using other), List.filter_nil, List.append_nil, QueueState.waiting]
      exact ⟨kept.counted.trans (Nat.lt_succ_self _), kept.tracked,
        kept.stands.of_same waiting rfl fun _ member => member, fun registered =>
          kept.waits (waiting ▸ registered)⟩
    have same := sameLanes_notify (registerWaiter state)
    exact withOther.notified (notified_notify _) (nextWaiter_notify _).ge same.completedIds_subset
      fun taskId member => (withOther.tracked taskId member).imp (same.activeTasks_subset taskId)
        (same.completedIds_subset taskId)

theorem WaitKept.step {waiterId : ℕ}
    (kept : WaitKept waiterId tasks state) (admitted : NoReset state action)
    (taken : step state action = some next) : WaitKept waiterId tasks next := by
  cases effect_of_step taken with
  | quiet same =>
    exact kept.of_same same.waiters same.waits same.nextWaiter same.activeTasks_subset
      same.completedIds_subset
  | starts middle lane entry same =>
    have starts := starts_startTask middle lane entry
    have keptMiddle := kept.of_same same.waiters same.waits same.nextWaiter same.activeTasks_subset
      same.completedIds_subset
    exact keptMiddle.of_same starts.waiters starts.waits starts.nextWaiter
      starts.activeTasks_subset fun _ member => member
  | completes middle task outcome same leaves =>
    have completes := completes_completeTask middle task outcome
    have keptMiddle := kept.of_same same.waiters same.waits same.nextWaiter same.activeTasks_subset
      same.completedIds_subset
    obtain ⟨stale, waiters, waits⟩ | told := completes.told
    · exact keptMiddle.of_same waiters waits completes.nextWaiter
        (completes.activeTasks_subset stale) completes.completedIds_subset
    · refine keptMiddle.notified told completes.nextWaiter.ge completes.completedIds_subset
        fun taskId member => ?_
      exact (keptMiddle.tracked taskId member).elim (completes.active_or_completed taskId)
        fun before => .inr (completes.completedIds_subset taskId before)
  | resets => exact absurd rfl admitted
  | waits timeoutMs => exact kept.registerOther timeoutMs
  | notifies middle same =>
    have keptMiddle := kept.of_same same.waiters same.waits same.nextWaiter same.activeTasks_subset
      same.completedIds_subset
    have sameLanes := sameLanes_notify middle
    exact keptMiddle.notified (notified_notify middle) (nextWaiter_notify middle).ge
      sameLanes.completedIds_subset fun taskId member =>
        (keptMiddle.tracked taskId member).imp (sameLanes.activeTasks_subset taskId)
          (sameLanes.completedIds_subset taskId)
  | timesOut waiter registered =>
    rw [resolveActiveTaskWaiter, if_pos registered]
    have waiting : QueueState.waiting { state with
        activeTaskWaiters := state.activeTaskWaiters.erase waiter
        waits := state.waits ++ [(waiter.id, false)] } waiterId =
          (state.waiting waiterId).erase waiter := by
      rw [QueueState.waiting, QueueState.waiting, List.erase_filter]
    by_cases own : waiter.id = waiterId
    · have mine : waiter ∈ state.waiting waiterId :=
        List.mem_filter.2 ⟨registered, decide_eq_true own⟩
      cases kept.stands with
      | settled drained gone answered all => rw [gone] at mine; cases mine
      | pending isRegistered unanswered =>
        rw [isRegistered, List.mem_singleton] at mine
        subst mine
        have gone : QueueState.waiting { state with
            activeTaskWaiters := state.activeTaskWaiters.erase ⟨waiterId, tasks⟩
            waits := state.waits ++ [(waiterId, false)] } waiterId = [] := by
          rw [waiting, isRegistered, List.erase_cons_head]
        refine ⟨kept.counted, kept.tracked, .settled false gone ?_ nofun,
          fun stillThere => absurd gone stillThere⟩
        have unansweredBefore : (state.waits.filter fun wait => wait.1 = waiterId) = [] :=
          unanswered
        rw [QueueState.answers, List.filter_append, unansweredBefore, List.nil_append,
          List.filter_cons_of_pos (by simp), List.filter_nil]
    · have absent : waiter ∉ state.waiting waiterId := fun member =>
        own (of_decide_eq_true (List.mem_filter.1 member).2)
      rw [List.erase_of_not_mem absent] at waiting
      refine ⟨kept.counted, kept.tracked, kept.stands.of_same waiting ?_ fun _ member => member,
        fun stillThere => kept.waits (waiting ▸ stillThere)⟩
      rw [QueueState.answers, List.filter_append, List.filter_cons_of_neg (by simpa using own),
        List.filter_nil, List.append_nil, QueueState.answers]

/-! ### Runs -/

theorem mem_waits_of_told (told : Notified state next) {waiterId : ℕ}
    (answered : (waiterId, false) ∈ next.waits) : (waiterId, false) ∈ state.waits := by
  rw [told.waits] at answered
  rcases List.mem_append.1 answered with before | new
  · exact before
  · obtain ⟨waiter, -, same⟩ := List.mem_map.1 new
    cases same

/-- An answer that the tasks have not completed comes from the timer, or from the call itself. -/
theorem mem_waits_of_step {waiterId : ℕ}
    (taken : step state action = some next) (answered : (waiterId, false) ∈ next.waits) :
    (waiterId, false) ∈ state.waits ∨ action = .timeout waiterId ∨ waiterId = state.nextWaiter := by
  cases effect_of_step taken with
  | quiet same => exact .inl (same.waits ▸ answered)
  | starts middle lane entry same =>
    exact .inl (((starts_startTask middle lane entry).waits.trans same.waits) ▸ answered)
  | completes middle task outcome same leaves =>
    refine .inl (same.waits ▸ ?_)
    obtain ⟨-, -, waits⟩ | told := (completes_completeTask middle task outcome).told
    · exact waits ▸ answered
    · exact mem_waits_of_told told answered
  | resets => exact .inl answered
  | waits timeoutMs =>
    obtain ⟨drained, made, -⟩ | ⟨made, -⟩ := waitForActiveTasks_cases state timeoutMs
    · rw [made] at answered
      rcases List.mem_append.1 answered with before | new
      · exact .inl before
      · exact .inr (.inr (congrArg Prod.fst (List.mem_singleton.1 new)))
    · rw [made] at answered
      exact .inl (mem_waits_of_told (notified_notify (registerWaiter state)) answered)
  | notifies middle same =>
    exact .inl (same.waits ▸ mem_waits_of_told (notified_notify middle) answered)
  | timesOut waiter registered =>
    rw [resolveActiveTaskWaiter, if_pos registered] at answered
    rcases List.mem_append.1 answered with before | new
    · exact .inl before
    · have same := congrArg Prod.fst (List.mem_singleton.1 new)
      exact .inr (.inl (congrArg Action.timeout same.symm))

/-- Answers are not taken back. -/
theorem waits_subset_of_step
    (taken : step state action = some next) : ∀ wait ∈ state.waits, wait ∈ next.waits := by
  have toldKeeps {first second : QueueState} (told : Notified first second) :
      ∀ wait ∈ first.waits, wait ∈ second.waits := fun wait member => by
    rw [told.waits]
    exact List.mem_append_left _ member
  cases effect_of_step taken with
  | quiet same => exact fun wait member => same.waits.symm ▸ member
  | starts middle lane entry same =>
    exact fun wait member =>
      ((starts_startTask middle lane entry).waits.trans same.waits).symm ▸ member
  | completes middle task outcome same leaves =>
    intro wait member
    rw [← same.waits] at member
    obtain ⟨-, -, waits⟩ | told := (completes_completeTask middle task outcome).told
    · exact waits.symm ▸ member
    · exact toldKeeps told wait member
  | resets => exact fun _ member => member
  | waits timeoutMs =>
    obtain ⟨drained, made, -⟩ | ⟨made, -⟩ := waitForActiveTasks_cases state timeoutMs
    · rw [made]
      exact fun wait member => List.mem_append_left _ member
    · rw [made]
      exact fun wait member => toldKeeps (notified_notify (registerWaiter state)) wait member
  | notifies middle same =>
    exact fun wait member => toldKeeps (notified_notify middle) wait (same.waits.symm ▸ member)
  | timesOut waiter registered =>
    rw [resolveActiveTaskWaiter, if_pos registered]
    exact fun wait member => List.mem_append_left _ member

theorem waits_subset_of_run {guard : QueueState → Action → Prop} {start final : QueueState}
    {actions : List Action} (run : Steps step guard start actions final) :
    ∀ wait ∈ start.waits, wait ∈ final.waits := by
  induction run with
  | nil state => exact fun _ member => member
  | cons _ taken _ inductionHypothesis =>
    exact fun wait member => inductionHypothesis wait (waits_subset_of_step taken wait member)

/-- The timer of a waiter answers it. -/
theorem answered_of_timeout {waiterId : ℕ}
    (taken : step state (.timeout waiterId) = some next) : (waiterId, false) ∈ next.waits := by
  rw [step] at taken
  split at taken
  · split at taken
    next waiter found =>
      obtain rfl := Option.some.inj taken
      have named : waiter.id = waiterId := by simpa using List.find?_some found
      rw [resolveActiveTaskWaiter, if_pos (List.mem_of_find?_eq_some found), named]
      exact List.mem_append_right _ (List.mem_singleton_self _)
    next => cases taken
  · cases taken

/-- As long as a waiter is registered, its timer may go off and answers it. -/
theorem timeout_answers {waiterId : ℕ} (idle : state.stack = [])
    (waiting : state.waiting waiterId ≠ []) :
    ∃ next, step state (.timeout waiterId) = some next ∧ (waiterId, false) ∈ next.waits := by
  have found : (state.activeTaskWaiters.find? (·.id = waiterId)).isSome := by
    obtain ⟨waiter, member⟩ := List.exists_mem_of_ne_nil _ waiting
    obtain ⟨registered, named⟩ := List.mem_filter.1 member
    exact List.find?_isSome.2 ⟨waiter, registered, named⟩
  obtain ⟨waiter, isFound⟩ := Option.isSome_iff_exists.1 found
  have taken : step state (.timeout waiterId) =
      some (resolveActiveTaskWaiter state waiter false) := by
    rw [step, if_pos idle, isFound]
  exact ⟨_, taken, answered_of_timeout taken⟩

theorem waitKept_of_call (kept : WaitersKept state) (timeoutMs : ℤ) :
    WaitKept state.nextWaiter state.activeTasks (waitForActiveTasks state timeoutMs) := by
  have noWaiter : state.waiting state.nextWaiter = [] :=
    List.filter_eq_nil_iff.2 fun waiter member => by
      simpa using (kept.numbered waiter member).ne
  have noAnswer : state.answers state.nextWaiter = [] :=
    List.filter_eq_nil_iff.2 fun wait member => by
      simpa using (kept.answered wait member).ne
  obtain ⟨drained, made, none, -⟩ | ⟨made, some, -⟩ := waitForActiveTasks_cases state timeoutMs
  · rw [made]
    refine ⟨Nat.lt_succ_self _, fun taskId active => .inl active, .settled drained noWaiter ?_
      fun isDrained taskId active => ?_, fun registered => absurd noWaiter registered⟩
    · have before : (state.waits.filter fun wait => wait.1 = state.nextWaiter) = [] := noAnswer
      rw [QueueState.answers, List.filter_append, before, List.nil_append,
        List.filter_cons_of_pos (by simp), List.filter_nil]
    · rw [none.1 isDrained] at active
      cases active
  · rw [made]
    have registered : WaitKept state.nextWaiter state.activeTasks (registerWaiter state) := by
      refine ⟨Nat.lt_succ_self _, fun taskId active => .inl active, .pending ?_ noAnswer,
        fun _ => List.exists_mem_of_ne_nil _ some |>.imp fun taskId active => ⟨active, active⟩⟩
      have before : (state.activeTaskWaiters.filter fun waiter =>
        waiter.id = state.nextWaiter) = [] := noWaiter
      rw [QueueState.waiting, registerWaiter, List.filter_append, before, List.nil_append,
        List.filter_cons_of_pos (by simp), List.filter_nil]
    have same := sameLanes_notify (registerWaiter state)
    exact registered.notified (notified_notify _) (nextWaiter_notify _).ge same.completedIds_subset
      fun taskId active => .inl (same.activeTasks_subset taskId active)

/-- What the waiter that a call makes comes to, in a state a run leads to after it. -/
structure WaitIsExact (before : QueueState) (timeoutMs : ℤ) (actions : List Action)
    (later : QueueState) : Prop where
  /-- It is answered at most once, and as long as it is not, its timer answers it. -/
  once : (later.answers before.nextWaiter).length =
    if later.waiting before.nextWaiter = [] then 1 else 0
  armed : later.waiting before.nextWaiter ≠ [] → later.stack = [] →
    ∃ next, step later (.timeout before.nextWaiter) = some next ∧
      (before.nextWaiter, false) ∈ next.waits
  /-- When it says `drained`, what was active at the call has completed since. -/
  drained : (before.nextWaiter, true) ∈ later.waits → ∀ taskId ∈ before.activeTasks,
    taskId ∈ later.completedIds ∧ taskId ∉ before.completedIds
  /-- When what was active at the call has completed, before the timer, it has said so. -/
  prompt : (∀ taskId ∈ before.activeTasks, taskId ∈ later.completedIds) →
    (before.activeTasks = [] ∨ 0 < timeoutMs) → .timeout before.nextWaiter ∉ actions →
      (before.nextWaiter, true) ∈ later.waits
  undrained : (before.nextWaiter, false) ∈ later.waits ↔
    before.activeTasks ≠ [] ∧ (timeoutMs ≤ 0 ∨ .timeout before.nextWaiter ∈ actions)

theorem WaitState.answered {waiterId : ℕ} (stands : WaitState waiterId tasks state) {drained : Bool}
    (answered : (waiterId, drained) ∈ state.waits) :
    state.answers waiterId = [(waiterId, drained)] ∧
      (drained = true → ∀ taskId ∈ tasks, taskId ∈ state.completedIds) := by
  have member : (waiterId, drained) ∈ state.answers waiterId :=
    List.mem_filter.2 ⟨answered, decide_eq_true rfl⟩
  cases stands with
  | pending registered unanswered => rw [unanswered] at member; cases member
  | settled other gone isAnswered completed =>
    rw [isAnswered, List.mem_singleton] at member
    obtain rfl := congrArg Prod.snd member
    exact ⟨isAnswered, completed⟩

/-- Without the timer, what a later answer says that is not `drained` was said by the call. -/
theorem mem_waits_of_run {waiterId : ℕ} {called later : QueueState}
    {actions : List Action} (kept : WaitKept waiterId tasks called)
    (run : Steps step NoReset called actions later) (noTimer : .timeout waiterId ∉ actions)
    (answered : (waiterId, false) ∈ later.waits) : (waiterId, false) ∈ called.waits := by
  have guarded : Steps step (fun state action => NoReset state action ∧
      action ≠ .timeout waiterId) called actions later := by
    clear answered kept
    induction run with
    | nil state => exact .nil state
    | cons admitted taken tail inductionHypothesis =>
      rw [List.mem_cons, not_or] at noTimer
      exact .cons ⟨admitted, fun same => noTimer.1 same.symm⟩ taken (inductionHypothesis noTimer.2)
  have preserved : ∀ state action next,
      (WaitKept waiterId tasks state ∧
        ((waiterId, false) ∈ state.waits → (waiterId, false) ∈ called.waits)) →
      (NoReset state action ∧ action ≠ .timeout waiterId) → step state action = some next →
      (WaitKept waiterId tasks next ∧
        ((waiterId, false) ∈ next.waits → (waiterId, false) ∈ called.waits)) := by
    rintro state action next ⟨keptState, before⟩ ⟨noReset, noTimerStep⟩ taken
    refine ⟨keptState.step noReset taken, fun isAnswered => ?_⟩
    rcases mem_waits_of_step taken isAnswered with same | timer | fresh
    · exact before same
    · exact absurd timer noTimerStep
    · exact absurd keptState.counted (fresh ▸ lt_irrefl _)
  exact (guarded.invariant preserved ⟨kept, id⟩).2 answered

/-- Waiting for active tasks is exact, from every reachable state on and along every run without
a reset: the waiter is answered once, `drained` only when the tasks that were active at the call
have completed, and at the latest when the last of them completes or the timer fires. -/
theorem wait_is_exact {before called later : QueueState} {actions : List Action} {timeoutMs : ℤ}
    (reached : Reachable before)
    (call : step before (.call (.waitForActiveTasks timeoutMs)) = some called)
    (run : Steps step NoReset called actions later) :
    WaitIsExact before timeoutMs actions later := by
  have tasksBefore := tasksKept_of_reachable reached
  have waitersBefore := waitersKept_of_reachable reached
  have tasksLater : TasksKept later :=
    run.invariant (fun _ _ _ kept _ taken => kept.step taken) (tasksBefore.step call)
  have made : called = waitForActiveTasks before timeoutMs := by
    rw [step] at call
    split at call
    · exact (Option.some.inj call).symm
    · cases call
  have keptCalled : WaitKept before.nextWaiter before.activeTasks called :=
    made ▸ waitKept_of_call waitersBefore timeoutMs
  have kept : WaitKept before.nextWaiter before.activeTasks later :=
    run.invariant (fun _ _ _ kept admitted taken => kept.step admitted taken) keptCalled
  have lasts : ∀ wait ∈ called.waits, wait ∈ later.waits := waits_subset_of_run run
  have atOnce := waitForActiveTasks_cases before timeoutMs
  rw [← made] at atOnce
  have undrained : (before.nextWaiter, false) ∈ later.waits ↔
      before.activeTasks ≠ [] ∧ (timeoutMs ≤ 0 ∨ .timeout before.nextWaiter ∈ actions) := by
    constructor
    · intro answered
      obtain ⟨drained, isCalled, none, late⟩ | ⟨isCalled, some, -⟩ := atOnce
      · have said : (before.nextWaiter, drained) ∈ later.waits := by
          refine lasts _ ?_
          rw [isCalled]
          exact List.mem_append_right _ (List.mem_singleton_self _)
        have same := (kept.stands.answered said).1.symm.trans (kept.stands.answered answered).1
        have isFalse : drained = false := congrArg Prod.snd (List.head_eq_of_cons_eq same)
        refine ⟨fun empty => ?_, .inl (late isFalse)⟩
        rw [none.2 empty] at isFalse
        cases isFalse
      · refine ⟨some, .inr ?_⟩
        by_contra noTimer
        have inCalled := mem_waits_of_run keptCalled run noTimer answered
        rw [isCalled] at inCalled
        exact absurd (waitersBefore.answered _
          (mem_waits_of_told (notified_notify (registerWaiter before)) inCalled)) (lt_irrefl _)
    · rintro ⟨some, late | timer⟩
      · obtain ⟨drained, isCalled, none, -⟩ | ⟨-, -, early⟩ := atOnce
        · cases drained with
          | true => exact absurd (none.1 rfl) some
          | false =>
            refine lasts _ ?_
            rw [isCalled]
            exact List.mem_append_right _ (List.mem_singleton_self _)
        · exact absurd early (not_lt.2 late)
      · obtain ⟨front, back, rfl⟩ := List.append_of_mem timer
        obtain ⟨middle, -, behind⟩ := run.split
        cases behind with
        | cons admitted taken tail =>
          exact waits_subset_of_run tail _ (answered_of_timeout taken)
  refine ⟨?_, fun waiting idle => timeout_answers idle waiting, ?_, ?_, undrained⟩
  · cases kept.stands with
    | pending registered unanswered =>
      rw [unanswered, registered, if_neg (List.cons_ne_nil _ _)]
      rfl
    | settled drained gone answered completed => rw [answered, gone, if_pos rfl]; rfl
  · intro answered taskId active
    exact ⟨(kept.stands.answered answered).2 rfl taskId active,
      fun completed => tasksBefore.not_active completed active⟩
  · intro completed noLate noTimer
    have gone : later.waiting before.nextWaiter = [] := by
      by_contra waiting
      obtain ⟨taskId, member, active⟩ := kept.waits waiting
      exact tasksLater.not_active (completed taskId member) active
    cases kept.stands with
    | pending registered unanswered => rw [gone] at registered; cases registered
    | settled drained _ answered _ =>
      have said : (before.nextWaiter, drained) ∈ later.waits := by
        have member : (before.nextWaiter, drained) ∈ later.answers before.nextWaiter := by
          rw [answered]
          exact List.mem_singleton_self _
        exact List.mem_of_mem_filter member
      cases drained with
      | true => exact said
      | false =>
        obtain ⟨some, late | timer⟩ := undrained.1 said
        · exact absurd (noLate.resolve_left some) (not_lt.2 late)
        · exact absurd timer noTimer

/-- A task is active when a caller waits; another one starts in another lane, and the first one
completes. -/
def beforeTheWait : List Action :=
  [.call (.enqueueCommandInLane "main" false), .resume false, .taskReturns, .resume false]

def afterTheWait : List Action :=
  [.call (.enqueueCommandInLane "cron" false), .resume false, .taskReturns, .resume false,
    .taskSettles 1 (.fulfilled 0)]

theorem wait_ends_with_its_task :
    ∃ before later : QueueState, before.activeTasks = [1] ∧ later.activeTasks = [2] ∧
      (before.nextWaiter, true) ∈ later.waits ∧ WaitIsExact before 1000 afterTheWait later := by
  let before := (execute step QueueState.initial beforeTheWait).getD {}
  let called := waitForActiveTasks before 1000
  let later := (execute step called afterTheWait).getD {}
  have reached : Reachable before := ⟨beforeTheWait, steps_of_execute (by decide)⟩
  have call : step before (.call (.waitForActiveTasks 1000)) = some called := by decide
  have run : Steps step Unguarded called afterTheWait later := steps_of_execute (by decide)
  have noReset : ∀ action ∈ afterTheWait, ∀ state, NoReset state action := by
    intro action member state
    have named : ∀ action ∈ afterTheWait, action ≠ .call .resetAllLanes := by decide
    exact named action member
  exact ⟨before, later, by decide, by decide, by decide,
    wait_is_exact reached call (run.promote noReset)⟩

end OpenClaw.CommandQueue
