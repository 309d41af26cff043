/-
This file is about terminal tasks: which operations can move a task out of a
terminal status, and what becomes of a task the operator has cancelled.

The agent-event listener, the cancellation and the maintenance look at the
status before they write one. The updates by task id and by run id do not, and
neither does the last stretch of a cancellation. A task therefore stays
terminal as long as `markTaskRunningByRunId` matches no terminal task, and a
cancelled one stays cancelled as long as no such update meets it with another
status.
-/

import OpenClaw.Tasks.StepWrites

namespace OpenClaw.Tasks

open Text

/-! ### Statuses that writes preserve -/

variable {taskId : String}

theorem updateTask_statusOf {world : World} {patch : TaskPatch} :
    ∀ later, statusOf (updateTask taskId patch world).2 taskId = some later →
      statusOf world taskId = some later ∧ patch.status = none ∨ patch.status = some later := by
  intro later reached
  cases stored : world.tasks.get taskId with
  | none =>
    rw [updateTask_of_absent patch stored, statusOf, stored] at reached
    simp at reached
  | some current =>
    obtain ⟨cleanupAfter, tasks⟩ := updateTask_tasks patch stored
    rw [statusOf, tasks, OrderedMap.get_set_self, Option.map_some, Option.some.injEq] at reached
    rw [statusOf, stored, Option.map_some]
    cases written : patch.status with
    | none =>
      simp only [updatedRecord, TaskRecord.merge, written, Option.getD_none] at reached
      exact Or.inl ⟨congrArg some reached, rfl⟩
    | some status =>
      simp only [updatedRecord, TaskRecord.merge, written, Option.getD_some] at reached
      exact Or.inr (congrArg some reached)

variable {env : Env} {world final : World}

/-- A set of statuses that the permitted writes to a task respect is never left, except by erasing
the task. -/
theorem Writes.status_kept {authority : Authority} {world next : World}
    (writes : Writes env authority world next) {Kept : TaskStatus → Prop}
    (spared : ∀ middle record origin, authority.inserts middle record origin →
      record.taskId ≠ taskId)
    (respected : ∀ former status, authority.targets taskId →
      isTerminalTaskStatus former = false ∨ authority.forced taskId former status →
        Kept former → Kept status)
    (initially : ∀ status, statusOf world taskId = some status → Kept status) :
    ∀ status, statusOf next taskId = some status → Kept status := by
  induction writes with
  | refl => exact initially
  | @tail middle _ front write inductionHypothesis =>
    intro later reached
    cases write with
    | aside tables flows =>
      rw [statusOf, tables.tasks] at reached
      exact inductionHypothesis later reached
    | update updatedId patch legit =>
      by_cases same : taskId = updatedId
      · subst same
        rcases updateTask_statusOf later reached with ⟨former, -⟩ | written
        · exact inductionHypothesis later former
        · cases stored : middle.tasks.get taskId with
          | none =>
            rw [updateTask_of_absent patch stored, statusOf, stored] at reached
            simp at reached
          | some current =>
            have former : Kept current.status :=
              inductionHypothesis _ (by rw [statusOf, stored, Option.map_some])
            obtain ⟨target, permitted⟩ := legit.status current later stored written
            exact respected _ _ target permitted former
      · refine inductionHypothesis later ?_
        cases stored : middle.tasks.get updatedId with
        | none =>
          rw [updateTask_of_absent patch stored] at reached
          exact reached
        | some current =>
          obtain ⟨cleanupAfter, tasks⟩ := updateTask_tasks patch stored
          rw [statusOf, tasks, OrderedMap.get_set_of_ne _ _ same] at reached
          exact reached
    | insert record origin legit =>
      have different := (spared _ _ _ legit.granted).symm
      rw [statusOf, insertTaskRecord_tasks, OrderedMap.get_set_of_ne _ _ different] at reached
      exact inductionHypothesis later reached
    | erase erasedId current stored granted =>
      have shown : ((middle.tasks.delete erasedId).get taskId).map TaskRecord.status = some later :=
        reached
      rw [OrderedMap.get_delete] at shown
      split at shown
      · simp at shown
      · exact inductionHypothesis later shown

/-! ### What a cancellation reports -/

/-- A task that is there has been cancelled. -/
def CancelledOrGone (taskId : String) (world : World) : Prop :=
  ∀ later, statusOf world taskId = some later → later = .cancelled

theorem updateTask_cancelled {patch : TaskPatch} {world : World}
    (written : patch.status = some .cancelled) :
    CancelledOrGone taskId (updateTask taskId patch world).2 := by
  intro later reached
  rcases updateTask_statusOf later reached with ⟨-, silent⟩ | status
  · rw [written] at silent
    simp at silent
  · exact (Option.some.inj (written.symm.trans status)).symm

/-- Deliveries do not touch the status of a cancelled task. -/
theorem leaves_deliverCancelled {updated : Option TaskRecord}
    {world : World} (cancelled : CancelledOrGone taskId world) :
    Sync.Leaves (CancelledOrGone taskId) (deliverCancelled env updated) world := by
  have writes : Sync.Related (Writes env Authority.nothing) (deliverCancelled env updated) world :=
    writes_deliverCancelled updated world
  refine writes.leaves fun final written later reached => cancelled later ?_
  rw [← reached]
  exact (written.statusOf_eq ⟨fun _ _ _ => id, fun _ _ => id⟩ id).symm

/-- However the last stretch of a cancellation ends, the task is cancelled if it is still there. -/
theorem leaves_recordTaskCancelled (env : Env) (taskId : String) (world : World) :
    Sync.Leaves (CancelledOrGone taskId) (recordTaskCancelled env taskId) world := by
  have body : Sync.Leaves (CancelledOrGone taskId) (writeTaskCancelled env taskId) world := by
    unfold writeTaskCancelled
    refine Sync.Leaves.bind (fun _ _ ran => by simp [dateNow] at ran) fun endedAt first _ => ?_
    refine Sync.Leaves.bind (fun _ _ ran => by simp [dateNow] at ran)
      fun lastEventAt second _ => ?_
    have cancelled : Sync.Leaves (CancelledOrGone taskId) (updateTask taskId
        { status := some .cancelled
          endedAt := some endedAt
          lastEventAt := some lastEventAt
          error := some (some "Cancelled by operator.") }) second := updateTask_cancelled rfl
    refine Sync.Leaves.keep cancelled fun updated written kept => ?_
    exact (leaves_deliverCancelled kept).keep fun _ final delivered => delivered
  exact body.keep_attempt fun _ failed kept => kept

/-- A cancellation that reports success at once has cancelled the task; one that has to wait has
found the task. -/
theorem startCancelTaskById_outcome {start : CancelStart} (keyed : Keyed world)
    (ran : startCancelTaskById env taskId world = (.ok start, final)) :
    (start = .returned true → CancelledOrGone (trim taskId) final ∧
        (world.tasks.get (trim taskId)).isSome) ∧
      ∀ awaited, start = .awaiting awaited → (world.tasks.get awaited).isSome := by
  unfold startCancelTaskById at ran
  rw [Sync.read_bind] at ran
  cases stored : world.tasks.get (trim taskId) with
  | none =>
    simp only [stored, Sync.pure_run, Prod.mk.injEq, Except.ok.injEq] at ran
    obtain ⟨rfl, rfl⟩ := ran
    simp
  | some task =>
    have known : task.taskId = trim taskId := keyed.tasks _ task stored
    simp only [stored] at ran
    split at ran
    · simp only [Sync.pure_run, Prod.mk.injEq, Except.ok.injEq] at ran
      obtain ⟨rfl, rfl⟩ := ran
      simp
    · have session (result : ∃ reached, start = reached ∧ (reached = .returned false ∨
          reached = .awaiting task.taskId)) :
          (start = .returned true → CancelledOrGone (trim taskId) final ∧
            (some task).isSome) ∧
          ∀ awaited, start = .awaiting awaited → (world.tasks.get awaited).isSome := by
        obtain ⟨_, rfl, rfl | rfl⟩ := result
        · simp
        · refine ⟨fun absurd => by simp at absurd, fun awaited same => ?_⟩
          rw [← CancelStart.awaiting.inj same, known, stored]
          rfl
      have waiting (ran : (if (normalizeOptionalString task.childSessionKey).isNone then
          pure (CancelStart.returned false) else pure (.awaiting task.taskId) :
            Section CancelStart) world = (.ok start, final)) :
          ∃ reached, start = reached ∧ (reached = .returned false ∨
            reached = .awaiting task.taskId) := by
        split at ran <;> simp only [Sync.pure_run, Prod.mk.injEq, Except.ok.injEq] at ran
        · exact ⟨_, ran.1.symm, Or.inl rfl⟩
        · exact ⟨_, ran.1.symm, Or.inr rfl⟩
      cases runtime : task.runtime with
      | cli =>
        simp only [runtime] at ran
        have recorded := leaves_recordTaskCancelled env task.taskId world
        unfold Sync.Leaves at recorded
        cases attempt : recordTaskCancelled env task.taskId world with
        | mk outcome middle =>
          rw [attempt, known] at recorded
          cases outcome with
          | error error =>
            rw [Sync.bind_run_error attempt] at ran
            simp at ran
          | ok cancelled =>
            rw [Sync.bind_run_ok attempt, Sync.pure_run, Prod.mk.injEq, Except.ok.injEq] at ran
            obtain ⟨rfl, rfl⟩ := ran
            exact ⟨fun _ => ⟨recorded, rfl⟩, fun _ absurd => by simp at absurd⟩
      | cron =>
        simp only [runtime, Sync.pure_run, Prod.mk.injEq, Except.ok.injEq] at ran
        exact session ⟨_, ran.1.symm, Or.inl rfl⟩
      | acp =>
        simp only [runtime] at ran
        exact session (waiting ran)
      | subagent =>
        simp only [runtime] at ran
        exact session (waiting ran)

theorem finishCancelTaskById_outcome {stopped : Bool}
    (ran : finishCancelTaskById env taskId stopped world = (.ok true, final)) :
    CancelledOrGone taskId final := by
  unfold finishCancelTaskById at ran
  split at ran
  · have recorded := leaves_recordTaskCancelled env taskId world
    unfold Sync.Leaves at recorded
    rw [ran] at recorded
    exact recorded
  · simp at ran

/-! ### What the books record -/

/-- The tasks whose cancellation a report leaves awaiting. -/
def Report.awaited : Report → List String
  | .cancelStarted _ (.awaiting taskId) => [taskId]
  | .flowChildStarted _ _ _ (.awaiting taskId) => [taskId]
  | .flowCancelStarted (some cancellation) => cancellation.awaiting.toList
  | _ => []

/-- Some cancellation of the state awaits the task. -/
def AwaitsTask (state : State) (taskId : String) : Prop :=
  taskId ∈ state.taskCancels ∨
    ∃ cancellation ∈ state.flowCancels, cancellation.awaiting = some taskId

/-- What a report says is true of the state the section leaves, and speaks of known tasks. -/
structure ReportSound (state : State) (start final : World) (report : Report) : Prop where
  cancelled : ∀ taskId ∈ report.operatorCancelled, CancelledOrGone taskId final
  known : ∀ taskId ∈ report.operatorCancelled ++ report.awaited,
    (start.tasks.get taskId).isSome ∨ AwaitsTask state taskId

variable {report : Report} {state : State} {start : World} {input : Input}
variable {next : State}

theorem reportSound_of_silent
    (noneCancelled : report.operatorCancelled = []) (noneAwaited : report.awaited = []) :
    ReportSound state start final report where
  cancelled taskId member := by simp [noneCancelled] at member
  known taskId member := by simp [noneCancelled, noneAwaited] at member

theorem unreported_report {Value : Type} {program : Section Value}
    (ran : unreported program start = (.ok report, final)) :
    report = .nothing := by
  unfold unreported at ran
  cases first : program start with
  | mk outcome middle =>
    cases outcome with
    | error error =>
      rw [Sync.bind_run_error first] at ran
      simp at ran
    | ok value =>
      rw [Sync.bind_run_ok first, Sync.pure_run, Prod.mk.injEq, Except.ok.injEq] at ran
      exact ran.1.symm

/-- A sequence whose second part only wraps the result reports the wrapped result. -/
theorem wrapped_report {Value : Type} {program : Section Value} {wrap : Value → Report}
    (ran : (program >>= fun value => pure (wrap value)) start = (.ok report, final)) :
    ∃ value, program start = (.ok value, final) ∧ report = wrap value := by
  cases first : program start with
  | mk outcome middle =>
    cases outcome with
    | error error =>
      rw [Sync.bind_run_error first] at ran
      simp at ran
    | ok value =>
      rw [Sync.bind_run_ok first, Sync.pure_run, Prod.mk.injEq, Except.ok.injEq] at ran
      exact ⟨value, by rw [ran.2], ran.1.symm⟩

theorem startCancelFlowById_outcome {flowId : String} {cancellation : FlowCancellation}
    (ran : startCancelFlowById flowId start = (.ok (some cancellation), final)) :
    cancellation.awaiting = none := by
  unfold startCancelFlowById getTaskFlowById at ran
  rw [Sync.reads_bind] at ran
  cases stored : start.flows.get flowId with
  | none => simp [stored] at ran
  | some flow =>
    simp only [stored] at ran
    split at ran
    · simp at ran
    · cases marking : markFlowCancelRequested flow start with
      | mk outcome middle =>
        cases outcome with
        | error error =>
          rw [Sync.bind_run_error marking] at ran
          simp at ran
        | ok marked =>
          rw [Sync.bind_run_ok marking] at ran
          cases marked with
          | none => simp at ran
          | some marked =>
            simp only [Sync.read_bind, Sync.pure_run, Prod.mk.injEq, Except.ok.injEq,
              Option.some.injEq] at ran
            rw [← ran.1]

/-- What a cancellation that has started reports. -/
theorem cancelStart_sound {start : CancelStart} (keyed : Keyed world)
    (ran : startCancelTaskById env taskId world = (.ok start, final))
    (reported : (start = .returned true ∧ report.operatorCancelled = [trim taskId] ∧
        report.awaited = []) ∨
      (∃ awaited, start = .awaiting awaited ∧ report.operatorCancelled = [] ∧
        report.awaited = [awaited]) ∨
      report.operatorCancelled = [] ∧ report.awaited = []) :
    ReportSound state world final report := by
  obtain ⟨atOnce, later⟩ := startCancelTaskById_outcome keyed ran
  rcases reported with ⟨same, cancelled, awaited⟩ | ⟨waiting, same, cancelled, awaited⟩ | silent
  · obtain ⟨gone, present⟩ := atOnce same
    constructor
    · intro other member
      rw [cancelled, List.mem_singleton] at member
      exact member ▸ gone
    · intro other member
      rw [cancelled, awaited, List.append_nil, List.mem_singleton] at member
      exact Or.inl (member ▸ present)
  · constructor
    · intro other member
      simp [cancelled] at member
    · intro other member
      rw [cancelled, awaited, List.nil_append, List.mem_singleton] at member
      exact Or.inl (member ▸ later waiting same)
  · exact reportSound_of_silent silent.1 silent.2

/-- What a cancellation that has finished reports. -/
theorem cancelFinish_sound {stopped : Bool}
    {cancelled : Bool} (awaits : AwaitsTask state taskId)
    (ran : finishCancelTaskById env taskId stopped world = (.ok cancelled, final))
    (reported : report.operatorCancelled = if cancelled then [taskId] else [])
    (silent : report.awaited = []) : ReportSound state world final report := by
  cases cancelled with
  | false => exact reportSound_of_silent (by simpa using reported) silent
  | true =>
    have gone := finishCancelTaskById_outcome ran
    rw [if_pos rfl] at reported
    constructor
    · intro other member
      rw [reported, List.mem_singleton] at member
      exact member ▸ gone
    · intro other member
      rw [reported, silent, List.append_nil, List.mem_singleton] at member
      exact Or.inr (member ▸ awaits)

theorem perform_report {action : Action} (able : enabled state action = true) (keyed : Keyed start)
    (ran : perform env state action start = (.ok report, final)) :
    ReportSound state start final report := by
  cases action with
  | startCancelTaskById taskId =>
    obtain ⟨outcome, started, rfl⟩ := wrapped_report ran
    refine cancelStart_sound keyed started ?_
    rcases outcome with (_ | _) | awaited <;> simp [Report.operatorCancelled, Report.awaited]
  | finishCancelTaskById taskId stopped =>
    obtain ⟨cancelled, finished, rfl⟩ := wrapped_report ran
    have awaits : taskId ∈ state.taskCancels := by simpa [enabled, Action.drawnIds] using able
    refine cancelFinish_sound (Or.inl awaits) finished ?_ rfl
    cases cancelled <;> rfl
  | startCancelFlowById flowId =>
    obtain ⟨cancellation, started, rfl⟩ := wrapped_report ran
    refine reportSound_of_silent rfl ?_
    cases cancellation with
    | none => rfl
    | some cancellation =>
      rw [Report.awaited, startCancelFlowById_outcome started]
      rfl
  | startFlowChild index =>
    have turn : startFlowChild env state.flowCancels index start = (.ok report, final) := ran
    unfold startFlowChild at turn
    cases pending : (state.flowCancels[index]?).map FlowCancellation.remaining with
    | none =>
      simp only [pending, Sync.pure_run, Prod.mk.injEq, Except.ok.injEq] at turn
      exact turn.1 ▸ reportSound_of_silent rfl rfl
    | some remaining =>
      cases remaining with
      | nil =>
        simp only [pending, Sync.pure_run, Prod.mk.injEq, Except.ok.injEq] at turn
        exact turn.1 ▸ reportSound_of_silent rfl rfl
      | cons taskId rest =>
        simp only [pending] at turn
        obtain ⟨outcome, started, rfl⟩ := wrapped_report turn
        refine cancelStart_sound keyed started ?_
        rcases outcome with (_ | _) | awaited <;> simp [Report.operatorCancelled, Report.awaited]
  | finishFlowChild index stopped =>
    have turn : finishFlowChild env state.flowCancels index stopped start =
      (.ok report, final) := ran
    unfold finishFlowChild at turn
    cases awaited : (state.flowCancels[index]?).bind FlowCancellation.awaiting with
    | none =>
      simp only [awaited, Sync.pure_run, Prod.mk.injEq, Except.ok.injEq] at turn
      exact turn.1 ▸ reportSound_of_silent rfl rfl
    | some taskId =>
      simp only [awaited] at turn
      obtain ⟨cancelled, finished, rfl⟩ := wrapped_report turn
      obtain ⟨cancellation, found, waiting⟩ := Option.bind_eq_some_iff.1 awaited
      refine cancelFinish_sound
        (Or.inr ⟨cancellation, List.mem_of_getElem? found, waiting⟩) finished ?_ rfl
      cases cancelled <;> rfl
  | finishCancelFlowById index =>
    have turn : finishFlowCancel state.flowCancels index start = (.ok report, final) := ran
    unfold finishFlowCancel at turn
    cases found : state.flowCancels[index]? with
    | none =>
      simp only [found, Sync.pure_run, Prod.mk.injEq, Except.ok.injEq] at turn
      exact turn.1 ▸ reportSound_of_silent rfl rfl
    | some cancellation =>
      simp only [found] at turn
      have silent : report = .flowCancelFinished index := by
        unfold Sync.attempt at turn
        split at turn
        · rename_i value middle first
          obtain ⟨_, _, rfl⟩ := wrapped_report first
          simp only [Prod.mk.injEq, Except.ok.injEq] at turn
          exact turn.1.symm
        · simp only [Sync.pure_run, Prod.mk.injEq, Except.ok.injEq] at turn
          exact turn.1.symm
      exact silent ▸ reportSound_of_silent rfl rfl
  | _ => exact (unreported_report ran) ▸ reportSound_of_silent rfl rfl

/-! ### Steps that respect ended tasks -/

/-- The step forces no active status on a terminal task, and no status but `cancelled` on a task
the operator has cancelled. -/
def RespectsEnded (state : State) (input : Input) : Prop :=
  ∀ taskId ∈ addressed state state.world input.action, ∀ former status,
    statusOf state.world taskId = some former → input.action.forcedStatus = some status →
      (isTerminalTaskStatus former = true → isTerminalTaskStatus status = true) ∧
        (taskId ∈ state.operatorCancelled → former = .cancelled → status = .cancelled)

/-- The host is no part of the lookups. -/
theorem addressed_prepared (state : State) (input : Input) (action : Action) :
    addressed state (prepared input state.world) action = addressed state state.world action := by
  cases action <;> rfl

/-- A set of terminal statuses that the forced writes of a step respect is not left by the step. -/
theorem step_status_stays (booked : Booked state)
    (taken : step env state input = some next) (used : taskId ∈ state.usedIds)
    {Kept : TaskStatus → Prop}
    (terminal : ∀ status, Kept status → isTerminalTaskStatus status = true)
    (respected : taskId ∈ addressed state state.world input.action → ∀ former status,
      statusOf state.world taskId = some former → input.action.forcedStatus = some status →
        Kept former → Kept status)
    (initially : ∀ status, statusOf state.world taskId = some status → Kept status) :
    ∀ status, statusOf next.world taskId = some status → Kept status := by
  refine (step_writes booked taken).status_kept ?_ ?_ initially
  · intro middle record origin granted same
    exact fresh_of_enabled (step_cases taken).1 _ (same ▸ inserts_drawn granted) used
  · rintro former status target (active | ⟨stored, forced⟩) kept
    · rw [terminal former kept] at active
      simp at active
    have addresses : taskId ∈ addressed state (prepared input state.world) input.action := target
    rw [addressed_prepared] at addresses
    exact respected addresses former status stored forced kept

theorem used_of_statusOf (booked : Booked state)
    {status : TaskStatus} (stored : statusOf state.world taskId = some status) :
    taskId ∈ state.usedIds := by
  by_contra unused
  rw [statusOf, booked.tasks taskId unused] at stored
  simp at stored

/-- A task the step does not address keeps its status, if it is still there. -/
theorem step_status_of_unaddressed
    (booked : Booked state) (taken : step env state input = some next)
    {former : TaskStatus} (stored : statusOf state.world taskId = some former)
    (spared : taskId ∉ addressed state state.world input.action) :
    ∀ status, statusOf next.world taskId = some status → status = former := by
  refine (step_writes booked taken).status_kept ?_ ?_ ?_
  · intro middle record origin granted same
    exact fresh_of_enabled (step_cases taken).1 _ (same ▸ inserts_drawn granted)
      (used_of_statusOf booked stored)
  · intro _ _ target
    have addresses : taskId ∈ addressed state (prepared input state.world) input.action := target
    rw [addressed_prepared] at addresses
    exact absurd addresses spared
  · intro status again
    exact Option.some.inj (again.symm.trans stored)

theorem terminal_step (booked : Booked state)
    (admitted : RespectsEnded state input) (taken : step env state input = some next)
    (used : taskId ∈ state.usedIds)
    (initially : ∀ status, statusOf state.world taskId = some status →
      isTerminalTaskStatus status = true) :
    ∀ status, statusOf next.world taskId = some status → isTerminalTaskStatus status = true :=
  step_status_stays booked taken used (fun _ => id)
    (fun addresses former status stored forced =>
      (admitted taskId addresses former status stored forced).1) initially

/-! ### The books of the cancellations -/

theorem book_operatorCancelled (report : Report) (state : State) :
    (book report state).operatorCancelled =
      state.operatorCancelled ++ report.operatorCancelled := by
  unfold book
  dsimp only
  split <;> rfl

/-- A booked cancellation awaits what the state or the report awaits. -/
theorem awaitsTask_book (awaits : AwaitsTask (book report state) taskId) :
    AwaitsTask state taskId ∨ taskId ∈ report.awaited := by
  have modified {index : Nat} {change : FlowCancellation → FlowCancellation}
      {cancellation : FlowCancellation}
      (member : cancellation ∈ state.flowCancels.modify index change) :
      cancellation ∈ state.flowCancels ∨ ∃ former ∈ state.flowCancels,
        cancellation = change former := by
    obtain ⟨position, bound, rfl⟩ := List.mem_iff_getElem.1 member
    rw [List.getElem_modify]
    rw [List.length_modify] at bound
    split
    · exact Or.inr ⟨_, List.getElem_mem bound, rfl⟩
    · exact Or.inl (List.getElem_mem bound)
  rcases report with _ | ⟨cancelledId, start⟩ | ⟨cancelledId, cancelled⟩ | started |
    ⟨index, childId, rest, start⟩ | ⟨index, childId, cancelled⟩ | index
  · exact Or.inl awaits
  · rcases start with cancelled | awaited
    · exact Or.inl awaits
    · rcases awaits with member | flow
      · rcases List.mem_append.1 member with former | new
        · exact Or.inl (Or.inl former)
        · exact Or.inr new
      · exact Or.inl (Or.inr flow)
  · rcases awaits with member | flow
    · exact Or.inl (Or.inl (List.mem_of_mem_erase member))
    · exact Or.inl (Or.inr flow)
  · rcases started with _ | cancellation
    · exact Or.inl awaits
    · rcases awaits with member | ⟨other, member, waiting⟩
      · exact Or.inl (Or.inl member)
      · rcases List.mem_append.1 member with former | new
        · exact Or.inl (Or.inr ⟨other, former, waiting⟩)
        · obtain rfl := List.mem_singleton.1 new
          exact Or.inr (by simp [Report.awaited, waiting])
  · rcases awaits with member | ⟨other, member, waiting⟩
    · exact Or.inl (Or.inl member)
    · rcases modified member with former | ⟨former, listed, rfl⟩
      · exact Or.inl (Or.inr ⟨other, former, waiting⟩)
      · rcases start with cancelled | awaited
        · simp at waiting
        · exact Or.inr (by simpa [Report.awaited, eq_comm] using waiting)
  · rcases awaits with member | ⟨other, member, waiting⟩
    · exact Or.inl (Or.inl member)
    · rcases modified member with former | ⟨former, listed, rfl⟩
      · exact Or.inl (Or.inr ⟨other, former, waiting⟩)
      · simp at waiting
  · rcases awaits with member | ⟨other, member, waiting⟩
    · exact Or.inl (Or.inl member)
    · exact Or.inl (Or.inr ⟨other, List.mem_of_mem_eraseIdx member, waiting⟩)

/-- Every awaited task is known, and so is every task the operator has cancelled, which is
cancelled as long as it is there. -/
structure CancelBooks (state : State) : Prop where
  booked : Booked state
  awaited : ∀ taskId, AwaitsTask state taskId → taskId ∈ state.usedIds
  known : ∀ taskId ∈ state.operatorCancelled, taskId ∈ state.usedIds
  cancelled : ∀ taskId ∈ state.operatorCancelled, CancelledOrGone taskId state.world

theorem CancelBooks.step (books : CancelBooks state) (admitted : RespectsEnded state input)
    (taken : OpenClaw.Tasks.step env state input = some next) : CancelBooks next := by
  have used := (step_world taken).2
  have kept : ∀ taskId ∈ state.operatorCancelled, CancelledOrGone taskId next.world := by
    intro taskId member
    refine step_status_stays books.booked taken (books.known taskId member) ?_ ?_
      (books.cancelled taskId member)
    · rintro status rfl
      rfl
    · intro addresses former status stored forced same
      exact (admitted taskId addresses former status stored forced).2 member same
  have stored {taskId : String} (present : (state.world.tasks.get taskId).isSome) :
      taskId ∈ state.usedIds := by
    by_contra unused
    rw [books.booked.tasks taskId unused] at present
    simp at present
  obtain ⟨able, ⟨report, ran, rfl⟩ | ⟨-, rfl⟩⟩ := step_cases taken
  · have sound := perform_report able (books.booked.ready able).keyed
      (show perform env state input.action (prepared input state.world) = (.ok report, _) from
        Prod.ext ran rfl)
    have familiar : ∀ taskId ∈ report.operatorCancelled ++ report.awaited,
        taskId ∈ state.usedIds := by
      intro taskId member
      rcases sound.known taskId member with present | awaits
      · exact stored present
      · exact books.awaited taskId awaits
    refine ⟨books.booked.step taken, ?_, ?_, ?_⟩
    · intro taskId awaits
      rw [used]
      refine List.mem_append_left _ ?_
      rcases awaitsTask_book awaits with former | new
      · exact books.awaited taskId former
      · exact familiar taskId (List.mem_append_right _ new)
    · intro taskId member
      rw [used]
      refine List.mem_append_left _ ?_
      rw [book_operatorCancelled] at member
      rcases List.mem_append.1 member with former | new
      · exact books.known taskId former
      · exact familiar taskId (List.mem_append_left _ new)
    · intro taskId member
      rw [book_operatorCancelled] at member
      rcases List.mem_append.1 member with former | new
      · exact kept taskId former
      · rw [book_world]
        exact sound.cancelled taskId new
  · refine ⟨books.booked.step taken, ?_, ?_, kept⟩
    · intro taskId awaits
      exact List.mem_append_left _ (books.awaited taskId awaits)
    · intro taskId member
      exact List.mem_append_left _ (books.known taskId member)

theorem cancelBooks_restored (tasks : Option TaskSnapshot) (flows : Option FlowSnapshot) :
    CancelBooks (restored tasks flows) where
  booked := booked_restored tasks flows
  awaited taskId awaits := by simp [AwaitsTask, restored] at awaits
  known taskId member := by simp [restored] at member
  cancelled taskId member := by simp [restored] at member

/-! ### Runs -/

/-- A task that is terminal stays terminal for as long as it is recorded. -/
def TerminalStays (earlier later : State) : Prop :=
  ∀ taskId former status, statusOf earlier.world taskId = some former →
    isTerminalTaskStatus former = true → statusOf later.world taskId = some status →
      isTerminalTaskStatus status = true

/-- A task the operator has cancelled is cancelled for as long as it is recorded. -/
def OperatorCancelStands (state : State) : Prop :=
  ∀ taskId ∈ state.operatorCancelled, ∀ status, statusOf state.world taskId = some status →
    status = .cancelled

theorem cancelBooks_of_run {state final : State} {inputs : List Input}
    (run : Machine.Steps (step env) RespectsEnded state inputs final)
    (books : CancelBooks state) : CancelBooks final :=
  run.invariant (fun _ _ _ held admitted taken => held.step admitted taken) books

/-- In every run whose steps respect ended tasks, between any two of its states, terminal tasks
stay terminal, and what the operator has cancelled is cancelled. -/
theorem ended_tasks_stay_ended (env : Env) (tasks : Option TaskSnapshot)
    (flows : Option FlowSnapshot) (front back : List Input) (earlier later : State)
    (before : Machine.Steps (step env) RespectsEnded (restored tasks flows) front earlier)
    (between : Machine.Steps (step env) RespectsEnded earlier back later) :
    TerminalStays earlier later ∧ OperatorCancelStands later := by
  have books := cancelBooks_of_run before (cancelBooks_restored tasks flows)
  refine ⟨fun taskId former status stored terminal reached => ?_,
    (cancelBooks_of_run between books).cancelled⟩
  have used := used_of_statusOf books.booked stored
  have preserved : ∀ state input next,
      (Booked state ∧ taskId ∈ state.usedIds ∧ ∀ status, statusOf state.world taskId = some status →
        isTerminalTaskStatus status = true) → RespectsEnded state input →
      step env state input = some next →
      (Booked next ∧ taskId ∈ next.usedIds ∧ ∀ status, statusOf next.world taskId = some status →
        isTerminalTaskStatus status = true) := by
    rintro state input next ⟨booked, known, held⟩ admitted taken
    refine ⟨booked.step taken, ?_, terminal_step booked admitted taken known held⟩
    rw [(step_world taken).2]
    exact List.mem_append_left _ known
  refine (between.invariant preserved ⟨books.booked, used, fun status same => ?_⟩).2.2 status
    reached
  rw [stored] at same
  exact Option.some.inj same ▸ terminal

/-- A command-line task of run `run-1`. -/
def createCliTask : Input where
  action := .createTaskRecord "task-1"
    { runtime := .cli
      ownerKey := some "agent:main:main"
      scopeKind := some .session
      runId := some "run-1"
      task := "build"
      status := some .running }

def cancelCliTask : Input where
  action := .startCancelTaskById "task-1"

/-- The lifecycle event of a run that starts after its task was cancelled. -/
def lateStartEvent : Input where
  action := .agentEvent
    { runId := "run-1", ts := 1000, stream := .lifecycle .start (some 1000) none }

theorem respectsEnded_of_unforced
    (unforced : input.action.forcedStatus = none) : RespectsEnded state input := by
  intro taskId _ former status _ forced
  rw [unforced] at forced
  simp at forced

/-- A late lifecycle event does not revive a cancelled task. -/
theorem cancelled_task_ignores_late_start :
    ∃ earlier later, Machine.Steps (step telegramEnv) RespectsEnded (restored none none)
        [createCliTask, cancelCliTask] earlier ∧
      Machine.Steps (step telegramEnv) RespectsEnded earlier [lateStartEvent] later ∧
      later.operatorCancelled = ["task-1"] ∧ TerminalStays earlier later ∧
      OperatorCancelStands later := by
  have evaluated : (Machine.execute (step telegramEnv) (restored none none)
      [createCliTask, cancelCliTask, lateStartEvent]).map State.operatorCancelled =
        some ["task-1"] := by decide +kernel
  obtain ⟨later, ran, shown⟩ := Option.map_eq_some_iff.1 evaluated
  have run : Machine.Steps (step telegramEnv) RespectsEnded (restored none none)
      ([createCliTask, cancelCliTask] ++ [lateStartEvent]) later := by
    refine (Machine.steps_of_execute ran).promote fun input member state => ?_
    refine respectsEnded_of_unforced ?_
    have listed : input = createCliTask ∨ input = cancelCliTask ∨ input = lateStartEvent := by
      simpa using member
    rcases listed with rfl | rfl | rfl <;> rfl
  obtain ⟨earlier, before, between⟩ := run.split
  obtain ⟨stays, stands⟩ :=
    ended_tasks_stay_ended telegramEnv none none _ _ earlier later before between
  exact ⟨earlier, later, before, between, shown, stays, stands⟩

def completeRun : Input where
  action := .completeTaskRunByRunId { runId := "run-1" } { endedAt := 2000 }

def markRunning : Input where
  action := .markTaskRunningByRunId { runId := "run-1" } (some 3000) none none none

/-- The late report of a run overwrites the operator's cancellation, and a run that is marked
running takes its terminal task with it. -/
theorem late_reports_reopen_ended_tasks :
    (¬ ∀ (env : Env) (tasks : Option TaskSnapshot) (flows : Option FlowSnapshot)
      (front back : List Input) (earlier later : State),
      Machine.Steps (step env) Machine.Unguarded (restored tasks flows) front earlier →
      Machine.Steps (step env) Machine.Unguarded earlier back later → OperatorCancelStands later) ∧
    ¬ ∀ (env : Env) (tasks : Option TaskSnapshot) (flows : Option FlowSnapshot)
      (front back : List Input) (earlier later : State),
      Machine.Steps (step env) Machine.Unguarded (restored tasks flows) front earlier →
      Machine.Steps (step env) Machine.Unguarded earlier back later →
        TerminalStays earlier later := by
  constructor
  · intro claimed
    have evaluated : (Machine.execute (step telegramEnv) (restored none none)
        [createCliTask, cancelCliTask, completeRun]).map
        (fun final => (final.operatorCancelled, statusOf final.world "task-1")) =
          some (["task-1"], some .succeeded) := by decide +kernel
    obtain ⟨final, ran, shown⟩ := Option.map_eq_some_iff.1 evaluated
    obtain ⟨cancelled, succeeded⟩ := Prod.mk.inj shown
    have stands := claimed telegramEnv none none _ _ final final (Machine.steps_of_execute ran)
      (.nil final) "task-1" (by rw [cancelled]; exact List.mem_singleton_self _) _ succeeded
    simp at stands
  · intro claimed
    have evaluated : (Machine.execute (step telegramEnv) (restored none none)
        [createCliTask, completeRun]).map (fun earlier => (statusOf earlier.world "task-1",
          (Machine.execute (step telegramEnv) earlier [markRunning]).map fun later =>
            statusOf later.world "task-1")) =
          some (some .succeeded, some (some .running)) := by decide +kernel
    obtain ⟨earlier, ran, shown⟩ := Option.map_eq_some_iff.1 evaluated
    obtain ⟨succeeded, continued⟩ := Prod.mk.inj shown
    obtain ⟨later, went, running⟩ := Option.map_eq_some_iff.1 continued
    have stays := claimed telegramEnv none none _ _ earlier later (Machine.steps_of_execute ran)
      (Machine.steps_of_execute went) "task-1" _ _ succeeded rfl running
    simp [isTerminalTaskStatus] at stays

end OpenClaw.Tasks
