/-
This file says when the records of the process supervisor tell what happened.

Each run stands with its record and its place among the active runs; what a step does to another
run leaves them alone, except that records of exited runs are pruned. A run that is cancelled by
id or by scope has its reason written into the record first and into the variables of its spawn
only when there is none, so a second cancel must not have another reason. A handle that is
cancelled after the exit opens the record again. And a spawn that replaces its scope cancels the
active runs only, so none may still wait for its adapter.
-/

import OpenClaw.Process.Supervisor

namespace OpenClaw.Supervisor

open Machine OrderedMap Text

/-! ### The property -/

/-- What the adapter of a run delivered on a stream before the exit. -/
def Run.said (run : Run) (stream : OutputStream) : String :=
  String.join ((run.delivered.filter fun chunk => chunk.1 = stream).map Prod.snd)

/-- The reason of an exit that nothing forced. -/
def RunExit.natural (exit : RunExit) : TerminationReason :=
  if exit.exitSignal.isSome then .signal else .exit

/-- The records, the active runs and the exits tell what happened. -/
structure Tells (state : SupervisorState) : Prop where
  reason : ∀ runId run exit record, state.runs.get runId = some run → run.exit = some exit →
    state.registry.get runId = some record → record.terminationReason = some exit.reason
  /-- The first cause that forced the exit, if any. -/
  cause : ∀ runId run exit, state.runs.get runId = some run → run.exit = some exit →
    exit.reason = run.causes.head?.getD exit.natural
  /-- Of a run that captures its output, all of it. -/
  output : ∀ runId run exit, state.runs.get runId = some run → run.exit = some exit →
    run.input.captureOutput = true → exit.stdout = run.said .stdout ∧ exit.stderr = run.said .stderr
  active : ∀ runId, state.active.has runId = true ↔
    ∃ run, state.runs.get runId = some run ∧ run.isLive = true
  replaced : ∀ runId run scope, state.runs.get runId = some run →
    run.input.replaceExistingScope = true → run.scopeKey = some scope →
    ∀ other earlier, state.runs.get other = some earlier → earlier.scopeKey = some scope →
      earlier.order < run.order → earlier.killed = true ∨ earlier.isOver = true

/-! ### The condition -/

/-- An active run of a scope has not been cancelled for another reason. -/
def Agrees (state : SupervisorState) (scope : String) (reason : TerminationReason) : Prop :=
  ∀ runId run, state.active.get runId = some (some scope) → state.runs.get runId = some run →
    ∀ forced, run.forcedReason = some forced → forced = reason

/-- The condition on a step. -/
structure Orderly (state : SupervisorState) (event : ℤ × SupervisorEvent) : Prop where
  /-- A cancel by id has the reason of the cancel before, if there was one. -/
  cancel : ∀ runId reason, event.2 = .cancel runId reason → state.active.has runId = true →
    ∀ run, state.runs.get runId = some run → ∀ forced, run.forcedReason = some forced →
      forced = reason
  /-- So has a cancel by scope. -/
  cancelScope : ∀ scope reason, event.2 = .cancelScope scope reason → Agrees state scope reason
  /-- A spawn that replaces its scope finds it agreeing, and no run of it waits for its adapter. -/
  spawn : ∀ input randomUUID scope, event.2 = .spawn input randomUUID →
    input.replaceExistingScope = true → normalizeOptionalString input.scopeKey = some scope →
    Agrees state scope .manualCancel ∧ ∀ runId run, state.runs.get runId = some run →
      run.scopeKey = some scope → run.phase ≠ .creating
  /-- A handle is not cancelled after an exit that nothing forced, while the record is there. -/
  cancelRun : ∀ runId reason, event.2 = .cancelRun runId reason →
    ∀ run, state.runs.get runId = some run → run.settled = true →
      run.forcedReason.isSome ∨ state.registry.get runId = none

/-! ### The registry by its records -/

theorem get_updateState (records : RunRegistry) (runId : String) (state : RunState) (now : ℤ)
    (patch : RunRecord → RunRecord) (other : String) :
    (updateState records runId state now patch).get other =
      if other = runId then (records.get runId).map fun current => { patch current with
        state, updatedAtMs := now, lastOutputAtMs := current.lastOutputAtMs }
      else records.get other := by
  unfold updateState
  split
  next none =>
    split
    next same => rw [same, none, Option.map_none]
    next => rfl
  next current stored => rw [get_set, stored, Option.map_some]

theorem get_touchRecord (records : RunRegistry) (runId : String) (now : ℤ) (other : String) :
    (touchRecord records runId now).get other =
      if other = runId then (records.get runId).map fun current =>
        { current with lastOutputAtMs := now, updatedAtMs := now }
      else records.get other := by
  unfold touchRecord
  split
  next none =>
    split
    next same => rw [same, none, Option.map_none]
    next => rfl
  next current stored => rw [get_set, stored, Option.map_some]

/-- A record is as it was, or that of an exited run and gone. -/
def Kept (before after : Option RunRecord) : Prop :=
  after = before ∨ after = none ∧ ∃ record, before = some record ∧ record.state = .exited

theorem pruneExitedRecords_kept (records : RunRegistry) (runId : String) :
    Kept (records.get runId) ((pruneExitedRecords records).get runId) := by
  unfold pruneExitedRecords
  dsimp only
  rw [get_foldl_delete]
  split
  next taken =>
    obtain ⟨entry, member, rfl⟩ := List.mem_map.1 taken
    obtain ⟨inside, exited⟩ := List.mem_filter.1 (List.mem_of_mem_take member)
    exact .inr ⟨rfl, entry.2, (get_eq_some_iff _ _ _).2 inside, of_decide_eq_true exited⟩
  next => exact .inl rfl

theorem finalize_other (records : RunRegistry) {runId other : String} (different : other ≠ runId)
    (now : ℤ) (reason : TerminationReason) (exitCode : Option ℤ) (exitSignal : Option String) :
    Kept (records.get other) ((finalize records runId now reason exitCode exitSignal).get other) := by
  unfold finalize
  split
  next => exact .inl rfl
  next current _ =>
    have kept := pruneExitedRecords_kept (records.set runId { current with
      state := .exited
      terminationReason := some (current.terminationReason.getD reason)
      exitCode := some (current.exitCode.getD exitCode)
      exitSignal := some (current.exitSignal.getD exitSignal)
      updatedAtMs := now }) other
    rw [get_set_of_ne _ _ different] at kept
    exact kept

variable {runId : String} {reason : TerminationReason} {run : Run}

/-- The record of a run that is finalised is exited, with the reason it had or the one given. -/
theorem finalize_self {records : RunRegistry} {current last : RunRecord}
    (stored : records.get runId = some current) {now : ℤ}
    {exitCode : Option ℤ} {exitSignal : Option String}
    (final : (finalize records runId now reason exitCode exitSignal).get runId = some last) :
    last.state = .exited ∧
      last.terminationReason = some (current.terminationReason.getD reason) := by
  unfold finalize at final
  rw [stored] at final
  dsimp only at final
  obtain same | ⟨none, -⟩ := pruneExitedRecords_kept (records.set runId { current with
    state := .exited
    terminationReason := some (current.terminationReason.getD reason)
    exitCode := some (current.exitCode.getD exitCode)
    exitSignal := some (current.exitSignal.getD exitSignal)
    updatedAtMs := now }) runId
  · rw [same, get_set_self] at final
    injection final with final
    exact final ▸ ⟨rfl, rfl⟩
  · rw [none] at final
    cases final

/-! ### A run with its record and its place -/

structure Consistent (run : Run) (record : Option RunRecord) (active : Option (Option String)) :
    Prop where
  waits : run.phase = .creating → run.settled = false
  pending : run.isOver = false → ∃ current, record = some current ∧ current.state ≠ .exited ∧
    current.terminationReason = run.forcedReason
  done : run.isOver = true → ∀ last, record = some last → last.state = .exited ∧
    ∀ exit, run.exit = some exit → last.terminationReason = some exit.reason
  listed : active = if run.isLive then some run.scopeKey else none
  timed : run.timeoutTimer = true ∨ run.noOutputTimer = true → run.isLive = true
  forced : run.isOver = false → run.forcedReason = run.causes.head?
  captured : run.isOver = false → run.input.captureOutput = true →
    run.stdout = run.said .stdout ∧ run.stderr = run.said .stderr
  reported : ∀ exit, run.exit = some exit → run.isOver = true ∧
    exit.reason = run.causes.head?.getD exit.natural ∧ (run.input.captureOutput = true →
      exit.stdout = run.said .stdout ∧ exit.stderr = run.said .stderr)

theorem isOver_eq_false_iff :
    run.isOver = false ↔ run.phase ≠ .failed ∧ run.settled = false := by
  simp [Run.isOver]

theorem isLive_iff : run.isLive = true ↔ run.phase = .created ∧ run.settled = false := by
  simp [Run.isLive]

theorem not_isOver_of_isLive (live : run.isLive = true) : run.isOver = false := by
  obtain ⟨created, unsettled⟩ := isLive_iff.1 live
  exact isOver_eq_false_iff.2 ⟨by rw [created]; nofun, unsettled⟩

variable {active : Option (Option String)}

/-- Pruning keeps a run consistent. -/
theorem Consistent.of_kept {record after : Option RunRecord}
    (consistent : Consistent run record active)
    (kept : Kept record after) : Consistent run after active := by
  obtain rfl | ⟨rfl, exited, rfl, isExited⟩ := kept
  · exact consistent
  · refine { consistent with pending := fun pending => ?_, done := fun _ _ gone => nomatch gone }
    obtain ⟨current, same, notExited, -⟩ := consistent.pending pending
    injection same with same
    exact absurd (same ▸ isExited) notExited

/-- How a run goes on. -/
structure Advances (run next : Run) : Prop where
  input : next.input = run.input
  scopeKey : next.scopeKey = run.scopeKey
  order : next.order = run.order
  killed : run.killed = true → next.killed = true
  isOver : run.isOver = true → next.isOver = true

/-! ### The invariant -/

structure Told (state : SupervisorState) : Prop where
  unknown : ∀ runId, state.runs.get runId = none →
    state.registry.get runId = none ∧ state.active.get runId = none
  consistent : ∀ runId run, state.runs.get runId = some run →
    Consistent run (state.registry.get runId) (state.active.get runId)
  ordered : ∀ runId run, state.runs.get runId = some run → run.order < state.runs.entries.length
  replaced : ∀ runId run scope, state.runs.get runId = some run →
    run.input.replaceExistingScope = true → run.scopeKey = some scope →
    ∀ other earlier, state.runs.get other = some earlier → earlier.scopeKey = some scope →
      earlier.order < run.order → earlier.killed = true ∨ earlier.isOver = true

theorem told_initial : Told .initial where
  unknown _ _ := ⟨rfl, rfl⟩
  consistent _ _ found := absurd found (by simp [SupervisorState.initial])
  ordered _ _ found := absurd found (by simp [SupervisorState.initial])
  replaced _ _ _ found := absurd found (by simp [SupervisorState.initial])

theorem length_set {Value : Type} {map : OrderedMap String Value} {key : String} {former : Value}
    (stored : map.get key = some former) (value : Value) :
    (map.set key value).entries.length = map.entries.length := by
  rw [entries_set_of_mem value ((mem_keys_iff _ _).2 ⟨former, stored⟩), List.length_map]

/-- A step on one run. -/
theorem Told.change {state next : SupervisorState} (told : Told state) {runId : String}
    {run changed : Run} (stored : state.runs.get runId = some run)
    (runs : next.runs = state.runs.set runId changed)
    (registry : ∀ other, other ≠ runId →
      Kept (state.registry.get other) (next.registry.get other))
    (active : ∀ other, other ≠ runId → next.active.get other = state.active.get other)
    (own : Consistent changed (next.registry.get runId) (next.active.get runId))
    (advances : Advances run changed) : Told next := by
  have stands : ∀ other after, next.runs.get other = some after →
      ∃ before, state.runs.get other = some before ∧ Advances before after := by
    intro other after found
    rw [runs, get_set] at found
    split at found
    next same =>
      injection found with found
      exact ⟨run, same ▸ stored, found ▸ advances⟩
    next => exact ⟨after, found, rfl, rfl, rfl, id, id⟩
  refine ⟨fun other none => ?_, fun other after found => ?_, fun other after found => ?_, ?_⟩
  · rw [runs, get_set] at none
    split at none
    next => cases none
    next different =>
      obtain ⟨noRecord, inactive⟩ := told.unknown other none
      refine ⟨?_, by rw [active other different, inactive]⟩
      obtain same | ⟨gone, -⟩ := registry other different
      · rw [same, noRecord]
      · exact gone
  · rw [runs, get_set] at found
    split at found
    next same =>
      injection found with found
      subst same found
      exact own
    next different =>
      rw [active other different]
      exact (told.consistent other after found).of_kept (registry other different)
  · obtain ⟨before, was, advances⟩ := stands other after found
    rw [advances.order, runs, length_set stored]
    exact told.ordered other before was
  · intro id after scope found replaces ofScope other earlier foundEarlier sameScope before
    obtain ⟨former, was, goesOn⟩ := stands id after found
    obtain ⟨first, wasFirst, alsoGoesOn⟩ := stands other earlier foundEarlier
    rw [goesOn.input] at replaces
    rw [goesOn.scopeKey] at ofScope
    rw [alsoGoesOn.scopeKey] at sameScope
    rw [goesOn.order, alsoGoesOn.order] at before
    exact (told.replaced id former scope was replaces ofScope other first wasFirst sameScope
      before).imp alsoGoesOn.killed alsoGoesOn.isOver

/-! ### Cancelling -/

theorem isOver_cancelled (run : Run) (reason : TerminationReason) :
    (run.cancelled reason).isOver = run.isOver := rfl

theorem advances_cancelled (run : Run) (reason : TerminationReason) :
    Advances run (run.cancelled reason) where
  input := rfl
  scopeKey := rfl
  order := rfl
  killed was := by simp [Run.cancelled, was]
  isOver := id

/-- A live run is cancelled: the record has the reason that is now forced. -/
theorem Consistent.cancelled {record after : Option RunRecord}
    (consistent : Consistent run record active) (live : run.isLive = true) (current : RunRecord)
    (is : after = some current) (notExited : current.state ≠ .exited)
    (sameReason : current.terminationReason = some (run.forcedReason.getD reason)) :
    Consistent (run.cancelled reason) after active := by
  have pending := not_isOver_of_isLive live
  refine { consistent with
    pending := fun _ => ⟨current, is, notExited, sameReason⟩
    done := fun isOver => absurd isOver (by rw [isOver_cancelled, pending]; nofun)
    forced := fun _ => ?_
    reported := fun exit exited => ?_ }
  · show some (run.forcedReason.getD reason) = (if run.isLive then _ else _ : List _).head?
    rw [if_pos live, consistent.forced pending]
    cases run.causes <;> rfl
  · have isOver := (consistent.reported exit exited).1
    rw [pending] at isOver
    cases isOver

/-- A run that is over stays as it is. -/
theorem Consistent.cancelled_over {record : Option RunRecord}
    (consistent : Consistent run record active)
    (isOver : run.isOver = true) (reason : TerminationReason) :
    Consistent (run.cancelled reason) record active := by
  have dead : run.isLive = false := by
    cases live : run.isLive with
    | false => rfl
    | true => rw [not_isOver_of_isLive live] at isOver; cases isOver
  refine { consistent with
    pending := fun pending => ?_
    forced := fun pending => ?_
    reported := fun exit exited => ?_ }
  · rw [isOver_cancelled, isOver] at pending
    cases pending
  · rw [isOver_cancelled, isOver] at pending
    cases pending
  · have sameCauses : (run.cancelled reason).causes = run.causes := by
      simp [Run.cancelled, dead]
    rw [sameCauses]
    exact consistent.reported exit exited

variable {state : SupervisorState}

/-- `requestCancel` on a live run. -/
theorem requestCancel_told (told : Told state)
    {run changed : Run} (stored : state.runs.get runId = some run)
    (consistent : Consistent changed (state.registry.get runId) (state.active.get runId))
    (live : changed.isLive = true) (advances : Advances run changed) (reason : TerminationReason)
    (now : ℤ) : Told (requestCancel state runId changed reason now) := by
  refine told.change stored rfl (fun other different => .inl ?_) (fun _ _ => rfl) ?_
    ⟨advances.input, advances.scopeKey, advances.order,
      fun was => (advances_cancelled changed reason).killed (advances.killed was), advances.isOver⟩
  · unfold requestCancel
    dsimp only
    split
    · rw [get_updateState, if_neg different]
    · rfl
  · obtain ⟨current, is, notExited, sameReason⟩ := consistent.pending (not_isOver_of_isLive live)
    cases forced : changed.forcedReason with
    | none =>
      refine consistent.cancelled live { withReason reason current with
        state := .exiting, updatedAtMs := now, lastOutputAtMs := current.lastOutputAtMs } ?_ nofun ?_
      · simp [requestCancel, forced, get_updateState, is]
      · rw [forced]
        rfl
    | some first =>
      refine consistent.cancelled live current ?_ notExited ?_
      · simp [requestCancel, forced, is]
      · rw [sameReason, forced]
        rfl

/-- A cancelled run is live and has one reason. -/
theorem cancel_told (told : Told state) (runId : String) (now : ℤ)
    (agrees : state.active.has runId = true → ∀ run, state.runs.get runId = some run →
      ∀ forced, run.forcedReason = some forced → forced = reason) :
    Told (cancel state runId reason now) := by
  unfold cancel
  split
  next scope run active stored =>
    have consistent := told.consistent runId run stored
    have live : run.isLive = true := by
      by_contra dead
      have listed := consistent.listed
      rw [active, if_neg dead] at listed
      cases listed
    have one := agrees (by rw [has, active]; rfl) run stored
    obtain ⟨current, is, -, -⟩ := consistent.pending (not_isOver_of_isLive live)
    have sameReason : some reason = some (run.forcedReason.getD reason) := by
      cases forced : run.forcedReason with
      | none => rfl
      | some first => rw [Option.getD_some, one first forced]
    refine told.change stored rfl (fun other different => .inl ?_) (fun _ _ => rfl) ?_
      (advances_cancelled run reason)
    · unfold requestCancel
      dsimp only
      split
      · rw [get_updateState, if_neg different, get_updateState, if_neg different]
      · rw [get_updateState, if_neg different]
    · cases forced : run.forcedReason with
      | none =>
        refine consistent.cancelled live { withReason reason current with
          state := .exiting, updatedAtMs := now, lastOutputAtMs := current.lastOutputAtMs } ?_
          nofun sameReason
        simp [requestCancel, forced, get_updateState, is, withReason]
      | some first =>
        refine consistent.cancelled live { withReason reason current with
          state := .exiting, updatedAtMs := now, lastOutputAtMs := current.lastOutputAtMs } ?_
          nofun sameReason
        simp [requestCancel, forced, get_updateState, is]
  next => exact told

/-! ### Cancelling a scope -/

theorem cancel_active (state : SupervisorState) (runId : String) (reason : TerminationReason)
    (now : ℤ) : (cancel state runId reason now).active = state.active := by
  unfold cancel
  split <;> rfl

theorem cancel_run {now : ℤ} {other : String} {after : Run}
    (found : (cancel state runId reason now).runs.get other = some after) :
    state.runs.get other = some after ∨
      ∃ run, state.runs.get other = some run ∧ after = run.cancelled reason := by
  unfold cancel at found
  split at found
  next scope run active stored =>
    unfold requestCancel at found
    dsimp only at found
    rw [get_set] at found
    split at found
    next same =>
      injection found with found
      exact .inr ⟨run, same ▸ stored, found.symm⟩
    next => exact .inl found
  next => exact .inl found

/-- A live run that is cancelled is killed. -/
theorem cancel_kills {now : ℤ}
    {run after : Run} (stored : state.runs.get runId = some run) (live : run.isLive = true)
    (active : (state.active.get runId).isSome)
    (found : (cancel state runId reason now).runs.get runId = some after) :
    after.killed = true := by
  obtain ⟨scope, active⟩ := Option.isSome_iff_exists.1 active
  unfold cancel at found
  rw [active, stored] at found
  simp only [requestCancel, get_set_self, Option.some.injEq] at found
  rw [← found]
  simp [Run.cancelled, live]

/-- What cancelling several runs leaves of a run. -/
structure Remains (before after : Run) : Prop where
  phase : after.phase = before.phase
  settled : after.settled = before.settled
  scopeKey : after.scopeKey = before.scopeKey
  killed : before.killed = true → after.killed = true

theorem remains_cancelled (run : Run) (reason : TerminationReason) :
    Remains run (run.cancelled reason) where
  phase := rfl
  settled := rfl
  scopeKey := rfl
  killed was := (advances_cancelled run reason).killed was

theorem Remains.trans {first second third : Run} (front : Remains first second)
    (back : Remains second third) : Remains first third where
  phase := back.phase.trans front.phase
  settled := back.settled.trans front.settled
  scopeKey := back.scopeKey.trans front.scopeKey
  killed was := back.killed (front.killed was)

variable {now : ℤ} {next : SupervisorState} {before after : Run}

/-- Cancelling several runs, which are not cancelled for another reason, one after the other. -/
theorem foldl_cancel_told {entries : List (String × Option String)}
    (told : Told state) (agrees : ∀ entry ∈ entries, ∀ run, state.runs.get entry.1 = some run →
      ∀ forced, run.forcedReason = some forced → forced = reason) :
    Told (entries.foldl (fun state entry => cancel state entry.1 reason now) state) := by
  induction entries generalizing state with
  | nil => exact told
  | cons first entries inductionHypothesis =>
    refine inductionHypothesis
      (cancel_told told first.1 now fun _ => agrees first List.mem_cons_self) ?_
    intro entry member run found forced is
    have before := agrees entry (List.mem_cons_of_mem _ member)
    obtain same | ⟨former, stored, rfl⟩ := cancel_run found
    · exact before run same forced is
    · cases was : former.forcedReason with
      | none =>
        simp only [Run.cancelled, was, Option.getD_none, Option.some.injEq] at is
        exact is.symm
      | some one =>
        simp only [Run.cancelled, was, Option.getD_some, Option.some.injEq] at is
        exact is ▸ before former stored one was

theorem foldl_cancel_run {entries : List (String × Option String)} {after : Run}
    (found : (entries.foldl (fun state entry => cancel state entry.1 reason now)
      state).runs.get runId = some after) :
    ∃ run, state.runs.get runId = some run ∧ Remains run after ∧
      (run.isLive = true → (state.active.get runId).isSome → runId ∈ entries.map Prod.fst →
        after.killed = true) := by
  induction entries generalizing state with
  | nil => exact ⟨after, found, ⟨rfl, rfl, rfl, id⟩, fun _ _ => nofun⟩
  | cons first entries inductionHypothesis =>
    obtain ⟨middle, between, remains, kills⟩ := inductionHypothesis found
    rw [cancel_active] at kills
    obtain same | ⟨run, stored, rfl⟩ := cancel_run between
    · refine ⟨middle, same, remains, fun live active member => ?_⟩
      rcases List.mem_cons.1 member with rfl | later
      · exact remains.killed (cancel_kills same live active between)
      · exact kills live active later
    · refine ⟨run, stored, (remains_cancelled run reason).trans remains,
        fun live active member => ?_⟩
      rcases List.mem_cons.1 member with rfl | later
      · exact remains.killed (cancel_kills stored live active between)
      · exact kills live active later

theorem cancelScope_told (told : Told state) {scopeKey : String}
    (agrees : Agrees state scopeKey reason) : Told (cancelScope state scopeKey reason now) := by
  unfold cancelScope
  split
  · exact told
  · refine foldl_cancel_told told fun entry member run stored => ?_
    obtain ⟨inside, sameScope⟩ := List.mem_filter.1 member
    have active := (get_eq_some_iff _ _ _).2 inside
    rw [of_decide_eq_true sameScope] at active
    exact agrees entry.1 run active stored

/-- The live runs of a scope are killed with it. -/
theorem cancelScope_run (told : Told state) {scopeKey : String}
    (filled : trim scopeKey ≠ "") {after : Run}
    (found : (cancelScope state scopeKey reason now).runs.get runId = some after) :
    ∃ run, state.runs.get runId = some run ∧ Remains run after ∧
      (run.isLive = true → run.scopeKey = some scopeKey → after.killed = true) := by
  unfold cancelScope at found
  rw [if_neg filled] at found
  obtain ⟨run, stored, remains, kills⟩ := foldl_cancel_run found
  refine ⟨run, stored, remains, fun live ofScope => ?_⟩
  have listed := (told.consistent runId run stored).listed
  rw [if_pos live, ofScope] at listed
  refine kills live (by rw [listed]; rfl) (List.mem_map.2 ⟨(runId, some scopeKey), ?_, rfl⟩)
  exact List.mem_filter.2 ⟨(get_eq_some_iff _ _ _).1 listed, decide_eq_true rfl⟩

/-! ### Spawning -/

/-- A new run. -/
theorem Told.add (told : Told state)
    (fresh : state.runs.get runId = none) {input : SpawnInput} {scopeKey : Option String}
    (cleared : input.replaceExistingScope = true → ∀ scope, scopeKey = some scope →
      ∀ other earlier, state.runs.get other = some earlier → earlier.scopeKey = some scope →
        earlier.killed = true ∨ earlier.isOver = true) {record : RunRecord}
    (starting : record.state = .starting) (unforced : record.terminationReason = none) :
    Told { state with
      registry := state.registry.set runId record
      runs := state.runs.set runId {
        input, scopeKey, startedAtMs := now, order := state.runs.entries.length } } := by
  have absent : runId ∉ state.runs.keys := fun member => by
    obtain ⟨run, stored⟩ := (mem_keys_iff _ _).1 member
    rw [fresh] at stored
    cases stored
  have own : Consistent
      { input, scopeKey, startedAtMs := now, order := state.runs.entries.length }
      (some record) (state.active.get runId) :=
    { waits := fun _ => rfl
      pending := fun _ => ⟨record, rfl, by rw [starting]; nofun, unforced⟩
      done := fun isOver => absurd isOver Bool.false_ne_true
      listed := (told.unknown runId fresh).2
      timed := fun armed => by simp at armed
      forced := fun _ => rfl
      captured := fun _ _ => ⟨rfl, rfl⟩
      reported := fun _ exited => nomatch exited }
  refine ⟨fun other none => ?_, fun other run found => ?_, fun other run found => ?_, ?_⟩
  · rw [get_set] at none
    split at none
    next => cases none
    next different =>
      rw [get_set_of_ne _ _ different]
      exact told.unknown other none
  · rw [get_set] at found
    split at found
    next same =>
      injection found with found
      subst same found
      rw [get_set_self]
      exact own
    next different =>
      rw [get_set_of_ne _ _ different]
      exact told.consistent other run found
  · rw [entries_set_of_not_mem _ absent, List.length_append]
    rw [get_set] at found
    split at found
    next =>
      injection found with found
      subst found
      exact Nat.lt_succ_self _
    next => exact Nat.lt_succ_of_lt (told.ordered other run found)
  · intro id run scope found replaces ofScope other earlier foundEarlier sameScope before
    rw [get_set] at found foundEarlier
    split at foundEarlier
    next =>
      injection foundEarlier with foundEarlier
      subst foundEarlier
      split at found
      next =>
        injection found with found
        subst found
        exact absurd before (Nat.lt_irrefl _)
      next => exact absurd (told.ordered id run found) (Nat.not_lt_of_gt before)
    next =>
      split at found
      next =>
        injection found with found
        subst found
        exact cleared replaces scope ofScope other earlier foundEarlier sameScope
      next =>
        exact told.replaced id run scope found replaces ofScope other earlier foundEarlier
          sameScope before

theorem spawn_told (told : Told state) {input : SpawnInput}
    {randomUUID : String} (fresh : state.runs.get (input.id randomUUID) = none)
    (clear : ∀ scope, input.replaceExistingScope = true →
      normalizeOptionalString input.scopeKey = some scope →
      Agrees state scope .manualCancel ∧ ∀ runId run, state.runs.get runId = some run →
        run.scopeKey = some scope → run.phase ≠ .creating) :
    Told (spawn state input randomUUID now) := by
  unfold spawn
  dsimp only
  split
  next scope replaces ofScope =>
    obtain ⟨agrees, ready⟩ := clear scope replaces ofScope
    have cancelled : Told (cancelScope state scope .manualCancel now) := cancelScope_told told agrees
    obtain ⟨trimmed, nonempty⟩ := normalizeOptionalString_normal ofScope
    have filled : trim scope ≠ "" := by rwa [trimmed]
    have same : normalizeOptionalString input.scopeKey = some scope := ofScope
    refine cancelled.add ?_ (fun _ other is id earlier found sameScope => ?_) rfl rfl
    · cases found : (cancelScope state scope .manualCancel now).runs.get (input.id randomUUID) with
      | none => rfl
      | some after =>
        obtain ⟨run, stored, -⟩ := cancelScope_run told filled found
        rw [fresh] at stored
        cases stored
    · obtain rfl : scope = other := by rw [same] at is; injection is
      obtain ⟨run, stored, remains, kills⟩ := cancelScope_run told filled found
      rw [remains.scopeKey] at sameScope
      by_cases live : run.isLive = true
      · exact .inl (kills live sameScope)
      · right
        have created := ready id run stored sameScope
        simp only [Run.isLive, Bool.and_eq_true, decide_eq_true_eq, Bool.not_eq_true'] at live
        simp only [Run.isOver, remains.phase, remains.settled, Bool.or_eq_true, decide_eq_true_eq]
        cases phase : run.phase with
        | creating => exact absurd phase created
        | created => exact .inr (by simpa [phase] using live)
        | failed => exact .inl rfl
  next differ =>
    refine told.add fresh (fun replaces scope is => ?_) rfl rfl
    exact absurd is (differ scope replaces)

/-! ### The steps of a run -/

section Steps

theorem adapterCreated_told (told : Told state) (stored : state.runs.get runId = some run)
    (creating : run.phase = .creating) (pid : Option ℕ) :
    Told (adapterCreated state runId run pid now) := by
  have consistent := told.consistent runId run stored
  have unsettled := consistent.waits creating
  have pending : run.isOver = false := isOver_eq_false_iff.2 ⟨by rw [creating]; nofun, unsettled⟩
  obtain ⟨current, is, notExited, sameReason⟩ := consistent.pending pending
  refine told.change stored rfl (fun other different => .inl ?_)
    (fun other different => get_set_of_ne _ _ different) ?_ ⟨rfl, rfl, rfl, id, ?_⟩
  · rw [adapterCreated, get_updateState, if_neg different]
  · rw [adapterCreated, get_updateState, if_pos rfl, is, get_set_self]
    exact
      { waits := nofun
        pending := fun _ => ⟨_, rfl, nofun, sameReason⟩
        done := fun isOver => absurd isOver (by simp [Run.isOver, unsettled])
        listed := by simp [Run.isLive, unsettled]
        timed := fun _ => by simp [Run.isLive, unsettled]
        forced := fun _ => consistent.forced pending
        captured := fun _ => consistent.captured pending
        reported := fun exit exited => absurd (consistent.reported exit exited).1 (by rw [pending]; nofun) }
  · intro isOver
    rw [pending] at isOver
    cases isOver

theorem adapterFailed_told (told : Told state) (stored : state.runs.get runId = some run)
    (creating : run.phase = .creating) : Told (adapterFailed state runId run now) := by
  have consistent := told.consistent runId run stored
  have unsettled := consistent.waits creating
  have pending : run.isOver = false := isOver_eq_false_iff.2 ⟨by rw [creating]; nofun, unsettled⟩
  obtain ⟨current, is, -, -⟩ := consistent.pending pending
  have unreported : ∀ exit, run.exit ≠ some exit := fun exit exited =>
    absurd (consistent.reported exit exited).1 (by rw [pending]; nofun)
  refine told.change stored rfl (fun other different => finalize_other _ different _ _ _ _)
    (fun _ _ => rfl) ?_ ⟨rfl, rfl, rfl, id, fun _ => rfl⟩
  exact
    { waits := nofun
      pending := nofun
      done := fun _ last final => ⟨(finalize_self is final).1,
        fun exit exited => absurd exited (unreported exit)⟩
      listed := by
        have listed := consistent.listed
        rw [if_neg (by simp [Run.isLive, creating])] at listed
        exact listed
      timed := fun armed => by
        have live := consistent.timed armed
        simp [Run.isLive, creating] at live
      forced := nofun
      captured := nofun
      reported := fun exit exited => absurd exited (unreported exit) }

/-- A chunk that is delivered is said on its stream. -/
theorem said_append {before after : Run} {own : OutputStream} {chunk : String}
    (is : after.delivered = before.delivered ++ [(own, chunk)]) (stream : OutputStream) :
    after.said stream = before.said stream ++ if own = stream then chunk else "" := by
  unfold Run.said
  rw [is, List.filter_append, List.map_append, String.join_append]
  by_cases same : own = stream <;> simp [same, String.join]

theorem output_told (told : Told state) (stored : state.runs.get runId = some run)
    (created : run.phase = .created) (stream : OutputStream) (chunk : String) :
    Told (output state runId run stream chunk now) := by
  have consistent := told.consistent runId run stored
  refine told.change stored rfl (fun other different => .inl ?_) (fun _ _ => rfl) ?_
    ⟨rfl, rfl, rfl, id, id⟩
  · rw [output, get_touchRecord, if_neg different]
  rw [output, get_touchRecord, if_pos rfl]
  rcases Bool.eq_false_or_eq_true run.settled with settled | settled
  · have isOver : run.isOver = true := by simp [Run.isOver, settled]
    exact
      { waits := fun creating => nomatch created.symm.trans creating
        pending := fun pending => nomatch isOver.symm.trans pending
        done := fun _ last is => by
          obtain ⟨current, was, rfl⟩ := Option.map_eq_some_iff.1 is
          exact consistent.done isOver current was
        listed := consistent.listed
        timed := fun armed => consistent.timed (by simpa [settled] using armed)
        forced := fun pending => nomatch isOver.symm.trans pending
        captured := fun pending => nomatch isOver.symm.trans pending
        reported := fun exit exited => by
          simpa [Run.said, Run.isOver, settled] using consistent.reported exit exited }
  · have pending : run.isOver = false := isOver_eq_false_iff.2 ⟨by rw [created]; nofun, settled⟩
    have live : run.isLive = true := isLive_iff.2 ⟨created, settled⟩
    obtain ⟨current, is, notExited, sameReason⟩ := consistent.pending pending
    have unreported : ∀ exit, run.exit ≠ some exit := fun exit exited =>
      nomatch (consistent.reported exit exited).1.symm.trans pending
    rw [is, Option.map_some]
    exact
      { waits := fun creating => nomatch created.symm.trans creating
        pending := fun _ => ⟨_, rfl, notExited, sameReason⟩
        done := fun isOver => nomatch isOver.symm.trans pending
        listed := consistent.listed
        timed := fun _ => live
        forced := fun _ => consistent.forced pending
        captured := fun _ captures => by
          obtain ⟨out, err⟩ := consistent.captured pending captures
          have captured : run.input.captureOutput = true := captures
          have delivers : (if run.settled then run.delivered else run.delivered ++ [(stream, chunk)]) =
              run.delivered ++ [(stream, chunk)] := by rw [settled]; rfl
          refine ⟨Eq.trans ?_ (said_append delivers .stdout).symm,
            Eq.trans ?_ (said_append delivers .stderr).symm⟩
          · rw [← out]
            cases stream <;> simp [captured]
          · rw [← err]
            cases stream <;> simp [captured]
        reported := fun exit exited => absurd exited (unreported exit) }

/-- The exit that is reported has the first reason that was forced, and what was delivered. -/
theorem exitOf_reported (consistent : Consistent run (state.registry.get runId)
    (state.active.get runId)) (live : run.isLive = true) (exitCode : Option ℤ)
    (exitSignal : Option String) :
    (run.exitOf exitCode exitSignal now).reason =
        run.causes.head?.getD (run.exitOf exitCode exitSignal now).natural ∧
      (run.input.captureOutput = true →
        (run.exitOf exitCode exitSignal now).stdout = run.said .stdout ∧
          (run.exitOf exitCode exitSignal now).stderr = run.said .stderr) := by
  have pending := not_isOver_of_isLive live
  refine ⟨?_, consistent.captured pending⟩
  rw [← consistent.forced pending]
  rfl

/-- A run whose wait ends or fails. -/
theorem settle_told (told : Told state) (stored : state.runs.get runId = some run)
    (live : run.isLive = true) {reason : TerminationReason} {exitCode : Option ℤ}
    {exitSignal : Option String} {exit : Option RunExit}
    (is : ∀ reported, exit = some reported → reported.reason = reason ∧
      ∃ code signal, reported = run.exitOf code signal now) :
    Told {
      registry := finalize state.registry runId now reason exitCode exitSignal
      active := state.active.delete runId
      runs := state.runs.set runId { run with
        settled := true, timeoutTimer := false, noOutputTimer := false, exit := exit } } := by
  have consistent := told.consistent runId run stored
  have pending := not_isOver_of_isLive live
  obtain ⟨created, unsettled⟩ := isLive_iff.1 live
  obtain ⟨current, recorded, -, sameReason⟩ := consistent.pending pending
  have isOver : Run.isOver { run with
      settled := true, timeoutTimer := false, noOutputTimer := false, exit := exit } = true := by
    simp [Run.isOver]
  refine told.change stored rfl (fun other different => finalize_other _ different _ _ _ _)
    (fun other different => get_delete_of_ne _ different) ?_ ⟨rfl, rfl, rfl, id, fun _ => isOver⟩
  exact
    { waits := fun creating => nomatch created.symm.trans creating
      pending := fun pending => nomatch isOver.symm.trans pending
      done := fun _ last final => by
        obtain ⟨exited, finalReason⟩ := finalize_self recorded final
        refine ⟨exited, fun reported exited => ?_⟩
        obtain ⟨rfl, code, signal, rfl⟩ := is reported exited
        rw [finalReason, sameReason]
        cases forced : run.forcedReason <;> simp [Run.exitOf, forced]
      listed := by simp [Run.isLive]
      timed := fun armed => by simp at armed
      forced := fun pending => nomatch isOver.symm.trans pending
      captured := fun pending => nomatch isOver.symm.trans pending
      reported := fun reported exited => by
        obtain ⟨-, code, signal, rfl⟩ := is reported exited
        exact ⟨isOver, exitOf_reported consistent live code signal⟩ }

end Steps

theorem onRun_eq_some {ready : Run → Bool}
    {change : Run → SupervisorState} (taken : onRun state runId ready change = some next) :
    ∃ run, state.runs.get runId = some run ∧ ready run = true ∧ next = change run := by
  obtain ⟨run, stored, changed⟩ := Option.bind_eq_some_iff.1 taken
  obtain ⟨isReady, same⟩ := Option.ite_none_right_eq_some.1 changed
  injection same with same
  exact ⟨run, stored, isReady, same.symm⟩

/-- The step lemma. -/
theorem step_told {event : ℤ × SupervisorEvent}
    (told : Told state) (orderly : Orderly state event) (taken : step state event = some next) :
    Told next := by
  obtain ⟨now, event⟩ := event
  cases event with
  | spawn input randomUUID =>
    obtain ⟨fresh, same⟩ := Option.ite_none_left_eq_some.1 taken
    injection same with same
    rw [← same]
    refine spawn_told told ?_ fun scope => orderly.spawn input randomUUID scope rfl
    simpa [has] using fresh
  | created runId pid =>
    obtain ⟨run, stored, creating, rfl⟩ := onRun_eq_some taken
    exact adapterCreated_told told stored (of_decide_eq_true creating) pid
  | failed runId =>
    obtain ⟨run, stored, creating, rfl⟩ := onRun_eq_some taken
    exact adapterFailed_told told stored (of_decide_eq_true creating)
  | output runId stream chunk =>
    obtain ⟨run, stored, created, rfl⟩ := onRun_eq_some taken
    exact output_told told stored (of_decide_eq_true created) stream chunk
  | ended runId exitCode exitSignal =>
    obtain ⟨run, stored, live, rfl⟩ := onRun_eq_some taken
    refine settle_told told stored live fun reported is => ?_
    injection is with is
    exact is ▸ ⟨rfl, exitCode, exitSignal, rfl⟩
  | waitFailed runId =>
    obtain ⟨run, stored, live, rfl⟩ := onRun_eq_some taken
    have consistent := told.consistent runId run stored
    refine settle_told told stored live fun reported is => ?_
    exact nomatch (consistent.reported reported is).1.symm.trans (not_isOver_of_isLive live)
  | timeoutFires runId =>
    obtain ⟨run, stored, armed, rfl⟩ := onRun_eq_some taken
    have consistent := told.consistent runId run stored
    have live := consistent.timed (.inl armed)
    have fired : Consistent { run with timeoutTimer := false } (state.registry.get runId)
        (state.active.get runId) := { consistent with timed := fun _ => live }
    exact requestCancel_told told stored fired live ⟨rfl, rfl, rfl, id, id⟩ _ now
  | noOutputFires runId =>
    obtain ⟨run, stored, armed, rfl⟩ := onRun_eq_some taken
    have consistent := told.consistent runId run stored
    have live := consistent.timed (.inr armed)
    have fired : Consistent { run with noOutputTimer := false } (state.registry.get runId)
        (state.active.get runId) := { consistent with timed := fun _ => live }
    exact requestCancel_told told stored fired live ⟨rfl, rfl, rfl, id, id⟩ _ now
  | cancel runId reason =>
    injection taken with taken
    exact taken ▸ cancel_told told runId now (orderly.cancel runId reason rfl)
  | cancelScope scopeKey reason =>
    injection taken with taken
    exact taken ▸ cancelScope_told told (orderly.cancelScope scopeKey reason rfl)
  | cancelRun runId reason =>
    obtain ⟨run, stored, created, rfl⟩ := onRun_eq_some taken
    have consistent := told.consistent runId run stored
    rcases Bool.eq_false_or_eq_true run.settled with settled | unsettled
    · have isOver : run.isOver = true := by simp [Run.isOver, settled]
      have unchanged : ∀ other,
          (requestCancel state runId run reason now).registry.get other =
            state.registry.get other := by
        intro other
        unfold requestCancel
        dsimp only
        split
        next unforced =>
          have gone := (orderly.cancelRun runId reason rfl run stored settled).resolve_left
            (by rw [unforced]; nofun)
          rw [get_updateState]
          split
          next same => rw [same, gone]; rfl
          next => rfl
        next => rfl
      refine told.change stored rfl (fun other _ => .inl (unchanged other)) (fun _ _ => rfl) ?_
        (advances_cancelled run reason)
      rw [unchanged]
      exact consistent.cancelled_over isOver reason
    · exact requestCancel_told told stored consistent
        (isLive_iff.2 ⟨of_decide_eq_true created, unsettled⟩) ⟨rfl, rfl, rfl, id, id⟩ reason now

/-! ### The result -/

theorem Told.tells (told : Told state) : Tells state where
  reason runId run exit record stored exited recorded := by
    have consistent := told.consistent runId run stored
    exact (consistent.done (consistent.reported exit exited).1 record recorded).2 exit exited
  cause runId run exit stored exited :=
    ((told.consistent runId run stored).reported exit exited).2.1
  output runId run exit stored exited :=
    ((told.consistent runId run stored).reported exit exited).2.2
  active runId := by
    cases stored : state.runs.get runId with
    | none => simp [has, (told.unknown runId stored).2]
    | some run =>
      rw [has, (told.consistent runId run stored).listed]
      cases live : run.isLive <;> simp [live]
  replaced := told.replaced

theorem isOver_of_remains (remains : Remains before after)
    (isOver : before.isOver = true) : after.isOver = true := by
  rw [Run.isOver, remains.phase, remains.settled]
  exact isOver

theorem cancelScope_over {scopeKey runId : String}
    (found : (cancelScope state scopeKey reason now).runs.get runId = some after)
    (stored : state.runs.get runId = some before) (isOver : before.isOver = true) :
    after.isOver = true := by
  unfold cancelScope at found
  split at found
  · rw [stored, Option.some.injEq] at found
    exact found ▸ isOver
  · obtain ⟨run, same, remains, -⟩ := foldl_cancel_run found
    rw [stored, Option.some.injEq] at same
    subst same
    exact isOver_of_remains remains isOver

theorem set_over {runs : OrderedMap String Run} {runId other : String}
    {run changed before after : Run} (own : runs.get runId = some run)
    (keeps : run.isOver = true → changed.isOver = true)
    (found : (runs.set runId changed).get other = some after)
    (stored : runs.get other = some before) (isOver : before.isOver = true) :
    after.isOver = true := by
  rw [get_set] at found
  split at found
  next same =>
    injection found with found
    subst same found
    rw [own, Option.some.injEq] at stored
    exact keeps (stored ▸ isOver)
  next =>
    rw [stored, Option.some.injEq] at found
    exact found ▸ isOver

/-- What is over stays over. -/
theorem step_over {event : ℤ × SupervisorEvent} (taken : step state event = some next)
    (found : next.runs.get runId = some after) (stored : state.runs.get runId = some before)
    (isOver : before.isOver = true) : after.isOver = true := by
  obtain ⟨now, event⟩ := event
  cases event with
  | spawn input randomUUID =>
    obtain ⟨fresh, same⟩ := Option.ite_none_left_eq_some.1 taken
    injection same with same
    rw [← same] at found
    have different : runId ≠ input.id randomUUID := by
      rintro rfl
      exact fresh (by rw [has, stored]; rfl)
    unfold spawn at found
    dsimp only at found
    rw [get_set_of_ne _ _ different] at found
    split at found
    next => exact cancelScope_over found stored isOver
    next =>
      rw [stored, Option.some.injEq] at found
      exact found ▸ isOver
  | created id pid =>
    obtain ⟨run, own, creating, rfl⟩ := onRun_eq_some taken
    refine set_over own (fun isOver => ?_) found stored isOver
    have creating : run.phase = .creating := of_decide_eq_true creating
    simpa [Run.isOver, creating] using isOver
  | failed id =>
    obtain ⟨run, own, -, rfl⟩ := onRun_eq_some taken
    exact set_over own (fun _ => rfl) found stored isOver
  | output id stream chunk =>
    obtain ⟨run, own, -, rfl⟩ := onRun_eq_some taken
    refine set_over own (fun isOver => ?_) found stored isOver
    exact isOver
  | ended id exitCode exitSignal =>
    obtain ⟨run, own, -, rfl⟩ := onRun_eq_some taken
    exact set_over own (fun _ => by simp [Run.isOver]) found stored isOver
  | waitFailed id =>
    obtain ⟨run, own, -, rfl⟩ := onRun_eq_some taken
    exact set_over own (fun _ => by simp [Run.isOver]) found stored isOver
  | timeoutFires id =>
    obtain ⟨run, own, -, rfl⟩ := onRun_eq_some taken
    refine set_over own (fun isOver => ?_) found stored isOver
    exact isOver
  | noOutputFires id =>
    obtain ⟨run, own, -, rfl⟩ := onRun_eq_some taken
    refine set_over own (fun isOver => ?_) found stored isOver
    exact isOver
  | cancel id reason =>
    injection taken with taken
    rw [← taken] at found
    obtain same | ⟨run, was, rfl⟩ := cancel_run found
    · rw [stored, Option.some.injEq] at same
      exact same ▸ isOver
    · rw [stored, Option.some.injEq] at was
      exact was ▸ isOver
  | cancelScope scopeKey reason =>
    injection taken with taken
    rw [← taken] at found
    exact cancelScope_over found stored isOver
  | cancelRun id reason =>
    obtain ⟨run, own, -, rfl⟩ := onRun_eq_some taken
    refine set_over own (fun isOver => ?_) found stored isOver
    exact isOver

/-- Once the record of a run is exited it stays so, as long as it is there. -/
def StaysExited (state next : SupervisorState) : Prop :=
  ∀ runId record, state.registry.get runId = some record → record.state = .exited →
    ∀ later, next.registry.get runId = some later → later.state = .exited

section Grows

theorem set_grows {runs : OrderedMap String Run} (known : (runs.get runId).isSome) (other : String)
    (run : Run) : ((runs.set other run).get runId).isSome := by
  rw [get_set]
  split
  · rfl
  · exact known

theorem cancel_grows (known : (state.runs.get runId).isSome) (other : String) :
    ((cancel state other reason now).runs.get runId).isSome := by
  unfold cancel
  split
  · exact set_grows known _ _
  · exact known

theorem cancelScope_grows (known : (state.runs.get runId).isSome) (scopeKey : String) :
    ((cancelScope state scopeKey reason now).runs.get runId).isSome := by
  unfold cancelScope
  split
  · exact known
  · generalize state.active.entries.filter (fun entry => entry.2 = some scopeKey) = entries
    induction entries generalizing state with
    | nil => exact known
    | cons first entries inductionHypothesis =>
      exact inductionHypothesis (cancel_grows known first.1)

/-- No run is forgotten. -/
theorem step_grows {next : SupervisorState} {event : ℤ × SupervisorEvent}
    (taken : step state event = some next) (known : (state.runs.get runId).isSome) :
    (next.runs.get runId).isSome := by
  obtain ⟨now, event⟩ := event
  cases event with
  | spawn input randomUUID =>
    obtain ⟨-, same⟩ := Option.ite_none_left_eq_some.1 taken
    injection same with same
    rw [← same]
    unfold spawn
    dsimp only
    refine set_grows ?_ _ _
    split
    · exact cancelScope_grows known _
    · exact known
  | cancel id reason =>
    injection taken with taken
    exact taken ▸ cancel_grows known id
  | cancelScope scopeKey reason =>
    injection taken with taken
    exact taken ▸ cancelScope_grows known scopeKey
  | created | failed | output | ended | waitFailed | timeoutFires | noOutputFires | cancelRun =>
    obtain ⟨run, -, -, rfl⟩ := onRun_eq_some taken
    exact set_grows known _ _

end Grows

theorem steps_over {actions : List (ℤ × SupervisorEvent)} {state final : SupervisorState}
    (run : Steps step Orderly state actions final)
    (stored : state.runs.get runId = some before) (isOver : before.isOver = true)
    (found : final.runs.get runId = some after) : after.isOver = true := by
  induction run generalizing before with
  | nil state =>
    rw [stored, Option.some.injEq] at found
    exact found ▸ isOver
  | cons _ taken tail inductionHypothesis =>
    obtain ⟨between, next⟩ := Option.isSome_iff_exists.1
      (step_grows taken (by rw [stored]; rfl : (_ : Option Run).isSome))
    exact inductionHypothesis next (step_over taken next stored isOver) found

theorem Told.staysExited (told : Told state) (later : Told next)
    {actions : List (ℤ × SupervisorEvent)} (run : Steps step Orderly state actions next) :
    StaysExited state next := by
  intro runId record recorded exited last final
  have known : ∀ {state : SupervisorState} {record : RunRecord}, Told state →
      state.registry.get runId = some record → ∃ run, state.runs.get runId = some run := by
    intro state record told recorded
    cases stored : state.runs.get runId with
    | none =>
      rw [(told.unknown runId stored).1] at recorded
      cases recorded
    | some run => exact ⟨run, rfl⟩
  obtain ⟨before, stored⟩ := known told recorded
  obtain ⟨after, found⟩ := known later final
  have isOver : before.isOver = true := by
    by_contra pending
    obtain ⟨current, same, notExited, -⟩ :=
      (told.consistent runId before stored).pending (Bool.eq_false_iff.2 pending)
    rw [recorded, Option.some.injEq] at same
    exact notExited (same ▸ exited)
  exact ((later.consistent runId after found).done (steps_over run stored isOver found) last
    final).1

/-- The records tell what happened in every run whose steps meet the condition. -/
theorem records_tell_what_happened {front back : List (ℤ × SupervisorEvent)}
    {middle final : SupervisorState} (first : Steps step Orderly .initial front middle)
    (onward : Steps step Orderly middle back final) : StaysExited middle final ∧ Tells final := by
  have told := first.invariant (fun _ _ _ told orderly taken => step_told told orderly taken)
    told_initial
  have later := onward.invariant (fun _ _ _ told orderly taken => step_told told orderly taken) told
  exact ⟨told.staysExited later onward, later.tells⟩

/-- A run that writes and ends. -/
theorem records_tell_of_a_run : ∃ final,
    (final.runs.get "a").any (fun run => run.exit.any fun exit => exit.stdout = "ok") = true ∧
      StaysExited .initial final ∧ Tells final := by
  have evaluates : (execute step .initial
      [(0, .spawn ⟨some "a", "s", "b", none, false, none, none, true⟩ ""), (1, .created "a" none),
        (2, .output "a" .stdout "ok"), (3, .ended "a" (some 0) none)]).any (fun final =>
          (final.runs.get "a").any fun run => run.exit.any fun exit => exit.stdout = "ok") = true := by
    decide +kernel
  obtain ⟨final, evaluates, said⟩ := (Option.any_eq_true _ _).1 evaluates
  refine ⟨final, said, records_tell_what_happened (.nil _)
    ((steps_of_execute evaluates).promote fun event member state => ?_)⟩
  simp only [List.mem_cons, List.not_mem_nil, or_false] at member
  rcases member with rfl | rfl | rfl | rfl
  · refine ⟨nofun, nofun, fun input randomUUID scope is replaces => ?_, nofun⟩
    injection is with is
    subst is
    cases replaces
  · exact ⟨nofun, nofun, nofun, nofun⟩
  · exact ⟨nofun, nofun, nofun, nofun⟩
  · exact ⟨nofun, nofun, nofun, nofun⟩

/-- A handle that is cancelled after the exit opens the record again. A second cancel changes the
reason in the record alone. And a run that waits for its adapter outlives the one that replaces its
scope. -/
theorem records_tell_otherwise :
    (∃ middle final, Reachable step .initial middle ∧ Reachable step middle final ∧
      ¬StaysExited middle final) ∧
    (∃ state, Reachable step .initial state ∧ ∃ run exit record,
      state.runs.get "a" = some run ∧ run.exit = some exit ∧
        state.registry.get "a" = some record ∧ record.terminationReason ≠ some exit.reason) ∧
    ∃ state, Reachable step .initial state ∧ ∃ first second,
      state.runs.get "a" = some first ∧ state.runs.get "b" = some second ∧
        first.scopeKey = second.scopeKey ∧ second.input.replaceExistingScope = true ∧
          first.order < second.order ∧ first.isLive = true ∧ first.killed = false ∧
            second.isLive = true := by
  refine ⟨?_, ?_, ?_⟩
  · have evaluates : (execute step .initial [(0, .spawn ⟨some "a", "s", "b", none, false, none, none,
        true⟩ ""), (1, .created "a" none), (2, .ended "a" (some 0) none)]).any (fun middle =>
        (middle.registry.get "a").any (fun record => record.state = .exited) &&
          (execute step middle [(3, .cancelRun "a" .manualCancel)]).any fun final =>
            (final.registry.get "a").any fun record => record.state = .exiting) = true := by
      decide +kernel
    obtain ⟨middle, front, found⟩ := (Option.any_eq_true _ _).1 evaluates
    rw [Bool.and_eq_true] at found
    obtain ⟨record, recorded, exited⟩ := (Option.any_eq_true _ _).1 found.1
    obtain ⟨final, back, found⟩ := (Option.any_eq_true _ _).1 found.2
    obtain ⟨last, kept, exiting⟩ := (Option.any_eq_true _ _).1 found
    refine ⟨middle, final, reachable_of_execute front, reachable_of_execute back, fun stays => ?_⟩
    have again := stays "a" record recorded (of_decide_eq_true exited) last kept
    rw [of_decide_eq_true exiting] at again
    cases again
  · have evaluates : (execute step .initial [(0, .spawn ⟨some "a", "s", "b", none, false, some 1, none,
        true⟩ ""), (1, .created "a" none), (2, .timeoutFires "a"), (3, .cancel "a" .manualCancel),
        (4, .ended "a" none (some "SIGKILL"))]).any (fun state =>
        (state.runs.get "a").any fun run => run.exit.any fun exit =>
          (state.registry.get "a").any fun record =>
            record.terminationReason ≠ some exit.reason) = true := by
      decide +kernel
    obtain ⟨state, run, found⟩ := (Option.any_eq_true _ _).1 evaluates
    obtain ⟨first, stored, found⟩ := (Option.any_eq_true _ _).1 found
    obtain ⟨exit, exited, found⟩ := (Option.any_eq_true _ _).1 found
    obtain ⟨record, recorded, differ⟩ := (Option.any_eq_true _ _).1 found
    exact ⟨state, reachable_of_execute run, first, exit, record, stored, exited, recorded,
      of_decide_eq_true differ⟩
  · have evaluates : (execute step .initial [(0, .spawn ⟨some "a", "s", "b", some "scope", false, none,
        none, true⟩ ""), (1, .spawn ⟨some "b", "s", "b", some "scope", true, none, none, true⟩ ""),
        (2, .created "b" none), (3, .created "a" none)]).any (fun state =>
        (state.runs.get "a").any fun first => (state.runs.get "b").any fun second =>
          first.scopeKey = second.scopeKey ∧ second.input.replaceExistingScope = true ∧
            first.order < second.order ∧ first.isLive = true ∧ first.killed = false ∧
              second.isLive = true) = true := by
      decide +kernel
    obtain ⟨state, run, found⟩ := (Option.any_eq_true _ _).1 evaluates
    obtain ⟨first, stored, found⟩ := (Option.any_eq_true _ _).1 found
    obtain ⟨second, alsoStored, found⟩ := (Option.any_eq_true _ _).1 found
    exact ⟨state, reachable_of_execute run, first, second, stored, alsoStored,
      of_decide_eq_true found⟩

end OpenClaw.Supervisor
