/-
This file pairs the starts of a job with the results that are applied to it: as long as the
service is not restarted in the middle of a run of the job, starts and results alternate, and each
result is that of the start before it.

A run stands in the phase of the service from its start until its result is applied, and its job
is in the store meanwhile, so no result is lost.
-/

import OpenClaw.Cron.TrackedRuns

namespace OpenClaw.Cron

open Machine

/-! ### Logs -/

section Logs

variable (jobId : String)

/-- When the run of a job has started that no result has been applied for yet. -/
def openRun (log : List CronLogEntry) : Option ℤ :=
  log.foldl (fun running entry =>
    match entry with
    | .started id startedAt => if id = jobId then some startedAt else running
    | .applied id _ _ => if id = jobId then none else running) none

theorem openRun_append_started (log : List CronLogEntry) (other : String) (startedAt : ℤ) :
    openRun jobId (log ++ [.started other startedAt]) =
      if other = jobId then some startedAt else openRun jobId log := by
  simp [openRun]

theorem openRun_append_applied (log : List CronLogEntry) (other : String) (result : RunResult)
    (errors : ℕ) :
    openRun jobId (log ++ [.applied other result errors]) =
      if other = jobId then none else openRun jobId log := by
  simp [openRun]

/-- A job is started when none of its runs is open, and a result is that of the open run. -/
def EntryPaired (before : List CronLogEntry) : CronLogEntry → Prop
  | .started id _ => id = jobId → openRun jobId before = none
  | .applied id result _ => id = jobId → openRun jobId before = some result.startedAt

end Logs

/-! ### Runs of a phase -/

def CronRun.startedAt (run : CronRun) : Option ℤ :=
  match run.phase with
  | .waiting => none
  | .executing startedAt => some startedAt
  | .ended result => some result.startedAt

/-- When the run of a job has started that is executing or has ended. -/
def runningSince (jobId : String) (runs : List CronRun) : Option ℤ :=
  (runs.find? fun run => run.jobId = jobId).bind CronRun.startedAt

section Phases

variable {jobId : String}

theorem runningSince_cons (run : CronRun) (rest : List CronRun) :
    runningSince jobId (run :: rest) =
      if run.jobId = jobId then run.startedAt else runningSince jobId rest := by
  unfold runningSince
  rw [List.find?_cons]
  by_cases own : run.jobId = jobId
  · rw [decide_eq_true own, if_pos own]
    rfl
  · rw [decide_eq_false own, if_neg own]

theorem runningSince_of_not_mem {runs : List CronRun} (absent : jobId ∉ runs.map CronRun.jobId) :
    runningSince jobId runs = none := by
  unfold runningSince
  rw [List.find?_eq_none.2 fun run member own =>
    absent (List.mem_map.2 ⟨run, member, of_decide_eq_true own⟩)]
  rfl

/-- The only run of a job decides. -/
theorem runningSince_of_mem {runs : List CronRun} (distinct : (runs.map CronRun.jobId).Nodup)
    {run : CronRun} (member : run ∈ runs) (own : run.jobId = jobId) :
    runningSince jobId runs = run.startedAt := by
  induction runs with
  | nil => exact absurd member List.not_mem_nil
  | cons first rest inductionHypothesis =>
    rw [List.map_cons, List.nodup_cons] at distinct
    rw [runningSince_cons]
    rcases List.mem_cons.1 member with rfl | later
    · rw [if_pos own]
    · rw [if_neg fun same => distinct.1 (List.mem_map.2 ⟨run, later, own.trans same.symm⟩)]
      exact inductionHypothesis distinct.2 later

theorem runningSince_reserved (ids : List String) :
    runningSince jobId (ids.map fun jobId => { jobId }) = none := by
  unfold runningSince
  cases found : (ids.map fun jobId => ({ jobId } : CronRun)).find? fun run => run.jobId = jobId with
  | none => rfl
  | some run =>
    obtain ⟨id, -, rfl⟩ := List.mem_map.1 (List.mem_of_find?_eq_some found)
    rfl

theorem runningSince_setPhase (id : String) (phase : RunPhase) (runs : List CronRun) :
    runningSince jobId (CronServiceState.setPhase id phase runs) =
      if id = jobId ∧ jobId ∈ runs.map CronRun.jobId then CronRun.startedAt ⟨jobId, phase⟩
      else runningSince jobId runs := by
  induction runs with
  | nil => exact (if_neg fun both => absurd both.2 List.not_mem_nil).symm
  | cons first rest inductionHypothesis =>
    change runningSince jobId ((if first.jobId = id then { first with phase } else first) ::
      CronServiceState.setPhase id phase rest) = _
    rw [runningSince_cons, runningSince_cons, inductionHypothesis, List.map_cons]
    by_cases own : first.jobId = jobId
    · by_cases same : id = jobId
      · rw [if_pos (own.trans same.symm), if_pos own,
          if_pos ⟨same, List.mem_cons.2 (.inl own.symm)⟩]
        rfl
      · have other : first.jobId ≠ id := fun is => same (is.symm.trans own)
        rw [if_neg other, if_pos own, if_neg fun both => same both.1, if_pos own]
    · have sameId : (if first.jobId = id then { first with phase } else first).jobId =
          first.jobId := by split <;> rfl
      rw [sameId, if_neg own, if_neg own]
      refine if_congr ?_ rfl rfl
      rw [List.mem_cons, or_iff_right (Ne.symm own)]

end Phases

/-! ### Paired runs -/

/-- A run of a job has started and its result has not been applied exactly while the phase has it,
and the job is in the store. -/
structure PairedRuns (jobId : String) (state : CronServiceState) : Prop where
  distinct : (state.phase.runs.map CronRun.jobId).Nodup
  stored : jobId ∈ state.phase.runs.map CronRun.jobId → state.file.has jobId = true ∧
    ∀ store, state.store = some store → store.has jobId = true
  running : openRun jobId state.log = runningSince jobId state.phase.runs
  paired : EachEntry (EntryPaired jobId) state.log

theorem has_mapValues (store : CronStore) (fn : String → CronJob → CronJob) (jobId : String) :
    (store.mapValues fn).has jobId = store.has jobId := by
  unfold OrderedMap.has
  rw [OrderedMap.get_mapValues, Option.isSome_map]

theorem has_loadCronStore (file : CronStore) (jobId : String) :
    (loadCronStore file).has jobId = file.has jobId := has_mapValues _ _ _

theorem has_updateJobs (jobIds : List String) (fn : CronJob → CronJob) (store : CronStore)
    (jobId : String) : (updateJobs jobIds fn store).has jobId = store.has jobId :=
  has_mapValues _ _ _

theorem has_set {store : CronStore} {jobId other : String} {job : CronJob}
    (stored : store.has jobId = true) : (store.set other job).has jobId = true := by
  unfold OrderedMap.has at stored ⊢
  rw [OrderedMap.get_set]
  split
  · rfl
  · exact stored

section PairedRuns

variable {jobId : String} {state : CronServiceState} {next : CronServiceState}
variable {externals : Externals}

theorem PairedRuns.loaded (pairs : PairedRuns jobId state)
    (reserved : jobId ∈ state.phase.runs.map CronRun.jobId) : state.loaded.has jobId = true := by
  unfold CronServiceState.loaded
  cases isStore : state.store with
  | none => exact (has_loadCronStore _ _).trans (pairs.stored reserved).1
  | some store => exact (pairs.stored reserved).2 store isStore

/-- Without runs, none is open. -/
theorem PairedRuns.of_idle (noRuns : state.phase.runs = [])
    (closed : openRun jobId state.log = none) (paired : EachEntry (EntryPaired jobId) state.log) :
    PairedRuns jobId state where
  distinct := by
    rw [noRuns]
    exact List.nodup_nil
  stored := by
    rw [noRuns]
    exact fun member => absurd member List.not_mem_nil
  running := by
    rw [noRuns]
    exact closed
  paired := paired

/-- Jobs of the store are reserved while no run is open. -/
theorem PairedRuns.of_reserved {ids : List String}
    (isRuns : state.phase.runs = ids.map fun jobId => { jobId }) (distinct : ids.Nodup)
    (stored : jobId ∈ ids → state.file.has jobId = true ∧
      ∀ store, state.store = some store → store.has jobId = true)
    (closed : openRun jobId state.log = none) (paired : EachEntry (EntryPaired jobId) state.log) :
    PairedRuns jobId state where
  distinct := by
    rw [isRuns, map_jobId_reserved]
    exact distinct
  stored := by
    rw [isRuns, map_jobId_reserved]
    exact stored
  running := by
    rw [isRuns, runningSince_reserved]
    exact closed
  paired := paired

theorem PairedRuns.closed (pairs : PairedRuns jobId state) (noRuns : state.phase.runs = []) :
    openRun jobId state.log = none := by
  rw [pairs.running, noRuns]
  rfl

/-- The clock may be read. -/
theorem PairedRuns.reads (pairs : PairedRuns jobId state) {readings : List ℤ}
    (read : state.reads readings = some next) :
    PairedRuns jobId next := by
  obtain ⟨isNext, -, -⟩ := CronServiceState.reads_spec read
  rw [isNext]
  exact { pairs with }

/-- The results of the runs of a section are applied, and none of them is lost. -/
theorem paired_applyOutcomes (externals : Externals) (config : SchedulerConfig)
    (failoverReason : String → Option String) (nowMs : ℤ) {runs : List CronRun}
    (distinct : (runs.map CronRun.jobId).Nodup) (ended : allEnded runs = true)
    (stored : jobId ∈ runs.map CronRun.jobId → state.loaded.has jobId = true)
    (running : openRun jobId state.log = runningSince jobId runs)
    (paired : EachEntry (EntryPaired jobId) state.log) :
    let applied := runs.foldl (fun state run =>
      state.applyOutcome externals config failoverReason nowMs run) state
    openRun jobId applied.log = none ∧ EachEntry (EntryPaired jobId) applied.log := by
  induction runs generalizing state with
  | nil => exact ⟨running, paired⟩
  | cons run rest inductionHypothesis =>
    rw [List.map_cons, List.nodup_cons] at distinct
    obtain ⟨hasResult, restEnded⟩ : run.result.isSome = true ∧ allEnded rest = true :=
      Bool.and_eq_true_iff.1 ended
    rw [runningSince_cons] at running
    by_cases own : run.jobId = jobId
    · rw [if_pos own] at running
      have absent : jobId ∉ rest.map CronRun.jobId := own ▸ distinct.1
      have present := stored (own ▸ List.mem_cons_self)
      rcases applyOutcome_cases externals config failoverReason state nowMs run with
        ⟨-, noResult | gone⟩ | ⟨result, job, isResult, -, after⟩
      · rw [noResult] at hasResult
        nomatch hasResult
      · rw [own] at gone
        unfold OrderedMap.has at present
        rw [gone] at present
        nomatch present
      · have since : run.startedAt = some result.startedAt := by
          unfold CronRun.result at isResult
          unfold CronRun.startedAt
          split at isResult
          next other isPhase =>
            rw [isPhase]
            exact congrArg (Option.map RunResult.startedAt) isResult
          next => nomatch isResult
        refine inductionHypothesis distinct.2 restEnded (fun member => absurd member absent) ?_ ?_
        · dsimp only
          rw [after, openRun_append_applied, if_pos own, runningSince_of_not_mem absent]
        · dsimp only
          rw [after]
          exact paired.append fun _ => running.trans since
    · rw [if_neg own] at running
      have others : ∀ member : jobId ∈ rest.map CronRun.jobId, state.loaded.has jobId = true :=
        fun member => stored (List.mem_cons_of_mem _ member)
      rcases applyOutcome_cases externals config failoverReason state nowMs run with
        ⟨same, -⟩ | ⟨result, job, -, -, after⟩
      · rw [List.foldl_cons, same]
        exact inductionHypothesis distinct.2 restEnded others running paired
      · refine inductionHypothesis distinct.2 restEnded (fun member => ?_) ?_ ?_
        · have present := others member
          dsimp only
          rw [after]
          dsimp only [CronServiceState.loaded, Option.getD_some]
          split
          · unfold OrderedMap.has at present ⊢
            rwa [OrderedMap.get_delete_of_ne _ (Ne.symm own)]
          · exact has_set present
        · dsimp only
          rwa [after, openRun_append_applied, if_neg own]
        · dsimp only
          rw [after]
          exact paired.append fun same => absurd same own

/-- A restart does not come in the middle of a run of a job. -/
def uninterrupted (jobId : String) (state : CronServiceState) : SchedulerEvent → Bool
  | .restart => (runningSince jobId state.phase.runs).isNone
  | _ => true

theorem PairedRuns.persistChanged (pairs : PairedRuns jobId state)
    {upkeep : CronStore × Bool}
    (keeps : ∀ id, upkeep.1.has id = state.loaded.has id) :
    PairedRuns jobId (state.persistChanged upkeep) := by
  unfold CronServiceState.persistChanged
  split
  · exact { pairs with stored := fun reserved =>
      ⟨(keeps jobId).trans (pairs.loaded reserved), fun _ isStore =>
        Option.some.inj isStore ▸ (keeps jobId).trans (pairs.loaded reserved)⟩ }
  · exact { pairs with stored := fun reserved =>
      ⟨(pairs.stored reserved).1, fun _ isStore =>
        Option.some.inj isStore ▸ (keeps jobId).trans (pairs.loaded reserved)⟩ }

/-- A phase that has no runs, after one that had none. -/
theorem PairedRuns.phases (pairs : PairedRuns jobId state) (noRuns : state.phase.runs = [])
    (sameLog : next.log = state.log) (noneNext : next.phase.runs = []) :
    PairedRuns jobId next :=
  .of_idle noneNext (sameLog ▸ pairs.closed noRuns) (sameLog ▸ pairs.paired)

theorem log_persistChanged (state : CronServiceState) (upkeep : CronStore × Bool) :
    (state.persistChanged upkeep).log = state.log := by
  unfold CronServiceState.persistChanged
  split <;> rfl

theorem has_of_mem_collect {options : RunnableOptions} {nowMs : ℤ} {store : CronStore}
    (member : jobId ∈ (collectRunnableJobs externals options nowMs store).map Prod.fst) :
    store.has jobId = true := by
  obtain ⟨job, stored, -⟩ := mem_collectRunnableJobs member
  unfold OrderedMap.has
  rw [stored]
  rfl

theorem PairedRuns.planStartupCatchup (pairs : PairedRuns jobId state)
    (noRuns : state.phase.runs = []) (externals : Externals) (config : SchedulerConfig)
    (skipJobIds : List String) (nowMs : ℤ) :
    PairedRuns jobId (state.planStartupCatchup externals config skipJobIds nowMs) := by
  unfold CronServiceState.planStartupCatchup
  dsimp only
  split
  · exact pairs.phases noRuns rfl rfl
  · refine .of_reserved rfl (List.Nodup.sublist (List.take_sublist _ _) ?_) (fun member => ?_)
      (pairs.closed noRuns) pairs.paired
    · rw [((List.mergeSort_perm _ _).map Prod.fst).nodup_iff]
      exact nodup_collectRunnableJobs externals _ nowMs _
    · have missed := List.mem_of_mem_take member
      rw [((List.mergeSort_perm _ _).map Prod.fst).mem_iff] at missed
      have stored : ∀ ids, (updateJobs ids (reserveJob nowMs) state.loaded).has jobId = true :=
        fun ids => (has_updateJobs ids _ _ _).trans (has_of_mem_collect missed)
      exact ⟨stored _, fun _ isStore => Option.some.inj isStore ▸ stored _⟩

theorem PairedRuns.beginTick (pairs : PairedRuns jobId state) (noRuns : state.phase.runs = [])
    (externals : Externals) (dueCheckNow nowMs : ℤ) :
    PairedRuns jobId (state.beginTick externals dueCheckNow nowMs) := by
  unfold CronServiceState.beginTick
  dsimp only
  split
  · refine pairs.phases noRuns (log_persistChanged _ _) ?_
    unfold CronServiceState.persistChanged
    split <;> exact noRuns
  · refine .of_reserved rfl (nodup_collectRunnableJobs externals _ dueCheckNow _) (fun member => ?_)
      (pairs.closed noRuns) pairs.paired
    have stored : ∀ ids, (updateJobs ids (reserveJob nowMs) (loadCronStore state.file)).has jobId =
        true := fun ids => (has_updateJobs ids _ _ _).trans (has_of_mem_collect member)
    exact ⟨stored _, fun _ isStore => Option.some.inj isStore ▸ stored _⟩

/-- A waiting job is started while none of its runs is open. -/
theorem PairedRuns.startRun (pairs : PairedRuns jobId state) {id : String} {startedAt : ℤ}
    (started : state.startRun id startedAt = some next) :
    PairedRuns jobId next := by
  obtain ⟨waits, runs, -, isNext⟩ := startRun_cases started
  have sameIds : next.phase.runs.map CronRun.jobId = state.phase.runs.map CronRun.jobId := by
    rw [runs, map_jobId_setPhase]
  have running : openRun jobId (state.log ++ [.started id startedAt]) =
      runningSince jobId next.phase.runs := by
    rw [openRun_append_started, runs, runningSince_setPhase]
    by_cases own : id = jobId
    · rw [if_pos own, if_pos ⟨own, own ▸ List.mem_map.2 ⟨_, waits, rfl⟩⟩]
      rfl
    · rw [if_neg own, if_neg fun both => own both.1]
      exact pairs.running
  have paired : EachEntry (EntryPaired jobId) (state.log ++ [.started id startedAt]) := by
    refine pairs.paired.append fun own => ?_
    rw [pairs.running, runningSince_of_mem pairs.distinct waits own]
    rfl
  rcases isNext with isNext | isNext
  · rw [isNext]
    exact {
      distinct := sameIds ▸ pairs.distinct
      stored := fun reserved => pairs.stored (sameIds ▸ reserved)
      running, paired }
  · rw [isNext]
    exact {
      distinct := sameIds ▸ pairs.distinct
      stored := by
        intro reserved
        obtain ⟨inFile, inStore⟩ := pairs.stored (sameIds ▸ reserved)
        refine ⟨inFile, fun store isStore => ?_⟩
        obtain ⟨former, isFormer, rfl⟩ := Option.map_eq_some_iff.1 isStore
        exact (has_mapValues _ _ _).trans (inStore former isFormer)
      running, paired }

theorem PairedRuns.endRun (pairs : PairedRuns jobId state) {id : String}
    {startedAt endedAt : ℤ} {outcome : CronRunOutcome}
    (ended : state.endRun id startedAt outcome endedAt = some next) : PairedRuns jobId next := by
  obtain ⟨executes, runs, -, isNext⟩ := endRun_cases ended
  have sameIds : next.phase.runs.map CronRun.jobId = state.phase.runs.map CronRun.jobId := by
    rw [runs, map_jobId_setPhase]
  have running : openRun jobId state.log = runningSince jobId next.phase.runs := by
    rw [runs, runningSince_setPhase]
    by_cases own : id = jobId
    · rw [if_pos ⟨own, own ▸ List.mem_map.2 ⟨_, executes, rfl⟩⟩, pairs.running,
        runningSince_of_mem pairs.distinct executes own]
      rfl
    · rw [if_neg fun both => own both.1]
      exact pairs.running
  rw [isNext]
  exact {
    distinct := sameIds ▸ pairs.distinct
    stored := fun reserved => pairs.stored (sameIds ▸ reserved)
    running
    paired := pairs.paired }

/-- One step keeps starts and results paired. -/
theorem PairedRuns.step {config : SchedulerConfig}
    {failoverReason : String → Option String} (pairs : PairedRuns jobId state)
    {event : SchedulerEvent} (admitted : uninterrupted jobId state event = true)
    (taken : schedulerStep externals config failoverReason state event = some next) :
    PairedRuns jobId next := by
  cases event with
  | restart =>
    have closed : openRun jobId state.log = none :=
      pairs.running.trans (Option.isNone_iff_eq_none.1 admitted)
    exact Option.some.inj taken ▸ .of_idle rfl closed pairs.paired
  | clearMarkers =>
    unfold schedulerStep at taken
    dsimp only at taken
    split at taken
    next isPhase =>
      rw [← Option.some.inj taken]
      exact pairs.phases (by rw [isPhase]; rfl) (log_persistChanged _ _) rfl
    next => nomatch taken
  | plan nowMs =>
    unfold schedulerStep at taken
    dsimp only at taken
    split at taken
    next isPhase =>
      obtain ⟨middle, read, rfl⟩ := Option.map_eq_some_iff.1 taken
      refine (pairs.reads read).planStartupCatchup ?_ externals config _ nowMs
      rw [(CronServiceState.reads_spec read).1, isPhase]
      rfl
    next => nomatch taken
  | finishCatchup baseNow nowMs =>
    unfold schedulerStep at taken
    dsimp only at taken
    split at taken
    next runs deferredJobIds isPhase =>
      obtain ⟨ended, isNext⟩ := Option.ite_none_right_eq_some.1 taken
      obtain ⟨middle, read, rfl⟩ := Option.map_eq_some_iff.1 isNext
      have reads := pairs.reads read
      have isRuns : middle.phase.runs = runs := by
        rw [(CronServiceState.reads_spec read).1, isPhase]
        rfl
      obtain ⟨closed, paired⟩ := paired_applyOutcomes externals config failoverReason baseNow
        (isRuns ▸ reads.distinct) ended (fun reserved => reads.loaded (isRuns ▸ reserved))
        (isRuns ▸ reads.running) reads.paired
      exact .of_idle rfl closed paired
    next => nomatch taken
  | finishStart nowMs =>
    unfold schedulerStep at taken
    dsimp only at taken
    split at taken
    next isPhase =>
      obtain ⟨middle, read, rfl⟩ := Option.map_eq_some_iff.1 taken
      refine (pairs.reads read).phases ?_ (log_persistChanged _ _) rfl
      rw [(CronServiceState.reads_spec read).1, isPhase]
      rfl
    next => nomatch taken
  | tick dueCheckNow nowMs =>
    unfold schedulerStep at taken
    dsimp only at taken
    split at taken
    next isPhase =>
      obtain ⟨middle, read, rfl⟩ := Option.map_eq_some_iff.1 taken
      refine (pairs.reads read).beginTick ?_ externals dueCheckNow nowMs
      rw [(CronServiceState.reads_spec read).1, isPhase]
      rfl
    next => nomatch taken
  | finishTick alertNow nowMs =>
    unfold schedulerStep at taken
    dsimp only at taken
    split at taken
    next runs isPhase =>
      obtain ⟨ended, isNext⟩ := Option.ite_none_right_eq_some.1 taken
      obtain ⟨middle, read, rfl⟩ := Option.map_eq_some_iff.1 isNext
      have reads := pairs.reads read
      have isRuns : middle.phase.runs = runs := by
        rw [(CronServiceState.reads_spec read).1, isPhase]
        rfl
      have reloaded : jobId ∈ runs.map CronRun.jobId → ({ middle with
          store := some (loadCronStore middle.file) } : CronServiceState).loaded.has jobId = true :=
        fun reserved => (has_loadCronStore _ _).trans (reads.stored (isRuns ▸ reserved)).1
      obtain ⟨closed, paired⟩ := paired_applyOutcomes externals config failoverReason alertNow
        (isRuns ▸ reads.distinct) ended reloaded (isRuns ▸ reads.running) reads.paired
      exact .of_idle rfl closed paired
    next => nomatch taken
  | startRun id startedAt =>
    obtain ⟨middle, read, started⟩ := Option.bind_eq_some_iff.1 taken
    exact (pairs.reads read).startRun started
  | endRun id startedAt outcome endedAt =>
    obtain ⟨middle, read, ended⟩ := Option.bind_eq_some_iff.1 taken
    exact (pairs.reads read).endRun ended
  | read nowMs =>
    obtain ⟨middle, read, rfl⟩ := Option.map_eq_some_iff.1 taken
    exact (pairs.reads read).persistChanged fun id => has_mapValues _ _ _

/-- Starts and results are paired in every run without a restart in the middle of a run of the
job. -/
theorem PairedRuns.run {config : SchedulerConfig}
    {failoverReason : String → Option String} {file : CronStore} {clock : ℤ}
    {events : List SchedulerEvent} {final : CronServiceState}
    (run : Steps (schedulerStep externals config failoverReason)
      (fun state event => uninterrupted jobId state event = true) (.fresh file clock) events
      final) : PairedRuns jobId final := by
  refine run.invariant (fun _ _ _ held admitted taken => held.step admitted taken) ?_
  exact .of_idle rfl rfl .nil

end PairedRuns

end OpenClaw.Cron
