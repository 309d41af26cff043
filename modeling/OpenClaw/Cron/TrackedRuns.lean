/-
This file carries a law on the start times of a job through the runs of the scheduler: whatever
ticks, executions, reads and restarts come, every start of the job is one that the log before it
allows, and the stored job still tells of the last result.

One lemma says what each section does, and a step is one of them. A restart forgets what is in
memory, so the file is tracked beside the store; the jobs that are reserved and not yet started
were allowed when they were reserved.
-/

import OpenClaw.Cron.StartTimes

namespace OpenClaw.Cron

open Machine

/-! ### Readings of the clock -/

theorem le_getLastD_of_isChain {clock : ℤ} {readings : List ℤ}
    (chain : List.IsChain (· ≤ ·) (clock :: readings)) :
    clock ≤ readings.getLastD clock ∧
      ∀ reading ∈ readings, clock ≤ reading ∧ reading ≤ readings.getLastD clock := by
  induction readings generalizing clock with
  | nil => exact ⟨le_rfl, fun _ member => absurd member List.not_mem_nil⟩
  | cons first rest inductionHypothesis =>
    obtain ⟨follows, tail⟩ := List.isChain_cons_cons.1 chain
    obtain ⟨toLast, within⟩ := inductionHypothesis tail
    rw [List.getLastD_cons]
    refine ⟨follows.trans toLast, fun reading member => ?_⟩
    rcases List.mem_cons.1 member with rfl | later
    · exact ⟨follows, toLast⟩
    · exact ⟨follows.trans (within reading later).1, (within reading later).2⟩

/-- The readings of a section lie between the clock before it and the clock after it. -/
theorem CronServiceState.reads_spec {state next : CronServiceState} {readings : List ℤ}
    (read : state.reads readings = some next) :
    next = { state with clock := next.clock } ∧ state.clock ≤ next.clock ∧
      ∀ reading ∈ readings, state.clock ≤ reading ∧ reading ≤ next.clock := by
  unfold CronServiceState.reads at read
  obtain ⟨chain, isNext⟩ := Option.ite_none_right_eq_some.1 read
  obtain rfl := Option.some.inj isNext
  exact ⟨rfl, le_getLastD_of_isChain chain⟩

/-! ### Runnable jobs -/

section Runnable

variable {externals : Externals} {options : RunnableOptions} {nowMs : ℤ} {job : CronJob}

/-- Whether only the replay of missed slots asks for a job. -/
def isReplayed (externals : Externals) (nowMs : ℤ) (job : CronJob) : Bool :=
  isJobEnabled job && job.state.runningAtMs.isNone && job.schedule.isCron && !isDue job nowMs &&
    !(hasScheduledNextRunAtMs job.state.nextRunAtMs && isErrorBackoffPending job nowMs) &&
    missedSlot externals job nowMs

/-- A job may be started where its next run is due, or to replay a slot. -/
theorem isRunnableJob_cases (runnable : isRunnableJob externals options nowMs job = true) :
    isJobEnabled job = true ∧ job.state.runningAtMs = none ∧
      ((∃ next, job.state.nextRunAtMs = some next ∧ next ≤ nowMs) ∨
        options.allowCronMissedRunByLastRun = true ∧ isReplayed externals nowMs job = true) := by
  unfold isRunnableJob at runnable
  split at runnable
  · nomatch runnable
  next clear =>
    have enabled : isJobEnabled job = true := by
      by_contra off
      exact clear (by rw [Bool.eq_false_of_not_eq_true off]; rfl)
    have idle : job.state.runningAtMs = none := by
      by_contra running
      rw [← Ne, Option.ne_none_iff_isSome] at running
      exact clear (by rw [running, Bool.or_true])
    refine ⟨enabled, idle, ?_⟩
    split at runnable
    · unfold isRetryDue at runnable
      obtain ⟨-, due⟩ := Bool.and_eq_true_iff.1 runnable
      obtain ⟨next, isNext, holds⟩ := (Option.any_eq_true _ _).1 due
      obtain ⟨past, -⟩ := Bool.and_eq_true_iff.1 holds
      exact .inl ⟨next, isNext, of_decide_eq_true past⟩
    · split at runnable
      next due =>
        obtain ⟨next, isNext, holds⟩ := (Option.any_eq_true _ _).1 due
        obtain ⟨-, past⟩ := Bool.and_eq_true_iff.1 holds
        exact .inl ⟨next, isNext, of_decide_eq_true past⟩
      next notDue =>
        split at runnable
        · nomatch runnable
        next notPending =>
          simp only [Bool.and_eq_true] at runnable
          obtain ⟨⟨allowed, isCron⟩, missed⟩ := runnable
          refine .inr ⟨allowed, ?_⟩
          unfold isReplayed
          rw [enabled, idle, isCron, missed, Bool.eq_false_of_not_eq_true notDue,
            Bool.eq_false_of_not_eq_true notPending]
          rfl

theorem mem_collectRunnableJobs {store : CronStore} {jobId : String}
    (member : jobId ∈ (collectRunnableJobs externals options nowMs store).map Prod.fst) :
    ∃ job, store.get jobId = some job ∧ isRunnableJob externals options nowMs job = true := by
  obtain ⟨⟨id, job⟩, collected, rfl⟩ := List.mem_map.1 member
  obtain ⟨stored, runnable⟩ := List.mem_filter.1 collected
  exact ⟨job, (store.get_eq_some_iff id job).2 stored, runnable⟩

theorem nodup_collectRunnableJobs (externals : Externals) (options : RunnableOptions) (nowMs : ℤ)
    (store : CronStore) :
    ((collectRunnableJobs externals options nowMs store).map Prod.fst).Nodup :=
  store.distinct.sublist (List.filter_sublist.map Prod.fst)

end Runnable

/-! ### Stores -/

section Stores

variable {externals : Externals} {config : SchedulerConfig}
  {failoverReason : String → Option String} {Kind : CronSchedule → Prop} {law : StartLaw}
  {jobId : String} {log : List CronLogEntry} {clock : ℤ} {store : CronStore}

/-- A store keeps what is kept of a job, where it has the job. -/
def StoreTracked (Kind : CronSchedule → Prop) (law : StartLaw) (jobId : String)
    (log : List CronLogEntry) (clock : ℤ) (store : CronStore) : Prop :=
  ∀ job, store.get jobId = some job → Tracked Kind law jobId log clock job

theorem StoreTracked.mapValues (tracked : StoreTracked Kind law jobId log clock store)
    {fn : String → CronJob → CronJob}
    (keeps : ∀ job, Tracked Kind law jobId log clock job →
      Tracked Kind law jobId log clock (fn jobId job)) :
    StoreTracked Kind law jobId log clock (store.mapValues fn) := by
  intro job found
  rw [OrderedMap.get_mapValues] at found
  obtain ⟨former, stored, rfl⟩ := Option.map_eq_some_iff.1 found
  exact keeps former (tracked former stored)

theorem StoreTracked.load (tracked : StoreTracked Kind law jobId log clock store) :
    StoreTracked Kind law jobId log clock (loadCronStore store) :=
  tracked.mapValues fun _ kept => kept.load

theorem StoreTracked.updateJobs (tracked : StoreTracked Kind law jobId log clock store)
    {jobIds : List String} {fn : CronJob → CronJob}
    (keeps : ∀ job, Tracked Kind law jobId log clock job →
      Tracked Kind law jobId log clock (fn job)) :
    StoreTracked Kind law jobId log clock (updateJobs jobIds fn store) :=
  tracked.mapValues fun job kept => by
    split
    · exact keeps job kept
    · exact kept

theorem StoreTracked.reserve (tracked : StoreTracked Kind law jobId log clock store)
    (jobIds : List String) (nowMs : ℤ) :
    StoreTracked Kind law jobId log clock (OpenClaw.Cron.updateJobs jobIds (reserveJob nowMs) store) :=
  tracked.updateJobs fun _ kept => kept.marked rfl rfl rfl rfl rfl rfl rfl

theorem StoreTracked.mark (tracked : StoreTracked Kind law jobId log clock store) {id : String}
    (startedAt : ℤ) :
    StoreTracked Kind law jobId log clock
      (OpenClaw.Cron.updateJobs [id] (markStarted startedAt) store) :=
  tracked.updateJobs fun _ kept => kept.marked rfl rfl rfl rfl rfl rfl rfl

theorem StoreTracked.later (holds : LawHolds externals config failoverReason Kind law)
    (tracked : StoreTracked Kind law jobId log clock store) {later : ℤ} (follows : clock ≤ later) :
    StoreTracked Kind law jobId log later store :=
  fun job stored => (tracked job stored).later holds follows

theorem StoreTracked.congr (tracked : StoreTracked Kind law jobId log clock store)
    {later : List CronLogEntry} (same : lastApplied jobId later = lastApplied jobId log) :
    StoreTracked Kind law jobId later clock store :=
  fun job stored => (tracked job stored).congr same

/-- Upkeep of a store keeps what is kept of a job. -/
theorem StoreTracked.walk (holds : LawHolds externals config failoverReason Kind law)
    (tracked : StoreTracked Kind law jobId log clock store) (epoch : 0 ≤ clock) {nowMs : ℤ}
    (follows : nowMs ≤ clock) {fn : CronJob → Upkeep}
    (upkept : ∀ job, Upkept nowMs job (fn job).job) :
    StoreTracked Kind law jobId log clock (walkSchedulableJobs externals fn nowMs store).1 :=
  tracked.mapValues fun job kept =>
    kept.upkept holds (upkept_walkJob externals nowMs upkept job) epoch follows

theorem StoreTracked.recompute (holds : LawHolds externals config failoverReason Kind law)
    (tracked : StoreTracked Kind law jobId log clock store) (epoch : 0 ≤ clock) {nowMs : ℤ}
    (follows : nowMs ≤ clock) :
    StoreTracked Kind law jobId log clock (recomputeNextRuns externals nowMs store).1 :=
  tracked.walk holds epoch follows (upkept_recomputeDue externals nowMs)

theorem StoreTracked.maintain (holds : LawHolds externals config failoverReason Kind law)
    (tracked : StoreTracked Kind law jobId log clock store) (epoch : 0 ≤ clock) {nowMs : ℤ}
    (follows : nowMs ≤ clock) (recomputeExpired : Bool) :
    StoreTracked Kind law jobId log clock
      (recomputeNextRunsForMaintenance externals recomputeExpired nowMs store).1 :=
  tracked.walk holds epoch follows (upkept_recomputeMissing externals recomputeExpired nowMs)

/-- Deferring jobs that may be started now keeps what is kept of a job. -/
theorem StoreTracked.deferJobs (holds : LawHolds externals config failoverReason Kind law)
    {staggerMs baseNow : ℤ} (forward : 0 ≤ staggerMs) {jobIds : List String} {offset : ℤ}
    (ahead : 0 ≤ offset) (tracked : StoreTracked Kind law jobId log clock store)
    (allowed : jobId ∈ jobIds → AllowedAfter law jobId log baseNow) :
    StoreTracked Kind law jobId log clock
      (CronServiceState.deferJobs staggerMs baseNow jobIds offset store) := by
  induction jobIds generalizing offset store with
  | nil => exact tracked
  | cons first rest inductionHypothesis =>
    have restAllowed : jobId ∈ rest → AllowedAfter law jobId log baseNow :=
      fun member => allowed (List.mem_cons_of_mem first member)
    unfold CronServiceState.deferJobs
    split
    · exact inductionHypothesis ahead tracked restAllowed
    next job found =>
      refine inductionHypothesis (add_nonneg ahead forward) (fun other stored => ?_) restAllowed
      obtain ⟨isFirst, -⟩ := Option.filter_eq_some_iff.1 found
      rw [OrderedMap.get_set] at stored
      split at stored
      next same =>
        obtain rfl := Option.some.inj stored
        refine (tracked job (same ▸ isFirst)).defer ?_
        exact (allowed (same ▸ List.mem_cons_self)).later holds (by omega)
      next => exact tracked other stored

end Stores

/-! ### Sections -/

def ServicePhase.runs : ServicePhase → List CronRun
  | .catchingUp runs _ => runs
  | .started (some runs) => runs
  | _ => []

def ServicePhase.deferred : ServicePhase → List String
  | .catchingUp _ deferredJobIds => deferredJobIds
  | _ => []

/-- What is kept while results are applied: the store tells of the last result. -/
structure Applying (Kind : CronSchedule → Prop) (law : StartLaw) (jobId : String)
    (state : CronServiceState) : Prop where
  epoch : 0 ≤ state.clock
  loaded : StoreTracked Kind law jobId state.log state.clock state.loaded
  kept : EachEntry (EntryKept law jobId) state.log

/-- What is kept between steps: file and store tell of the last result, and what is reserved was
allowed. -/
structure Tracks (Kind : CronSchedule → Prop) (law : StartLaw) (jobId : String)
    (state : CronServiceState) : Prop where
  epoch : 0 ≤ state.clock
  file : StoreTracked Kind law jobId state.log state.clock state.file
  store : ∀ store, state.store = some store →
    StoreTracked Kind law jobId state.log state.clock store
  distinct : (state.phase.runs.map CronRun.jobId ++ state.phase.deferred).Nodup
  reserved : { jobId } ∈ state.phase.runs ∨ jobId ∈ state.phase.deferred →
    AllowedAfter law jobId state.log state.clock
  kept : EachEntry (EntryKept law jobId) state.log

section Sections

variable {externals : Externals} {config : SchedulerConfig}
  {failoverReason : String → Option String} {Kind : CronSchedule → Prop} {law : StartLaw}
  {jobId : String} {state : CronServiceState}
variable {next : CronServiceState} {id : String}

theorem Tracks.loaded (tracks : Tracks Kind law jobId state) :
    StoreTracked Kind law jobId state.log state.clock state.loaded := by
  unfold CronServiceState.loaded
  cases stored : state.store with
  | none => exact tracks.file.load
  | some store => exact tracks.store store stored

theorem Tracks.applying (tracks : Tracks Kind law jobId state) :
    Applying Kind law jobId state where
  epoch := tracks.epoch
  loaded := tracks.loaded
  kept := tracks.kept

/-- The clock may be read. -/
theorem Tracks.reads (holds : LawHolds externals config failoverReason Kind law)
    (tracks : Tracks Kind law jobId state) {readings : List ℤ}
    (read : state.reads readings = some next) : Tracks Kind law jobId next := by
  obtain ⟨isNext, forward, -⟩ := CronServiceState.reads_spec read
  rw [isNext]
  exact {
    epoch := tracks.epoch.trans forward
    file := tracks.file.later holds forward
    store := fun store stored => (tracks.store store stored).later holds forward
    distinct := tracks.distinct
    reserved := fun member => (tracks.reserved member).later holds forward
    kept := tracks.kept }

/-- A store that tells of the last result may be persisted. -/
theorem Applying.persist (applying : Applying Kind law jobId state) {store : CronStore}
    (tracked : StoreTracked Kind law jobId state.log state.clock store) {phase : ServicePhase}
    (distinct : (phase.runs.map CronRun.jobId ++ phase.deferred).Nodup)
    (reserved : { jobId } ∈ phase.runs ∨ jobId ∈ phase.deferred →
      AllowedAfter law jobId state.log state.clock) :
    Tracks Kind law jobId { state.persist store with phase } where
  epoch := applying.epoch
  file := tracked
  store _ stored := Option.some.inj stored ▸ tracked
  distinct := distinct
  reserved := reserved
  kept := applying.kept

theorem Tracks.persistChanged (tracks : Tracks Kind law jobId state) {upkeep : CronStore × Bool}
    (tracked : StoreTracked Kind law jobId state.log state.clock upkeep.1) :
    Tracks Kind law jobId (state.persistChanged upkeep) := by
  unfold CronServiceState.persistChanged
  split
  · exact tracks.applying.persist tracked tracks.distinct tracks.reserved
  · exact { tracks with store := fun _ stored => Option.some.inj stored ▸ tracked }

/-- A phase without runs. -/
theorem Tracks.idle (tracks : Tracks Kind law jobId state) {phase : ServicePhase}
    (noRuns : phase.runs = []) (noneDeferred : phase.deferred = []) :
    Tracks Kind law jobId { state with phase } :=
  { tracks with
    distinct := by
      dsimp only
      rw [noRuns, noneDeferred]
      exact List.nodup_nil
    reserved := by
      dsimp only
      rw [noRuns, noneDeferred]
      exact fun member => member.elim (absurd · List.not_mem_nil) (absurd · List.not_mem_nil) }

/-- What applying the outcome of a run does: nothing where it has none or its job is gone. -/
theorem applyOutcome_cases (externals : Externals) (config : SchedulerConfig)
    (failoverReason : String → Option String) (state : CronServiceState) (nowMs : ℤ)
    (run : CronRun) :
    let after := state.applyOutcome externals config failoverReason nowMs run
    after = state ∧ (run.result = none ∨ state.loaded.get run.jobId = none) ∨
      ∃ result job, run.result = some result ∧ state.loaded.get run.jobId = some job ∧
        let left := applyJobResult externals config.toCronConfig failoverReason job result false
          nowMs
        after = { state with
          store := some (if left.2 then state.loaded.delete run.jobId
            else state.loaded.set run.jobId left.1)
          log := state.log ++
            [.applied run.jobId result (left.1.state.consecutiveErrors.getD 0)] } := by
  unfold CronServiceState.applyOutcome
  cases ended : run.result with
  | none => exact .inl ⟨rfl, .inl rfl⟩
  | some result =>
    cases stored : state.loaded.get run.jobId with
    | none => exact .inl ⟨rfl, .inr rfl⟩
    | some job => exact .inr ⟨result, job, rfl, rfl, rfl⟩

/-- Only the result of its own run is noted of a job. -/
theorem lastApplied_applyOutcome (externals : Externals) (config : SchedulerConfig)
    (failoverReason : String → Option String) (nowMs : ℤ) {run : CronRun}
    (other : run.jobId ≠ jobId) :
    lastApplied jobId (state.applyOutcome externals config failoverReason nowMs run).log =
      lastApplied jobId state.log := by
  rcases applyOutcome_cases externals config failoverReason state nowMs run with
    ⟨same, -⟩ | ⟨result, job, -, -, after⟩
  · rw [same]
  · rw [after]
    dsimp only
    rw [lastApplied_append_applied, if_neg other]

@[simp] theorem clock_applyOutcome (externals : Externals) (config : SchedulerConfig)
    (failoverReason : String → Option String) (nowMs : ℤ) (run : CronRun) :
    (state.applyOutcome externals config failoverReason nowMs run).clock = state.clock := by
  unfold CronServiceState.applyOutcome
  split <;> rfl

/-- The result of a run is applied. -/
theorem Applying.applyOutcome (holds : LawHolds externals config failoverReason Kind law)
    (applying : Applying Kind law jobId state) {nowMs : ℤ} (follows : nowMs ≤ state.clock)
    (run : CronRun) :
    Applying Kind law jobId (state.applyOutcome externals config failoverReason nowMs run) := by
  rcases applyOutcome_cases externals config failoverReason state nowMs run with
    ⟨same, -⟩ | ⟨result, job, -, stored, after⟩
  · rw [same]
    exact applying
  · rw [after]
    by_cases own : run.jobId = jobId
    · have tracked := applying.loaded job (own ▸ stored)
      obtain ⟨-, -, -, -, errors⟩ := applyJobResult_run externals config.toCronConfig
        failoverReason job result false nowMs
      exact {
        epoch := applying.epoch
        loaded := by
          dsimp only [CronServiceState.loaded, Option.getD_some]
          rw [own]
          intro other found
          split at found
          · rw [OrderedMap.get_delete_self] at found
            cases found
          next stays =>
            rw [OrderedMap.get_set_self] at found
            obtain rfl := Option.some.inj found
            exact tracked.applied holds (Prod.ext rfl (Bool.eq_false_of_not_eq_true stays)) follows
        kept := by
          refine applying.kept.append fun _ failed => ?_
          rw [errors, failed]
          exact tracked.counts }
    · exact {
        epoch := applying.epoch
        loaded := by
          dsimp only [CronServiceState.loaded, Option.getD_some]
          intro other found
          refine (applying.loaded other ?_).congr ?_
          · split at found
            · rwa [OrderedMap.get_delete_of_ne _ (Ne.symm own)] at found
            · rwa [OrderedMap.get_set_of_ne _ _ (Ne.symm own)] at found
          · rw [lastApplied_append_applied, if_neg own]
        kept := applying.kept.append fun same => absurd same own }

/-- The results of the runs of a section are applied. -/
theorem Applying.applyOutcomes (holds : LawHolds externals config failoverReason Kind law)
    (applying : Applying Kind law jobId state) {nowMs : ℤ} (follows : nowMs ≤ state.clock)
    (runs : List CronRun) :
    let applied := runs.foldl (fun state run =>
      state.applyOutcome externals config failoverReason nowMs run) state
    Applying Kind law jobId applied ∧ applied.clock = state.clock ∧
      (jobId ∉ runs.map CronRun.jobId →
        lastApplied jobId applied.log = lastApplied jobId state.log) := by
  induction runs generalizing state with
  | nil => exact ⟨applying, rfl, fun _ => rfl⟩
  | cons run rest inductionHypothesis =>
    have first := applying.applyOutcome holds follows run
    obtain ⟨applied, sameClock, sameLast⟩ := inductionHypothesis first
      (follows.trans_eq (clock_applyOutcome externals config failoverReason nowMs run).symm)
    refine ⟨applied, sameClock.trans (clock_applyOutcome _ _ _ _ _), fun absent => ?_⟩
    rw [List.map_cons, List.mem_cons, not_or] at absent
    exact (sameLast absent.2).trans
      (lastApplied_applyOutcome externals config failoverReason nowMs (Ne.symm absent.1))

/-- A job whose next run is due may be started, and so may one whose slot is replayed where the
law allows that. -/
theorem Tracked.runnable (holds : LawHolds externals config failoverReason Kind law)
    {log : List CronLogEntry} {clock nowMs : ℤ} {job : CronJob}
    (tracked : Tracked Kind law jobId log clock job) {options : RunnableOptions}
    (runnable : isRunnableJob externals options nowMs job = true) (follows : nowMs ≤ clock)
    (replays : options.allowCronMissedRunByLastRun = true → isReplayed externals nowMs job = true →
      AllowedAfter law jobId log nowMs) : AllowedAfter law jobId log clock := by
  obtain ⟨enabled, -, ⟨next, isNext, due⟩ | ⟨allowed, replayed⟩⟩ := isRunnableJob_cases runnable
  · exact tracked.due holds enabled isNext (due.trans follows)
  · exact (replays allowed replayed).later holds follows

@[simp] theorem map_jobId_reserved (ids : List String) :
    (ids.map fun jobId => ({ jobId } : CronRun)).map CronRun.jobId = ids := by
  rw [List.map_map]
  exact List.map_id ids

theorem mem_of_waiting {ids : List String}
    (member : { jobId } ∈ ids.map fun jobId => ({ jobId } : CronRun)) : jobId ∈ ids := by
  obtain ⟨id, isMember, same⟩ := List.mem_map.1 member
  exact (CronRun.mk.inj same).1 ▸ isMember

/-- The catch-up is planned. -/
theorem Tracks.planStartupCatchup (holds : LawHolds externals config failoverReason Kind law)
    (tracks : Tracks Kind law jobId state) (skipJobIds : List String) {nowMs : ℤ}
    (follows : nowMs ≤ state.clock)
    (replays : ∀ job, state.loaded.get jobId = some job → isReplayed externals nowMs job = true →
      AllowedAfter law jobId state.log nowMs) :
    Tracks Kind law jobId (state.planStartupCatchup externals config skipJobIds nowMs) := by
  unfold CronServiceState.planStartupCatchup
  dsimp only
  split
  · have loads : Tracks Kind law jobId { state with store := some state.loaded } :=
      { tracks with store := fun _ stored => Option.some.inj stored ▸ tracks.loaded }
    exact loads.idle rfl rfl
  · have isMissed : ∀ {options : RunnableOptions}
        {sorts : String × CronJob → String × CronJob → Bool},
        jobId ∈ ((collectRunnableJobs externals options nowMs state.loaded).mergeSort sorts).map
          Prod.fst → AllowedAfter law jobId state.log state.clock := by
      intro options sorts member
      rw [((List.mergeSort_perm _ _).map Prod.fst).mem_iff] at member
      obtain ⟨job, stored, runnable⟩ := mem_collectRunnableJobs member
      exact (tracks.loaded job stored).runnable holds runnable follows
        fun _ => replays job stored
    refine tracks.applying.persist (tracks.loaded.reserve _ nowMs) ?_ ?_
    · dsimp only [ServicePhase.runs, ServicePhase.deferred]
      rw [map_jobId_reserved, List.take_append_drop,
        ((List.mergeSort_perm _ _).map Prod.fst).nodup_iff]
      exact nodup_collectRunnableJobs externals _ nowMs _
    · rintro (reserved | deferred)
      · exact isMissed (List.mem_of_mem_take (mem_of_waiting reserved))
      · exact isMissed (List.mem_of_mem_drop deferred)

/-- A tick begins. -/
theorem Tracks.beginTick (holds : LawHolds externals config failoverReason Kind law)
    (tracks : Tracks Kind law jobId state) {dueCheckNow : ℤ} (follows : dueCheckNow ≤ state.clock)
    (nowMs : ℤ) : Tracks Kind law jobId (state.beginTick externals dueCheckNow nowMs) := by
  unfold CronServiceState.beginTick
  dsimp only
  split
  · exact tracks.persistChanged (tracks.file.load.maintain holds tracks.epoch follows true)
  · refine tracks.applying.persist (tracks.file.load.reserve _ nowMs) ?_ ?_
    · dsimp only [ServicePhase.runs, ServicePhase.deferred]
      rw [map_jobId_reserved, List.append_nil]
      exact nodup_collectRunnableJobs externals _ dueCheckNow _
    · rintro (reserved | deferred)
      · obtain ⟨job, stored, runnable⟩ := mem_collectRunnableJobs (mem_of_waiting reserved)
        exact (tracks.file.load job stored).runnable holds runnable follows nofun
      · nomatch deferred

/-- The process ends: what the file tells is kept. -/
theorem Tracks.restart (tracks : Tracks Kind law jobId state) :
    Tracks Kind law jobId state.restart := by
  have forgets : Tracks Kind law jobId { state with store := none } :=
    { tracks with store := fun _ stored => nomatch stored }
  exact forgets.idle rfl rfl

theorem Tracks.clearMarkers (tracks : Tracks Kind law jobId state) :
    Tracks Kind law jobId state.clearMarkers := by
  refine (tracks.persistChanged ?_).idle rfl rfl
  exact tracks.loaded.mapValues fun _ kept => kept.marked rfl rfl rfl rfl rfl rfl rfl

/-- The catch-up ends: the results are applied, and the other jobs are deferred. -/
theorem Tracks.applyStartupCatchupOutcomes
    (holds : LawHolds externals config failoverReason Kind law) {start : CronServiceState}
    (tracks : Tracks Kind law jobId start) {runs : List CronRun} {deferredJobIds : List String}
    (isPhase : start.phase = .catchingUp runs deferredJobIds) {baseNow nowMs : ℤ}
    (read : start.reads [baseNow, nowMs] = some state) :
    Tracks Kind law jobId (state.applyStartupCatchupOutcomes externals config failoverReason runs
      deferredJobIds baseNow nowMs) := by
  obtain ⟨isState, -, within⟩ := CronServiceState.reads_spec read
  have base := within baseNow (List.mem_cons_self)
  have now := within nowMs (List.mem_cons_of_mem _ List.mem_cons_self)
  have sameLog : state.log = start.log := by rw [isState]
  have distinct := tracks.distinct
  have reserved := tracks.reserved
  rw [isPhase] at distinct reserved
  obtain ⟨applied, sameClock, sameLast⟩ :=
    (tracks.reads holds read).applying.applyOutcomes holds base.2 runs
  rw [← sameClock] at now
  have forward : 0 ≤ CronServiceState.staggerMs config := le_max_left 0 _
  refine applied.persist ?_ List.nodup_nil (by rintro (member | member) <;> nomatch member)
  refine StoreTracked.maintain holds ?_ applied.epoch now.2 false
  refine applied.loaded.deferJobs holds forward forward fun deferred => ?_
  have absent : jobId ∉ runs.map CronRun.jobId := fun member =>
    (List.nodup_append.1 distinct).2.2 jobId member jobId deferred rfl
  refine ((reserved (.inr deferred)).later holds base.1).congr ?_
  rw [sameLast absent, sameLog]

/-- A tick ends: its results are applied to the jobs as the file has them. -/
theorem Tracks.finishTick (holds : LawHolds externals config failoverReason Kind law)
    (tracks : Tracks Kind law jobId state) (runs : List CronRun) {alertNow nowMs : ℤ}
    (alertFollows : alertNow ≤ state.clock) (follows : nowMs ≤ state.clock) :
    Tracks Kind law jobId
      (state.finishTick externals config failoverReason runs alertNow nowMs) := by
  have reloaded : Applying Kind law jobId { state with store := some (loadCronStore state.file) } :=
    { tracks.applying with loaded := tracks.file.load }
  obtain ⟨applied, sameClock, -⟩ := reloaded.applyOutcomes holds alertFollows runs
  refine applied.persist ?_ List.nodup_nil (by rintro (member | member) <;> nomatch member)
  exact applied.loaded.maintain holds applied.epoch (follows.trans_eq sameClock.symm) false

/-- Runs that wait have been waiting. -/
theorem mem_setPhase_waiting {phase : RunPhase} {runs : List CronRun} (isOther : phase ≠ .waiting)
    (member : { jobId } ∈ CronServiceState.setPhase id phase runs) : { jobId } ∈ runs := by
  obtain ⟨run, isMember, same⟩ := List.mem_map.1 member
  split at same
  · exact absurd (CronRun.mk.inj same).2 isOther
  · exact same ▸ isMember

@[simp] theorem map_jobId_setPhase (id : String) (phase : RunPhase) (runs : List CronRun) :
    (CronServiceState.setPhase id phase runs).map CronRun.jobId = runs.map CronRun.jobId := by
  unfold CronServiceState.setPhase
  rw [List.map_map]
  refine List.map_congr_left fun run _ => ?_
  dsimp only [Function.comp_apply]
  split <;> rfl

/-- What starting a job does: it has waited, and a tick writes the time down in the store. -/
theorem startRun_cases {startedAt : ℤ} (started : state.startRun id startedAt = some next) :
    ({ jobId := id } : CronRun) ∈ state.phase.runs ∧
      next.phase.runs = CronServiceState.setPhase id (.executing startedAt) state.phase.runs ∧
      next.phase.deferred = state.phase.deferred ∧
      (next = { state with
        log := state.log ++ [.started id startedAt], phase := next.phase } ∨
      next = { state with
        store := state.store.map (updateJobs [id] (markStarted startedAt))
        log := state.log ++ [.started id startedAt], phase := next.phase }) := by
  unfold CronServiceState.startRun at started
  dsimp only at started
  split at started
  next runs isPhase =>
    obtain ⟨waits, isNext⟩ := Option.ite_none_right_eq_some.1 started
    obtain rfl := Option.some.inj isNext
    rw [isPhase]
    exact ⟨waits, rfl, rfl, .inr rfl⟩
  next runs deferredJobIds isPhase =>
    obtain ⟨waits, isNext⟩ := Option.ite_none_right_eq_some.1 started
    obtain rfl := Option.some.inj isNext
    rw [isPhase]
    exact ⟨List.mem_of_find?_eq_some waits, rfl, rfl, .inl rfl⟩
  next => nomatch started

/-- What ending an execution does. -/
theorem endRun_cases {startedAt endedAt : ℤ} {outcome : CronRunOutcome}
    (ended : state.endRun id startedAt outcome endedAt = some next) :
    ⟨id, .executing startedAt⟩ ∈ state.phase.runs ∧
      next.phase.runs = CronServiceState.setPhase id
        (.ended { outcome with startedAt, endedAt }) state.phase.runs ∧
      next.phase.deferred = state.phase.deferred ∧ next = { state with phase := next.phase } := by
  unfold CronServiceState.endRun at ended
  dsimp only at ended
  split at ended
  next runs isPhase =>
    obtain ⟨executes, isNext⟩ := Option.ite_none_right_eq_some.1 ended
    obtain rfl := Option.some.inj isNext
    rw [isPhase]
    exact ⟨executes, rfl, rfl, rfl⟩
  next runs deferredJobIds isPhase =>
    obtain ⟨executes, isNext⟩ := Option.ite_none_right_eq_some.1 ended
    obtain rfl := Option.some.inj isNext
    rw [isPhase]
    exact ⟨executes, rfl, rfl, rfl⟩
  next => nomatch ended

/-- A job is started where it may be. -/
theorem Tracks.startRun (tracks : Tracks Kind law jobId state) {startedAt : ℤ}
    (allowed : { jobId } ∈ state.phase.runs → AllowedAfter law jobId state.log startedAt)
    (started : state.startRun id startedAt = some next) : Tracks Kind law jobId next := by
  obtain ⟨waits, runs, deferred, isNext⟩ := startRun_cases started
  have sameLast : lastApplied jobId (state.log ++ [.started id startedAt]) =
      lastApplied jobId state.log := lastApplied_append_started jobId state.log id startedAt
  have distinct : (next.phase.runs.map CronRun.jobId ++ next.phase.deferred).Nodup := by
    rw [runs, deferred, map_jobId_setPhase]
    exact tracks.distinct
  have reserved : { jobId } ∈ next.phase.runs ∨ jobId ∈ next.phase.deferred →
      AllowedAfter law jobId (state.log ++ [.started id startedAt]) state.clock := by
    rw [runs, deferred]
    exact fun member => (tracks.reserved (member.imp_left (mem_setPhase_waiting (by nofun)))).congr
      sameLast
  have kept : EachEntry (EntryKept law jobId) (state.log ++ [.started id startedAt]) := by
    refine tracks.kept.append ?_
    rintro rfl
    exact allowed waits
  rcases isNext with isNext | isNext
  · rw [isNext]
    exact {
      epoch := tracks.epoch
      file := tracks.file.congr sameLast
      store := fun store stored => (tracks.store store stored).congr sameLast
      distinct, reserved, kept }
  · rw [isNext]
    exact {
      epoch := tracks.epoch
      file := tracks.file.congr sameLast
      store := by
        intro store stored
        obtain ⟨former, isFormer, rfl⟩ := Option.map_eq_some_iff.1 stored
        exact ((tracks.store former isFormer).mark startedAt).congr sameLast
      distinct, reserved, kept }

theorem Tracks.endRun (tracks : Tracks Kind law jobId state)
    {startedAt endedAt : ℤ} {outcome : CronRunOutcome}
    (ended : state.endRun id startedAt outcome endedAt = some next) :
    Tracks Kind law jobId next := by
  obtain ⟨-, runs, deferred, isNext⟩ := endRun_cases ended
  rw [isNext]
  exact { tracks with
    distinct := by
      dsimp only
      rw [runs, deferred, map_jobId_setPhase]
      exact tracks.distinct
    reserved := by
      dsimp only
      rw [runs, deferred]
      exact fun member => tracks.reserved (member.imp_left (mem_setPhase_waiting (by nofun))) }

end Sections

/-! ### Runs of the scheduler -/

section Runs

variable {externals : Externals} {config : SchedulerConfig}
  {failoverReason : String → Option String} {Kind : CronSchedule → Prop} {law : StartLaw}
  {jobId : String} {guard : CronServiceState → SchedulerEvent → Prop}

/-- The replay of slots keeps to a law in the runs under a guard. -/
def ReplaysKeep (externals : Externals) (Kind : CronSchedule → Prop) (law : StartLaw)
    (jobId : String) (guard : CronServiceState → SchedulerEvent → Prop) : Prop :=
  ∀ state nowMs job, guard state (.plan nowMs) → state.loaded.get jobId = some job →
    Tracked Kind law jobId state.log state.clock job → isReplayed externals nowMs job = true →
      AllowedAfter law jobId state.log nowMs

/-- One step keeps what is kept. -/
theorem Tracks.step (holds : LawHolds externals config failoverReason Kind law)
    (replays : ReplaysKeep externals Kind law jobId guard) {state next : CronServiceState}
    {event : SchedulerEvent} (tracks : Tracks Kind law jobId state) (admitted : guard state event)
    (taken : schedulerStep externals config failoverReason state event = some next) :
    Tracks Kind law jobId next := by
  cases event with
  | restart => exact Option.some.inj taken ▸ tracks.restart
  | clearMarkers =>
    unfold schedulerStep at taken
    dsimp only at taken
    split at taken
    · exact Option.some.inj taken ▸ tracks.clearMarkers
    · nomatch taken
  | plan nowMs =>
    unfold schedulerStep at taken
    dsimp only at taken
    split at taken
    · obtain ⟨middle, read, rfl⟩ := Option.map_eq_some_iff.1 taken
      obtain ⟨isMiddle, -, within⟩ := CronServiceState.reads_spec read
      refine (tracks.reads holds read).planStartupCatchup holds _
        (within nowMs List.mem_cons_self).2 fun job stored replayed => ?_
      rw [isMiddle] at stored ⊢
      exact replays state nowMs job admitted stored (tracks.loaded job stored) replayed
    · nomatch taken
  | finishCatchup baseNow nowMs =>
    unfold schedulerStep at taken
    dsimp only at taken
    split at taken
    next runs deferredJobIds isPhase =>
      obtain ⟨-, isNext⟩ := Option.ite_none_right_eq_some.1 taken
      obtain ⟨middle, read, rfl⟩ := Option.map_eq_some_iff.1 isNext
      exact tracks.applyStartupCatchupOutcomes holds isPhase read
    next => nomatch taken
  | finishStart nowMs =>
    unfold schedulerStep at taken
    dsimp only at taken
    split at taken
    · obtain ⟨middle, read, rfl⟩ := Option.map_eq_some_iff.1 taken
      obtain ⟨-, -, within⟩ := CronServiceState.reads_spec read
      have reads := tracks.reads holds read
      refine (reads.persistChanged ?_).idle rfl rfl
      exact reads.loaded.recompute holds reads.epoch (within nowMs List.mem_cons_self).2
    · nomatch taken
  | tick dueCheckNow nowMs =>
    unfold schedulerStep at taken
    dsimp only at taken
    split at taken
    · obtain ⟨middle, read, rfl⟩ := Option.map_eq_some_iff.1 taken
      obtain ⟨-, -, within⟩ := CronServiceState.reads_spec read
      exact (tracks.reads holds read).beginTick holds (within dueCheckNow List.mem_cons_self).2 nowMs
    · nomatch taken
  | finishTick alertNow nowMs =>
    unfold schedulerStep at taken
    dsimp only at taken
    split at taken
    next runs isPhase =>
      obtain ⟨-, isNext⟩ := Option.ite_none_right_eq_some.1 taken
      obtain ⟨middle, read, rfl⟩ := Option.map_eq_some_iff.1 isNext
      obtain ⟨-, -, within⟩ := CronServiceState.reads_spec read
      exact (tracks.reads holds read).finishTick holds runs (within alertNow List.mem_cons_self).2
        (within nowMs (List.mem_cons_of_mem _ List.mem_cons_self)).2
    next => nomatch taken
  | startRun id startedAt =>
    obtain ⟨middle, read, started⟩ := Option.bind_eq_some_iff.1 taken
    obtain ⟨isMiddle, -, within⟩ := CronServiceState.reads_spec read
    refine (tracks.reads holds read).startRun (fun waits => ?_) started
    rw [isMiddle] at waits ⊢
    exact (tracks.reserved (.inl waits)).later holds (within startedAt List.mem_cons_self).1
  | endRun id startedAt outcome endedAt =>
    obtain ⟨middle, read, ended⟩ := Option.bind_eq_some_iff.1 taken
    exact (tracks.reads holds read).endRun ended
  | read nowMs =>
    obtain ⟨middle, read, rfl⟩ := Option.map_eq_some_iff.1 taken
    obtain ⟨-, -, within⟩ := CronServiceState.reads_spec read
    have reads := tracks.reads holds read
    exact reads.persistChanged (reads.loaded.maintain holds reads.epoch
      (within nowMs List.mem_cons_self).2 false)

/-- Every start of a job is allowed by the log before it, in every run. -/
theorem Tracks.run (holds : LawHolds externals config failoverReason Kind law)
    (replays : ReplaysKeep externals Kind law jobId guard) {start final : CronServiceState}
    {events : List SchedulerEvent} (tracks : Tracks Kind law jobId start)
    (run : Steps (schedulerStep externals config failoverReason) guard start events final) :
    Tracks Kind law jobId final :=
  run.invariant (fun _ _ _ held admitted taken => held.step holds replays admitted taken) tracks

/-- The service before its first start. -/
def CronServiceState.fresh (file : CronStore) (clock : ℤ) : CronServiceState := { file, clock }

theorem Tracks.fresh {file : CronStore} {clock : ℤ} (epoch : 0 ≤ clock)
    (kind : ∀ job, file.get jobId = some job → Kind job.schedule) :
    Tracks Kind law jobId (.fresh file clock) where
  epoch := epoch
  file job stored := {
    kind := kind job stored
    noted := nofun
    ready := fun _ => .inl nofun }
  store := nofun
  distinct := List.nodup_nil
  reserved := by rintro (member | member) <;> nomatch member
  kept := .nil

end Runs

end OpenClaw.Cron
