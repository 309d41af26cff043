/-
This file says when an update of a cron job that fails leaves the store as it was: the patch has
assigned nothing before the check that throws, or nothing but what the job already has.

The checks stand between the assignments, so most updates that fail leave a part of the patch in
memory, which the next operation persists. The stage at which an update fails says what must have
been there before.
-/

import OpenClaw.Cron.AppliedResults
import OpenClaw.Cron.Patches

namespace OpenClaw.Cron

open Edits

/-! ### Stages -/

/-- The checks of an update, in their order. -/
inductive UpdateStage
  | name | payload | target | support | webhook | schedule
  deriving DecidableEq

section Stages

variable (externals : Externals) (toLowerCase : String → String)
  (urlProtocol : String → Option String) (patch : CronJobPatch) (defaultAgentId : Option String)
  (nowMs : ℤ) (job : CronJob)

/-- What a patch assigns behind the payload. -/
def CronJobPatch.assignTail : CronJob := patch.assignRest toLowerCase (patch.assignDelivery job)

/-- What is checked once all of the patch is assigned, but for a failure destination. -/
def assertSupport : Except String CronJob := do
  assertSupportedJobSpec job
  assertMainSessionAgentId toLowerCase defaultAgentId job
  assertDeliverySupport urlProtocol job

/-- The check that an update fails at, if it fails. -/
def failingStage : Option UpdateStage :=
  match patch.assignName job with
  | .error _ => some .name
  | .ok named =>
    match patch.assignPayload (patch.assignBasics externals named) with
    | .error _ => some .payload
    | .ok paid =>
      match assertFailureDestinationTarget (patch.assignDelivery paid) with
      | .error _ => some .target
      | .ok _ =>
        match assertSupport toLowerCase urlProtocol defaultAgentId
            (patch.assignTail toLowerCase paid) with
        | .error _ => some .support
        | .ok supported =>
          match assertFailureDestinationSupport urlProtocol supported with
          | .error _ => some .webhook
          | .ok checked =>
            match scheduleUpdated externals patch nowMs
                { setEveryAnchor patch nowMs checked with updatedAtMs := nowMs } with
            | .error _ => some .schedule
            | .ok _ => none

/-- The name and the basics of a patch are what a job already has. -/
structure CronJobPatch.AgreesFirst : Prop where
  name : patch.assignName job = .ok job
  basics : patch.assignBasics externals job = job

/-- And so is its payload. -/
structure CronJobPatch.AgreesPaid : Prop extends patch.AgreesFirst externals job where
  payload : patch.assignPayload job = .ok job

/-- What is assigned before a stage is what the job already has. -/
def CronJobPatch.AgreesBefore : UpdateStage → Prop
  | .name => True
  | .payload => patch.AgreesFirst externals job
  | .target => patch.AgreesPaid externals job ∧ patch.assignDelivery job = job
  | .support => patch.AgreesPaid externals job ∧ patch.assignTail toLowerCase job = job
  | .webhook => patch.AgreesPaid externals job ∧
      assertSupport toLowerCase urlProtocol defaultAgentId (patch.assignTail toLowerCase job) =
        .ok job
  | .schedule => patch.AgreesPaid externals job ∧
      (assertSupport toLowerCase urlProtocol defaultAgentId (patch.assignTail toLowerCase job) >>=
        assertFailureDestinationSupport urlProtocol) = .ok job ∧ job.updatedAtMs = nowMs

end Stages

/-! ### What an assignment leaves alone -/

/-- The fields that are assigned up to the payload. -/
structure PatchedCore where
  name : String
  description : Option String
  enabled : Option Bool
  deleteAfterRun : Option Bool
  schedule : CronSchedule
  sessionTarget : CronSessionTarget
  wakeMode : CronWakeMode
  payload : CronPayload

def CronJob.core (job : CronJob) : PatchedCore :=
  { job with }

/-- A job with other fields up to the payload. -/
def CronJob.withCore (job : CronJob) (core : PatchedCore) : CronJob := { job with
  name := core.name
  description := core.description
  enabled := core.enabled
  deleteAfterRun := core.deleteAfterRun
  schedule := core.schedule
  sessionTarget := core.sessionTarget
  wakeMode := core.wakeMode
  payload := core.payload }

section Assignments

variable {externals : Externals} {toLowerCase : String → String}
  {urlProtocol : String → Option String} {patch : CronJobPatch} {defaultAgentId : Option String}
  {nowMs : ℤ} {job named paid : CronJob}

theorem assignName_eq_ok (isNamed : patch.assignName job = .ok named) :
    named = { job with name := named.name } := by
  unfold CronJobPatch.assignName at isNamed
  split at isNamed
  · obtain rfl := Except.ok.inj isNamed
    rfl
  next raw _ =>
    cases required : normalizeRequiredName raw with
    | error err => rw [required] at isNamed; nomatch isNamed
    | ok name =>
      rw [required] at isNamed
      exact (Except.ok.inj isNamed).symm ▸ rfl

theorem assignPayload_eq_ok (isPaid : patch.assignPayload job = .ok paid) :
    paid = { job with payload := paid.payload } := by
  unfold CronJobPatch.assignPayload at isPaid
  split at isPaid
  · obtain rfl := Except.ok.inj isPaid
    rfl
  next payload _ =>
    cases merged : mergeCronPayload job.payload payload with
    | error err => rw [merged] at isPaid; nomatch isPaid
    | ok payload =>
      rw [merged] at isPaid
      exact (Except.ok.inj isPaid).symm ▸ rfl

theorem assertDeliverySupport_core {checked : CronJob}
    (isChecked : assertDeliverySupport urlProtocol job = .ok checked) :
    checked.core = job.core ∧ checked.updatedAtMs = job.updatedAtMs := by
  unfold assertDeliverySupport at isChecked
  split at isChecked
  · exact Except.ok.inj isChecked ▸ ⟨rfl, rfl⟩
  · split at isChecked
    · exact Except.ok.inj isChecked ▸ ⟨rfl, rfl⟩
    · split at isChecked
      · nomatch isChecked
      · exact Except.ok.inj isChecked ▸ ⟨rfl, rfl⟩
    · split at isChecked
      · nomatch isChecked
      · exact Except.ok.inj isChecked ▸ ⟨rfl, rfl⟩

theorem assertFailureDestinationSupport_core {checked : CronJob}
    (isChecked : assertFailureDestinationSupport urlProtocol job = .ok checked) :
    checked.core = job.core ∧ checked.updatedAtMs = job.updatedAtMs := by
  unfold assertFailureDestinationSupport at isChecked
  split at isChecked
  · exact Except.ok.inj isChecked ▸ ⟨rfl, rfl⟩
  · split at isChecked
    · exact Except.ok.inj isChecked ▸ ⟨rfl, rfl⟩
    · split at isChecked
      · nomatch isChecked
      · split at isChecked
        · split at isChecked
          · nomatch isChecked
          · exact Except.ok.inj isChecked ▸ ⟨rfl, rfl⟩
        · exact Except.ok.inj isChecked ▸ ⟨rfl, rfl⟩

theorem updatedAtMs_of_paid (isNamed : patch.assignName job = .ok named)
    (isPaid : patch.assignPayload (patch.assignBasics externals named) = .ok paid) :
    paid.updatedAtMs = job.updatedAtMs := by
  rw [assignPayload_eq_ok isPaid, assignName_eq_ok isNamed]
  rfl

/-- The name and the basics are the job's where both together are. -/
theorem agreesFirst_iff (isNamed : patch.assignName job = .ok named) :
    patch.assignBasics externals named = job ↔ patch.AgreesFirst externals job := by
  constructor
  · intro same
    have sameName : (patch.assignBasics externals named).name = job.name := by rw [same]
    have isJob : named = job := by
      rw [assignName_eq_ok isNamed, show named.name = job.name from sameName]
    rw [isJob] at isNamed same
    exact ⟨isNamed, same⟩
  · rintro ⟨name, basics⟩
    obtain rfl := Except.ok.inj (name.symm.trans isNamed)
    exact basics

/-- What is assigned up to the payload agrees with the job where it gives the same fields. -/
theorem agreesPaid_of_core (isNamed : patch.assignName job = .ok named)
    (isPaid : patch.assignPayload (patch.assignBasics externals named) = .ok paid)
    (core : paid.core = job.core) : paid = job ∧ patch.AgreesPaid externals job := by
  have onlyPayload := assignPayload_eq_ok isPaid
  have onlyName := assignName_eq_ok isNamed
  have isWithCore : paid = job.withCore paid.core := by
    rw [onlyPayload, onlyName]
    rfl
  have isJob : paid = job := by
    rw [isWithCore, core]
    rfl
  have isBase : patch.assignBasics externals named = job := by
    have samePayload : (patch.assignBasics externals named).payload = job.payload := by
      rw [onlyName]
      rfl
    have fromPaid : patch.assignBasics externals named =
        { paid with payload := (patch.assignBasics externals named).payload } := by
      rw [onlyPayload]
    rw [fromPaid, samePayload, isJob]
  rw [isBase, isJob] at isPaid
  exact ⟨isJob, { (agreesFirst_iff isNamed).1 isBase with payload := isPaid }⟩

/-- Where they agree, nothing has been assigned up to the payload. -/
theorem CronJobPatch.AgreesPaid.same (agrees : patch.AgreesPaid externals job)
    (isNamed : patch.assignName job = .ok named)
    (isPaid : patch.assignPayload (patch.assignBasics externals named) = .ok paid) :
    paid = job := by
  rw [(agreesFirst_iff isNamed).2 agrees.toAgreesFirst, agrees.payload] at isPaid
  exact (Except.ok.inj isPaid).symm

/-- What is assigned behind the payload, in whatever form, agrees with the job exactly where both
parts do. -/
theorem agreesTail_iff (isNamed : patch.assignName job = .ok named)
    (isPaid : patch.assignPayload (patch.assignBasics externals named) = .ok paid)
    (tail : CronJob → Except String CronJob) {left : CronJob} (isLeft : tail paid = .ok left)
    (keeps : left.core = paid.core) :
    left = job ↔ patch.AgreesPaid externals job ∧ tail job = .ok job := by
  constructor
  · intro same
    obtain ⟨isJob, agrees⟩ := agreesPaid_of_core isNamed isPaid (keeps.symm.trans (same ▸ rfl))
    rw [isJob, same] at isLeft
    exact ⟨agrees, isLeft⟩
  · rintro ⟨agrees, tailSame⟩
    rw [agrees.same isNamed isPaid] at isLeft
    exact (Except.ok.inj (tailSame.symm.trans isLeft)).symm

theorem agreesAssigned_iff (isNamed : patch.assignName job = .ok named)
    (isPaid : patch.assignPayload (patch.assignBasics externals named) = .ok paid)
    (assign : CronJob → CronJob) (keeps : (assign paid).core = paid.core) :
    assign paid = job ↔ patch.AgreesPaid externals job ∧ assign job = job := by
  have iff : assign paid = job ↔
      patch.AgreesPaid externals job ∧ (.ok (assign job) : Except String CronJob) = .ok job :=
    agreesTail_iff isNamed isPaid (fun job => .ok (assign job)) rfl keeps
  rwa [Except.ok.injEq] at iff

end Assignments

/-! ### Updates that fail -/

section Updates

variable {externals : Externals} {toLowerCase : String → String}
  {urlProtocol : String → Option String} {patch : CronJobPatch} {defaultAgentId : Option String}
  {nowMs : ℤ} {job : CronJob}

theorem assertSupport_eq (toLowerCase : String → String) (urlProtocol : String → Option String)
    (defaultAgentId : Option String) (job : CronJob) :
    assertSupport toLowerCase urlProtocol defaultAgentId job =
      match assertSupportedJobSpec job with
      | .error err => .error err
      | .ok _ => match assertMainSessionAgentId toLowerCase defaultAgentId job with
        | .error err => .error err
        | .ok _ => assertDeliverySupport urlProtocol job := by
  unfold assertSupport
  cases assertSupportedJobSpec job with
  | error err => rfl
  | ok _ => cases assertMainSessionAgentId toLowerCase defaultAgentId job <;> rfl

/-- The last checks but one, taken together. -/
theorem supportChecks_iff {Fails : Prop} {Passes : CronJob → Prop} :
    ((∀ err, assertSupportedJobSpec job = .error err → Fails) ∧
      (assertSupportedJobSpec job = .ok () →
        (∀ err, assertMainSessionAgentId toLowerCase defaultAgentId job = .error err → Fails) ∧
          (assertMainSessionAgentId toLowerCase defaultAgentId job = .ok () →
            (∀ err, assertDeliverySupport urlProtocol job = .error err → Fails) ∧
              ∀ checked, assertDeliverySupport urlProtocol job = .ok checked →
                Passes checked))) ↔
    (∀ err, assertSupport toLowerCase urlProtocol defaultAgentId job = .error err → Fails) ∧
      ∀ checked, assertSupport toLowerCase urlProtocol defaultAgentId job = .ok checked →
        Passes checked := by
  rw [assertSupport_eq]
  cases assertSupportedJobSpec job with
  | error err => simp
  | ok _ =>
    cases assertMainSessionAgentId toLowerCase defaultAgentId job with
    | error err => simp
    | ok _ => simp

theorem assertSupport_core {checked : CronJob}
    (isChecked : assertSupport toLowerCase urlProtocol defaultAgentId job = .ok checked) :
    checked.core = job.core ∧ checked.updatedAtMs = job.updatedAtMs := by
  rw [assertSupport_eq] at isChecked
  split at isChecked
  · nomatch isChecked
  · split at isChecked
    · nomatch isChecked
    · exact assertDeliverySupport_core isChecked

/-- Computing the next run only fails for cron expressions. -/
theorem isCron_of_scheduleUpdated {err : String}
    (failed : scheduleUpdated externals patch nowMs job = .error err) :
    job.schedule.isCron = true := by
  refine Bool.of_not_eq_false fun notCron => ?_
  obtain ⟨next, computed⟩ := computeJobNextRunAtMs_ok externals notCron nowMs
  unfold scheduleUpdated at failed
  rw [computed] at failed
  dsimp only [Except.map] at failed
  split at failed
  · split at failed <;> simp only [reduceCtorEq] at failed
  · split at failed <;> simp only [reduceCtorEq] at failed

/-- Only interval jobs get an anchor. -/
theorem setEveryAnchor_of_isCron
    (isCron : (setEveryAnchor patch nowMs job).schedule.isCron = true) :
    setEveryAnchor patch nowMs job = job := by
  unfold setEveryAnchor at isCron ⊢
  split at isCron
  · rfl
  · nomatch isCron
  · rfl

/-- An update leaves the job as it was where it fails, exactly where what it has assigned before
is what the job already has. -/
theorem updateJob_failsTo_iff :
    FailsTo (updateJob externals toLowerCase urlProtocol patch defaultAgentId nowMs) job job ↔
      ∀ stage, failingStage externals toLowerCase urlProtocol patch defaultAgentId nowMs job =
        some stage → patch.AgreesBefore externals toLowerCase urlProtocol defaultAgentId nowMs job
          stage := by
  unfold updateJob applyJobPatch failingStage
  simp only [bind_assoc, failsTo_check_bind, failsTo_modify_bind, failsTo_require_bind,
    failsTo_check, supportChecks_iff]
  cases isNamed : patch.assignName job with
  | error err => simp [CronJobPatch.AgreesBefore]
  | ok named =>
    simp only [Except.ok.injEq, forall_eq', reduceCtorEq, IsEmpty.forall_iff, implies_true,
      true_and]
    cases isPaid : patch.assignPayload (patch.assignBasics externals named) with
    | error err =>
      simp only [Except.error.injEq, forall_eq', reduceCtorEq, IsEmpty.forall_iff, implies_true,
        and_true, Option.some.injEq]
      exact agreesFirst_iff isNamed
    | ok paid =>
      simp only [Except.ok.injEq, forall_eq', reduceCtorEq, IsEmpty.forall_iff, implies_true,
        true_and]
      cases target : assertFailureDestinationTarget (patch.assignDelivery paid) with
      | error err =>
        simp only [Except.error.injEq, forall_eq', reduceCtorEq, IsEmpty.forall_iff, and_true,
          Option.some.injEq]
        exact agreesAssigned_iff isNamed isPaid patch.assignDelivery rfl
      | ok _ =>
        simp only [forall_const, reduceCtorEq, IsEmpty.forall_iff, true_and]
        have isTail : patch.assignRest toLowerCase (patch.assignDelivery paid) =
            patch.assignTail toLowerCase paid := rfl
        rw [isTail]
        cases support : assertSupport toLowerCase urlProtocol defaultAgentId
            (patch.assignTail toLowerCase paid) with
        | error err =>
          simp only [Except.error.injEq, forall_eq', reduceCtorEq, IsEmpty.forall_iff,
            implies_true, and_true, Option.some.injEq]
          exact agreesAssigned_iff isNamed isPaid (patch.assignTail toLowerCase) rfl
        | ok supported =>
          obtain ⟨supportCore, supportTime⟩ := assertSupport_core support
          simp only [Except.ok.injEq, forall_eq', reduceCtorEq, IsEmpty.forall_iff, implies_true,
            true_and]
          cases webhook : assertFailureDestinationSupport urlProtocol supported with
          | error err =>
            simp only [Except.error.injEq, forall_eq', reduceCtorEq, IsEmpty.forall_iff,
              implies_true, and_true, Option.some.injEq]
            exact agreesTail_iff isNamed isPaid (fun job => assertSupport toLowerCase urlProtocol
              defaultAgentId (patch.assignTail toLowerCase job)) support supportCore
          | ok checked =>
            obtain ⟨checkedCore, checkedTime⟩ := assertFailureDestinationSupport_core webhook
            simp only [Except.ok.injEq, forall_eq', reduceCtorEq, IsEmpty.forall_iff,
              implies_true, true_and]
            cases schedule : scheduleUpdated externals patch nowMs
                { setEveryAnchor patch nowMs checked with updatedAtMs := nowMs } with
            | ok left => simp only [reduceCtorEq, IsEmpty.forall_iff, implies_true]
            | error err =>
              simp only [Except.error.injEq, forall_eq', Option.some.injEq]
              have isCron : (setEveryAnchor patch nowMs checked).schedule.isCron = true :=
                (isCron_of_scheduleUpdated schedule :)
              rw [setEveryAnchor_of_isCron isCron]
              have tail : checked = job ↔ _ := agreesTail_iff isNamed isPaid
                (fun job => assertSupport toLowerCase urlProtocol defaultAgentId
                  (patch.assignTail toLowerCase job) >>= assertFailureDestinationSupport urlProtocol)
                (by rw [support]; exact webhook) (checkedCore.trans supportCore)
              have paidTime : supported.updatedAtMs = paid.updatedAtMs := supportTime
              have sameTime : checked.updatedAtMs = job.updatedAtMs :=
                (checkedTime.trans paidTime).trans (updatedAtMs_of_paid isNamed isPaid)
              refine Iff.trans ⟨fun same => ?_, fun both => ?_⟩
                ((and_congr_left' tail).trans and_assoc)
              · have isNow : nowMs = job.updatedAtMs := congrArg CronJob.updatedAtMs same
                refine ⟨?_, isNow.symm⟩
                rw [← same, isNow, ← sameTime]
              · rw [both.1, ← both.2]

/-- An update that fails leaves the store as it was, exactly where what it has assigned to the
job before the check that fails is what the job already has. -/
theorem update_is_atomic_iff (externals : Externals) (toLowerCase : String → String)
    (urlProtocol : String → Option String) (store : CronStore) (id : String)
    (patch : CronJobPatch) (defaultAgentId : Option String) (nowMs : ℤ) :
    (∀ err, (update externals toLowerCase urlProtocol store id patch defaultAgentId nowMs).1 =
      .error err →
        (update externals toLowerCase urlProtocol store id patch defaultAgentId nowMs).2 = store) ↔
    ∀ job, store.get id = some job → ∀ stage,
      failingStage externals toLowerCase urlProtocol patch defaultAgentId nowMs job = some stage →
        patch.AgreesBefore externals toLowerCase urlProtocol defaultAgentId nowMs job stage := by
  unfold update
  cases stored : store.get id with
  | none => simp only [reduceCtorEq, IsEmpty.forall_iff, implies_true]
  | some job =>
    simp only [Option.some.injEq, forall_eq']
    rw [← updateJob_failsTo_iff]
    unfold FailsTo
    cases (updateJob externals toLowerCase urlProtocol patch defaultAgentId nowMs).run job with
    | ok _ left => simp only [reduceCtorEq, IsEmpty.forall_iff, implies_true]
    | error err left =>
      have setsBack : store.set id left = store ↔ left = job := by
        refine ⟨fun same => ?_, fun same => ?_⟩
        · have found := store.get_set_self id left
          rw [same, stored] at found
          exact (Option.some.inj found).symm
        · rw [same]
          exact store.set_eq_self stored
      simp only [Except.error.injEq, forall_eq', EStateM.Result.error.injEq, and_imp, setsBack]
      exact ⟨fun same _ _ _ isLeft => isLeft ▸ same, fun same => same err left rfl rfl⟩

end Updates

/-! ### A payload without a text -/

def isolatedStore : CronStore := (∅ : CronStore).set "report" {
  id := "report"
  name := "report"
  schedule := .every (some (.number 3600000)) (some (.number 0))
  sessionTarget := .isolated
  payload := .agentTurn { message := "report" } }

/-- A patch that disables a job and is refused for its payload. -/
def refusedPatch : CronJobPatch where
  enabled := some false
  payload := some (.systemEvent none)

/-- The update is refused, and the job is disabled in memory. -/
theorem refused_update_disables :
    ¬ ∀ externals toLowerCase urlProtocol (store : CronStore) id patch defaultAgentId nowMs err,
      (update externals toLowerCase urlProtocol store id patch defaultAgentId nowMs).1 =
        .error err →
      (update externals toLowerCase urlProtocol store id patch defaultAgentId nowMs).2 = store := by
  intro always
  have same := always endedExternals id (fun _ => none) isolatedStore "report" refusedPatch none
    60000 _ rfl
  have before : (isolatedStore.get "report").map isJobEnabled = some true := by decide +kernel
  rw [← same] at before
  exact absurd before (by decide +kernel)

end OpenClaw.Cron
