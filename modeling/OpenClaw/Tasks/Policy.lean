/-
This file is `task-executor-policy.ts`: which updates of a task are delivered
automatically, and the texts they are delivered with.
-/

import OpenClaw.Tasks.World

namespace OpenClaw.Tasks

open Text

/-! ### Texts -/

/-- `resolveTaskDisplayTitle`. -/
def resolveTaskDisplayTitle (env : Env) (task : TaskRecord) : String :=
  env.formatTaskStatusTitleText <|
    match normalizeOptionalString task.label with
    | some label => label
    | none => match task.runtime with
      | .acp => "ACP background task"
      | .subagent => "Subagent task"
      | .cli | .cron => (nonEmpty (some (trim task.task))).getD "Background task"

/-- `resolveTaskRunLabel`. -/
def resolveTaskRunLabel (task : TaskRecord) : String :=
  match nonEmpty task.runId with
  | some runId => " (run " ++ String.ofList (runId.toList.take 8) ++ ")"
  | none => ""

/-- `formatTaskTerminalMessage`. -/
def formatTaskTerminalMessage (env : Env) (task : TaskRecord) : String :=
  let title := resolveTaskDisplayTitle env task
  let runLabel := resolveTaskRunLabel task
  let withDetail (head detail : String) : String :=
    if detail = "" then head ++ title ++ runLabel ++ "."
    else head ++ title ++ runLabel ++ ". " ++ detail
  let summary := env.sanitizeTaskStatusText task.terminalSummary
    (task.status ≠ .succeeded || task.terminalOutcome = some .blocked)
  let error := env.sanitizeTaskStatusText task.error true
  let fallbackSummary := env.sanitizeTaskStatusText task.terminalSummary true
  match task.status with
  | .succeeded =>
    if task.terminalOutcome = some .blocked then withDetail "Background task blocked: " summary
    else withDetail "Background task done: " summary
  | .timedOut => withDetail "Background task timed out: " ""
  | .lost =>
    withDetail "Background task lost: " <|
      if error ≠ "" then error
      else if fallbackSummary ≠ "" then fallbackSummary
      else "Backing session disappeared."
  | .cancelled => withDetail "Background task cancelled: " ""
  | .queued | .running | .failed =>
    withDetail "Background task failed: " (if error ≠ "" then error else fallbackSummary)

/-- `formatTaskBlockedFollowupMessage`. -/
def formatTaskBlockedFollowupMessage (env : Env) (task : TaskRecord) : Option String :=
  if task.status ≠ .succeeded ∨ task.terminalOutcome ≠ some .blocked then none
  else
    let summary := env.sanitizeTaskStatusText task.terminalSummary true
    some ("Task needs follow-up: " ++ resolveTaskDisplayTitle env task ++
      resolveTaskRunLabel task ++ ". " ++
      (if summary ≠ "" then summary else "Task is blocked and needs follow-up."))

/-- `formatTaskStateChangeMessage`. -/
def formatTaskStateChangeMessage (env : Env) (task : TaskRecord) (event : TaskEventRecord) :
    Option String :=
  let title := resolveTaskDisplayTitle env task
  match event.kind with
  | .status .running => some ("Background task started: " ++ title ++ ".")
  | .progress =>
    let summary := env.sanitizeTaskStatusText event.summary false
    if summary ≠ "" then some ("Background task update: " ++ title ++ ". " ++ summary) else none
  | .status _ => none

/-! ### Decisions -/

/-- `shouldAutoDeliverTaskTerminalUpdate`. -/
def shouldAutoDeliverTaskTerminalUpdate (task : TaskRecord) : Bool :=
  task.notifyPolicy ≠ .silent &&
    !(task.runtime = .subagent && task.status ≠ .cancelled) &&
    isTerminalTaskStatus task.status && task.deliveryStatus = .pending

/-- `shouldAutoDeliverTaskStateChange`. -/
def shouldAutoDeliverTaskStateChange (task : TaskRecord) : Bool :=
  task.notifyPolicy = .stateChanges && task.deliveryStatus = .pending &&
    !isTerminalTaskStatus task.status

/-- `shouldSuppressDuplicateTerminalDelivery`. -/
def shouldSuppressDuplicateTerminalDelivery (task : TaskRecord)
    (preferredTaskId : Option String) : Bool :=
  if task.runtime ≠ .acp ∨ (normalizeOptionalString task.runId).isNone then false
  else match nonEmpty preferredTaskId with
    | some preferredTaskId => preferredTaskId ≠ task.taskId
    | none => false

end OpenClaw.Tasks
