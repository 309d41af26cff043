/-
This file is the gateway's exec approvals: the requests that register them, the manager that keeps
them, and the filter that every forwarded `system.run` goes through.

The parameters of a request are JSON. How other values than strings read as strings, how keys
compare, the digest of the env entries and the validation of a command that has no plan are left
open. What only the approval prompt shows is left out. Beside the source stand the registrations,
what has become of each, and the forwarded requests, all told by the steps.
-/

import OpenClaw.Base.OrderedMap
import OpenClaw.Base.Steps
import OpenClaw.Shared.Text

namespace OpenClaw.Approval

open Text

/-! ### JSON -/

inductive Json
  | null
  | bool (value : Bool)
  | num (value : ℚ)
  | str (value : String)
  | arr (items : List Json)
  | obj (fields : List (String × Json))

/-- A field of an object, if it is there. -/
def Json.field : Json → String → Option Json
  | .obj fields, key => fields.lookup key
  | _, _ => none

/-- `value === true`. -/
def isTrue : Option Json → Bool
  | some (.bool value) => value
  | _ => false

/-- `normalizeNonEmptyString`, and `normalizeNullableString`. -/
def normalizeNonEmptyString : Option Json → Option String
  | some (.str text) => normalizeOptionalString (some text)
  | _ => none

/-- A string or null. -/
def orNull (text : Option String) : Json := (text.map Json.str).getD .null

variable (stringOf : Json → String)

def normalizeStringArray : Option Json → List String
  | some (.arr items) => items.map stringOf
  | _ => []

/-! ### Plans -/

structure SystemRunApprovalFileOperand where
  argvIndex : ℕ
  path : String
  sha256 : String
  deriving DecidableEq

structure SystemRunApprovalPlan where
  argv : List String
  cwd : Option String
  commandText : String
  commandPreview : Option String
  agentId : Option String
  sessionKey : Option String
  mutableFileOperand : Option SystemRunApprovalFileOperand
  deriving DecidableEq

/-- `normalizeSystemRunApprovalFileOperand`; the outer `none` is an operand that is malformed. -/
def normalizeSystemRunApprovalFileOperand :
    Option Json → Option (Option SystemRunApprovalFileOperand)
  | none => some none
  | some (.obj fields) =>
    let candidate := Json.obj fields
    match candidate.field "argvIndex", normalizeNonEmptyString (candidate.field "path"),
      normalizeNonEmptyString (candidate.field "sha256") with
    | some (.num index), some path, some sha256 =>
      if index.den = 1 ∧ 0 ≤ index.num then some (some ⟨index.num.toNat, path, sha256⟩) else none
    | _, _, _ => none
  | some _ => none

def normalizeSystemRunApprovalPlan : Option Json → Option SystemRunApprovalPlan
  | some (.obj fields) =>
    let candidate := Json.obj fields
    let argv := normalizeStringArray stringOf (candidate.field "argv")
    let commandText := (normalizeNonEmptyString (candidate.field "commandText")).or
      (normalizeNonEmptyString (candidate.field "rawCommand"))
    match argv, normalizeSystemRunApprovalFileOperand (candidate.field "mutableFileOperand"),
      commandText with
    | first :: rest, some mutableFileOperand, some commandText => some {
        argv := first :: rest
        cwd := normalizeNonEmptyString (candidate.field "cwd")
        commandText
        commandPreview := normalizeNonEmptyString (candidate.field "commandPreview")
        agentId := normalizeNonEmptyString (candidate.field "agentId")
        sessionKey := normalizeNonEmptyString (candidate.field "sessionKey")
        mutableFileOperand }
    | _, _, _ => none
  | _ => none

def SystemRunApprovalFileOperand.toJson (operand : SystemRunApprovalFileOperand) : Json :=
  .obj [("argvIndex", .num operand.argvIndex), ("path", .str operand.path),
    ("sha256", .str operand.sha256)]

/-- A plan as the value it is. -/
def SystemRunApprovalPlan.toJson (plan : SystemRunApprovalPlan) : Json :=
  .obj ([("argv", .arr (plan.argv.map .str)), ("cwd", orNull plan.cwd),
    ("commandText", .str plan.commandText), ("commandPreview", orNull plan.commandPreview),
    ("agentId", orNull plan.agentId), ("sessionKey", orNull plan.sessionKey)] ++
      (plan.mutableFileOperand.map fun operand => ("mutableFileOperand", operand.toJson)).toList)

/-! ### Env overrides -/

/-- `/^[A-Za-z_][A-Za-z0-9_()]*$/`, which holds of all portable keys. -/
def isOverrideKey : List Char → Bool
  | [] => false
  | first :: rest => (first.isAlpha || first = '_') &&
      rest.all fun character => character.isAlphanum || character = '_' || character = '(' ||
        character = ')'

def normalizeHostOverrideEnvVarKey (rawKey : String) : Option String :=
  let key := trim rawKey
  if isOverrideKey key.toList then some key else none

/-- The entries of an env in order, with their keys normalised; others are skipped. -/
def envEntries : Option Json → List (String × String)
  | some (.obj fields) => fields.filterMap fun entry => match entry.2 with
    | .str value => (normalizeHostOverrideEnvVarKey entry.1).map fun key => (key, value)
    | _ => none
  | _ => []

variable {Digest : Type} (keyLe : String → String → Bool) (digest : List (String × String) → Digest)

def normalizeSystemRunEnvEntries (env : Option Json) : List (String × String) :=
  (envEntries env).mergeSort fun first second => keyLe first.1 second.1

/-- `hashSystemRunEnvEntries`. -/
def envHash (env : Option Json) : Option Digest :=
  let entries := normalizeSystemRunEnvEntries keyLe env
  if entries = [] then none else some (digest entries)

/-- The override an env has in effect for a key: the last entry wins. -/
def overrideOf (env : Option Json) (key : String) : Option String :=
  ((envEntries env).filter fun entry => entry.1 = key).getLast?.map Prod.snd

/-! ### Bindings -/

structure SystemRunApprovalBinding (Digest : Type) where
  argv : List String
  cwd : Option String
  agentId : Option String
  sessionKey : Option String
  envHash : Option Digest
  deriving DecidableEq

/-- `buildSystemRunApprovalBinding`, of texts that are strings or null. -/
def buildSystemRunApprovalBinding (argv : List String) (cwd agentId sessionKey : Option String)
    (env : Option Json) : SystemRunApprovalBinding Digest where
  argv := normalizeStringArray stringOf (some (.arr (argv.map .str)))
  cwd := normalizeOptionalString cwd
  agentId := normalizeOptionalString agentId
  sessionKey := normalizeOptionalString sessionKey
  envHash := envHash keyLe digest env

/-- An answer that refuses, with its code and its details. -/
structure SystemRunError (Digest : Type) where
  message : String
  code : String
  runId : Option String := none
  envKeys : Option (List String) := none
  expectedEnvHash : Option Digest := none
  actualEnvHash : Option Digest := none
  deriving DecidableEq

def matchSystemRunApprovalBinding [DecidableEq Digest]
    (expected actual : SystemRunApprovalBinding Digest) (runId : String)
    (actualEnvKeys : List String) : Except (SystemRunError Digest) Unit :=
  let requestMismatch : SystemRunError Digest :=
    { message := "approval id does not match request", code := "APPROVAL_REQUEST_MISMATCH", runId }
  if expected.argv = [] ∨ expected.argv ≠ actual.argv then .error requestMismatch
  else if expected.cwd ≠ actual.cwd then .error requestMismatch
  else if expected.agentId ≠ actual.agentId then .error requestMismatch
  else if expected.sessionKey ≠ actual.sessionKey then .error requestMismatch
  else match expected.envHash, actual.envHash with
    | none, none =>
      if actualEnvKeys ≠ [] then .error {
        message := "approval id missing env binding for requested env overrides"
        code := "APPROVAL_ENV_BINDING_MISSING", runId, envKeys := some actualEnvKeys }
      else .ok ()
    | none, some _ => .error {
        message := "approval id missing env binding for requested env overrides"
        code := "APPROVAL_ENV_BINDING_MISSING", runId, envKeys := some actualEnvKeys }
    | expectedHash, actualHash =>
      if expectedHash ≠ actualHash then .error {
        message := "approval id env binding mismatch"
        code := "APPROVAL_ENV_MISMATCH", runId, envKeys := some actualEnvKeys
        expectedEnvHash := expectedHash, actualEnvHash := actualHash }
      else .ok ()

/-! ### Approvals -/

inductive ExecApprovalDecision
  | allowOnce | allowAlways | deny
  deriving DecidableEq

/-- What a request leaves for the filter. -/
structure ExecApprovalRequest (Digest : Type) where
  systemRunBinding : Option (SystemRunApprovalBinding Digest)
  systemRunPlan : Option SystemRunApprovalPlan
  nodeId : Option String
  host : Option String
  deriving DecidableEq

structure ExecApprovalRecord (Digest : Type) where
  id : String
  request : ExecApprovalRequest Digest
  createdAtMs : ℤ
  expiresAtMs : ℤ
  requestedByConnId : Option String := none
  requestedByDeviceId : Option String := none
  resolvedAtMs : Option ℤ := none
  decision : Option ExecApprovalDecision := none
  resolvedBy : Option String := none
  deriving DecidableEq

/-- What has become of an approval. -/
inductive ApprovalOutcome
  | resolved (decision : ExecApprovalDecision)
  /-- Given up by the timer, or by someone who is named. -/
  | expired (resolvedBy : Option String)
  deriving DecidableEq

/-- An entry of the manager, with the number of its registration. -/
structure ApprovalEntry (Digest : Type) where
  record : ExecApprovalRecord Digest
  registration : ℕ
  deriving DecidableEq

abbrev PendingApprovals (Digest : Type) := OrderedMap String (ApprovalEntry Digest)

/-- A client of the gateway. -/
structure ApprovalClient where
  connId : Option String
  deviceId : Option String
  scopes : List String
  deriving DecidableEq

def clientHasApprovals (client : Option ApprovalClient) : Bool :=
  let scopes := (client.map ApprovalClient.scopes).getD []
  "operator.admin" ∈ scopes || "operator.approvals" ∈ scopes

/-! ### Registration -/

/-- The parameters of `exec.approval.request`. -/
structure ApprovalRequestParams where
  id : Option String
  command : String
  commandArgv : Option (List String)
  env : Option Json
  cwd : Option String
  systemRunPlan : Option Json
  nodeId : Option String
  host : Option String
  agentId : Option String
  sessionKey : Option String
  timeoutMs : Option ℤ

def defaultExecApprovalTimeoutMs : ℤ := 1800000

/-- `normalizeCommandPreview`. -/
def normalizeCommandPreview (value : Option String) (authoritative : String) : Option String :=
  (normalizeOptionalString value).filter (· ≠ authoritative)

structure SystemRunApprovalRequestContext where
  plan : Option SystemRunApprovalPlan
  commandArgv : Option (List String)
  commandText : String
  cwd : Option String
  agentId : Option String
  sessionKey : Option String

def resolveSystemRunApprovalRequestContext (host : String) (p : ApprovalRequestParams) :
    SystemRunApprovalRequestContext :=
  let normalizedPlan :=
    if host = "node" then normalizeSystemRunApprovalPlan stringOf p.systemRunPlan else none
  let plan := normalizedPlan.map fun plan => { plan with
    commandPreview :=
      normalizeCommandPreview (plan.commandPreview.or (some p.command)) plan.commandText }
  { plan
    commandArgv := (plan.map SystemRunApprovalPlan.argv).or (p.commandArgv.filter (· ≠ []))
    commandText := (plan.map SystemRunApprovalPlan.commandText).getD p.command
    cwd := (plan.bind SystemRunApprovalPlan.cwd).or (normalizeOptionalString p.cwd)
    agentId := (plan.bind SystemRunApprovalPlan.agentId).or (normalizeOptionalString p.agentId)
    sessionKey :=
      (plan.bind SystemRunApprovalPlan.sessionKey).or (normalizeOptionalString p.sessionKey) }

/-- The checks of `exec.approval.request` and the record it creates. -/
def createApproval (pending : PendingApprovals Digest) (p : ApprovalRequestParams)
    (client : Option ApprovalClient) (randomUUID : String) (now : ℤ) :
    Except String (ExecApprovalRecord Digest) :=
  let explicitId := normalizeOptionalString p.id
  let host := (normalizeOptionalString p.host).getD ""
  let nodeId := (normalizeOptionalString p.nodeId).getD ""
  let context := resolveSystemRunApprovalRequestContext stringOf host p
  if host = "node" ∧ nodeId = "" then .error "nodeId is required for host=node"
  else if host = "node" ∧ context.plan = none then .error "systemRunPlan is required for host=node"
  else if context.commandText = "" then .error "command is required"
  else if explicitId.any fun id => "plugin:".toList.isPrefixOf id.toList then
    .error "approval ids starting with plugin: are reserved"
  else if host = "node" ∧ context.commandArgv.getD [] = [] then
    .error "commandArgv is required for host=node"
  else if explicitId.any fun id => pending.has id then .error "approval id already pending"
  else .ok {
    id := explicitId.getD randomUUID
    request := {
      systemRunBinding :=
        if host = "node" then
          some (buildSystemRunApprovalBinding stringOf keyLe digest (context.commandArgv.getD [])
            context.cwd context.agentId context.sessionKey p.env)
        else none
      systemRunPlan := context.plan
      nodeId := if host = "node" then some nodeId else none
      host := nonEmpty (some host) }
    createdAtMs := now
    expiresAtMs := now + p.timeoutMs.getD defaultExecApprovalTimeoutMs
    requestedByConnId := client.bind ApprovalClient.connId
    requestedByDeviceId := client.bind ApprovalClient.deviceId }

/-! ### The manager -/

section Manager

variable (pending : PendingApprovals Digest)

/-- `register`: an id that is there is not registered again. -/
def register (record : ExecApprovalRecord Digest) (registration : ℕ) : PendingApprovals Digest :=
  if pending.has record.id then pending else pending.set record.id { record, registration }

/-- `resolve`. -/
def resolveApproval (recordId : String) (decision : ExecApprovalDecision)
    (resolvedBy : Option String) (now : ℤ) : PendingApprovals Digest :=
  match pending.get recordId with
  | none => pending
  | some entry =>
    if entry.record.resolvedAtMs.isSome then pending
    else pending.set recordId { entry with
      record := { entry.record with
        resolvedAtMs := some now, decision := some decision, resolvedBy } }

/-- `expire`. -/
def expireApproval (recordId : String) (resolvedBy : Option String) (now : ℤ) :
    PendingApprovals Digest :=
  match pending.get recordId with
  | none => pending
  | some entry =>
    if entry.record.resolvedAtMs.isSome then pending
    else pending.set recordId { entry with
      record := { entry.record with resolvedAtMs := some now, decision := none, resolvedBy } }

/-- The end of the grace period of an entry that has been resolved or has expired. -/
def removeApproval (recordId : String) (registration : ℕ) : PendingApprovals Digest :=
  if (pending.get recordId).any fun entry =>
      entry.registration = registration && entry.record.resolvedAtMs.isSome then
    pending.delete recordId
  else pending

/-- `consumeAllowOnce`, where it succeeds. -/
def consumeAllowOnce (recordId : String) : Option (PendingApprovals Digest) :=
  (pending.get recordId).bind fun entry =>
    if entry.record.decision = some .allowOnce then
      some (pending.set recordId { entry with record := { entry.record with decision := none } })
    else none

end Manager

/-! ### The filter -/

/-- `normalizeApprovalDecision`. -/
def normalizeApprovalDecision (value : Option Json) : Option ExecApprovalDecision :=
  match normalizeNonEmptyString value with
  | some "allow-once" => some .allowOnce
  | some "allow-always" => some .allowAlways
  | _ => none

/-- The fields that `pickSystemRunParams` forwards. -/
def forwardedFields : List String :=
  ["command", "rawCommand", "systemRunPlan", "cwd", "env", "timeoutMs", "needsScreenRecording",
    "agentId", "sessionKey", "runId", "suppressNotifyOnExit"]

abbrev Params := OrderedMap String Json

def pickSystemRunParams (raw : Json) : Params where
  entries := forwardedFields.filterMap fun key => (raw.field key).map fun value => (key, value)
  distinct := by
    have keys : (forwardedFields.filterMap fun key => (raw.field key).map fun value =>
        (key, value)).map Prod.fst = forwardedFields.filter fun key => (raw.field key).isSome := by
      generalize forwardedFields = fields
      induction fields with
      | nil => rfl
      | cons key fields inductionHypothesis =>
        cases found : raw.field key <;> simp [found, inductionHypothesis]
    rw [keys]
    exact List.Nodup.filter _ (by decide)

/-- Sets a field to a text, or deletes it. -/
def Params.setText (params : Params) (key : String) (text : Option String) : Params :=
  match text with
  | some text => OrderedMap.set params key (.str text)
  | none => OrderedMap.delete params key

/-- The error of a request that names no approval, or of one that does. -/
def guardError (code message : String) (runId : Option String := none) : SystemRunError Digest :=
  { message, code, runId }

def systemRunApprovalRequired (runId : String) : SystemRunError Digest :=
  guardError "APPROVAL_REQUIRED" "approval required" (some runId)

/-- The checks on who asks: the device of the registration, or else its connection. -/
def checkRequester (record : ExecApprovalRecord Digest) (client : Option ApprovalClient)
    (runId : String) : Except (SystemRunError Digest) Unit :=
  match nonEmpty record.requestedByDeviceId with
  | some deviceId =>
    if some deviceId ≠ client.bind ApprovalClient.deviceId then
      .error (guardError "APPROVAL_DEVICE_MISMATCH" "approval id not valid for this device"
        (some runId))
    else .ok ()
  | none => match nonEmpty record.requestedByConnId with
    | some connId =>
      if some connId ≠ client.bind ApprovalClient.connId then
        .error (guardError "APPROVAL_CLIENT_MISMATCH" "approval id not valid for this client"
          (some runId))
      else .ok ()
    | none => .ok ()

/-- The checks on an approval before its binding: the time, the node and the requester. -/
def checkApproval (record : ExecApprovalRecord Digest) (nodeId : Option String)
    (client : Option ApprovalClient) (runId : String) (now : ℤ) :
    Except (SystemRunError Digest) Unit :=
  if now > record.expiresAtMs then
    .error (guardError "APPROVAL_EXPIRED" "approval expired" (some runId))
  else match normalizeOptionalString nodeId with
    | none => .error (guardError "MISSING_NODE_ID" "node.invoke requires nodeId" (some runId))
    | some targetNodeId => match normalizeOptionalString record.request.nodeId with
      | none => .error (guardError "APPROVAL_NODE_BINDING_MISSING"
          "approval id missing node binding" (some runId))
      | some approvalNodeId =>
        if approvalNodeId ≠ targetNodeId then
          .error (guardError "APPROVAL_NODE_MISMATCH" "approval id not valid for this node"
            (some runId))
        else checkRequester record client runId

structure SystemRunApprovalRuntimeContext where
  plan : Option SystemRunApprovalPlan
  argv : List String
  cwd : Option String
  agentId : Option String
  sessionKey : Option String

variable (resolveCommand : Option Json → Option Json → Except (SystemRunError Digest) (List String))

def resolveSystemRunApprovalRuntimeContext (plan : Option SystemRunApprovalPlan) (raw : Json) :
    Except (SystemRunError Digest) SystemRunApprovalRuntimeContext :=
  match normalizeSystemRunApprovalPlan stringOf (plan.map SystemRunApprovalPlan.toJson) with
  | some plan => .ok ⟨plan, plan.argv, plan.cwd, plan.agentId, plan.sessionKey⟩
  | none => do
    let argv ← resolveCommand (raw.field "command") (raw.field "rawCommand")
    return ⟨none, argv, normalizeNonEmptyString (raw.field "cwd"),
      normalizeNonEmptyString (raw.field "agentId"),
      normalizeNonEmptyString (raw.field "sessionKey")⟩

/-- The fields that a plan replaces. -/
def Params.withPlan (next : Params) (plan : SystemRunApprovalPlan) : Params :=
  let next := OrderedMap.set next "command" (.arr (plan.argv.map .str))
  let next := OrderedMap.set next "systemRunPlan" plan.toJson
  let next := Params.setText next "rawCommand" (nonEmpty (some plan.commandText))
  let next := Params.setText next "cwd" (nonEmpty plan.cwd)
  let next := Params.setText next "agentId" (nonEmpty plan.agentId)
  Params.setText next "sessionKey" (nonEmpty plan.sessionKey)

/-- `evaluateSystemRunApprovalMatch`. -/
def evaluateSystemRunApprovalMatch [DecidableEq Digest] (request : ExecApprovalRequest Digest)
    (context : SystemRunApprovalRuntimeContext) (env : Option Json) (runId : String) :
    Except (SystemRunError Digest) Unit :=
  let actual := buildSystemRunApprovalBinding stringOf keyLe digest context.argv context.cwd
    context.agentId context.sessionKey env
  let envKeys := (normalizeSystemRunEnvEntries keyLe env).map Prod.fst
  if request.host ≠ some "node" then .error {
    message := "approval id does not match request", code := "APPROVAL_REQUEST_MISMATCH", runId }
  else match request.systemRunBinding with
    | none => .error {
        message := "approval id does not match request", code := "APPROVAL_REQUEST_MISMATCH", runId
        envKeys := some envKeys }
    | some expected => matchSystemRunApprovalBinding expected actual runId envKeys

/-- The trusted fields. -/
def Params.approve (next : Params) (decision : String) : Params :=
  OrderedMap.set (OrderedMap.set next "approved" (.bool true)) "approvalDecision" (.str decision)

/-- The decision on a request that its approval binds. -/
def enforceDecision (pending : PendingApprovals Digest) (record : ExecApprovalRecord Digest)
    (runId : String) (approved : Bool) (requestedDecision : Option ExecApprovalDecision)
    (client : Option ApprovalClient) (next : Params) :
    Except (SystemRunError Digest) (Params × PendingApprovals Digest) :=
  match record.decision with
  | some .allowOnce => match consumeAllowOnce pending runId with
    | none => .error (systemRunApprovalRequired runId)
    | some consumed => .ok (next.approve "allow-once", consumed)
  | some .allowAlways => .ok (next.approve "allow-always", pending)
  | decision =>
    let timedOut := record.resolvedAtMs.isSome && decision = none && record.resolvedBy = none
    if timedOut && approved && requestedDecision = some .allowOnce && clientHasApprovals client then
      .ok (next.approve "allow-once", pending)
    else .error (systemRunApprovalRequired runId)

/-- The part of the filter that overrides the approvals of the node, for a request with a run id. -/
def overrideApproval [DecidableEq Digest] (pending : PendingApprovals Digest)
    (nodeId : Option String) (raw : Json) (client : Option ApprovalClient) (now : ℤ)
    (runId : String) : Except (SystemRunError Digest) (Params × PendingApprovals Digest) :=
  match pending.get runId with
  | none => .error (guardError "UNKNOWN_APPROVAL_ID" "unknown or expired approval id" (some runId))
  | some entry => do
    checkApproval entry.record nodeId client runId now
    let context ← resolveSystemRunApprovalRuntimeContext stringOf resolveCommand
      entry.record.request.systemRunPlan raw
    let picked := pickSystemRunParams raw
    let next := (context.plan.map picked.withPlan).getD picked
    evaluateSystemRunApprovalMatch stringOf keyLe digest entry.record.request context
      (raw.field "env") runId
    enforceDecision pending entry.record runId (isTrue (raw.field "approved"))
      (normalizeApprovalDecision (raw.field "approvalDecision")) client next

/-- Whether a request asks to be taken as approved. -/
def wantsApprovalOverride (raw : Json) : Bool :=
  isTrue (raw.field "approved") || (normalizeApprovalDecision (raw.field "approvalDecision")).isSome

/-- `sanitizeSystemRunParamsForForwarding`, with the approvals it leaves. -/
def sanitizeSystemRunParamsForForwarding [DecidableEq Digest] (pending : PendingApprovals Digest)
    (nodeId : Option String) (raw : Json) (client : Option ApprovalClient) (now : ℤ) :
    Except (SystemRunError Digest) (Json × PendingApprovals Digest) :=
  match raw with
  | .obj fields =>
    if wantsApprovalOverride (.obj fields) then
      match normalizeNonEmptyString ((Json.obj fields).field "runId") with
      | none => .error (guardError "MISSING_RUN_ID" "approval override requires params.runId")
      | some runId => do
        let (params, left) ← overrideApproval stringOf keyLe digest resolveCommand pending nodeId
          (.obj fields) client now runId
        return (.obj params.entries, left)
    else do
      let _ ← resolveCommand ((Json.obj fields).field "command")
        ((Json.obj fields).field "rawCommand")
      return (.obj (pickSystemRunParams (.obj fields)).entries, pending)
  | raw => .ok (raw, pending)

/-! ### Runs -/

/-- A registration: the id it was given, the request, who made it and when. -/
structure Registration where
  runId : String
  params : ApprovalRequestParams
  client : Option ApprovalClient
  registeredAtMs : ℤ

/-- A `system.run` that was let through, with the registration that its run id named. -/
structure Forward where
  params : Json
  nodeId : Option String
  client : Option ApprovalClient
  forwardedAtMs : ℤ
  registration : Option ℕ

/-- What happens to approvals; each event comes with the reading of the clock. -/
inductive ApprovalEvent
  /-- `exec.approval.request`. -/
  | request (params : ApprovalRequestParams) (client : Option ApprovalClient) (randomUUID : String)
  | resolve (recordId : String) (decision : ExecApprovalDecision) (resolvedBy : Option String)
  | expire (recordId : String) (resolvedBy : Option String)
  | remove (recordId : String) (registration : ℕ)
  /-- A `system.run` for a node. -/
  | forward (nodeId : Option String) (raw : Json) (client : Option ApprovalClient)

/-- The approvals, with all registrations, what has become of them and all that has been
forwarded, in order. -/
structure ApprovalState (Digest : Type) where
  pending : PendingApprovals Digest
  registrations : List Registration
  outcomes : List (ℕ × ApprovalOutcome)
  forwards : List Forward

def ApprovalState.initial : ApprovalState Digest := ⟨∅, [], [], []⟩

def ApprovalState.request (state : ApprovalState Digest) (params : ApprovalRequestParams)
    (client : Option ApprovalClient) (randomUUID : String) (now : ℤ) : ApprovalState Digest :=
  match createApproval stringOf keyLe digest state.pending params client randomUUID now with
  | .error _ => state
  | .ok record =>
    if state.pending.has record.id then state
    else { state with
      pending := register state.pending record state.registrations.length
      registrations := state.registrations ++ [⟨record.id, params, client, now⟩] }

/-- The registration that an id waits for, which a resolution or the timer would settle. -/
def ApprovalState.waiting (state : ApprovalState Digest) (recordId : String) : Option ℕ :=
  ((state.pending.get recordId).filter fun entry => entry.record.resolvedAtMs.isNone).map
    ApprovalEntry.registration

def ApprovalState.resolve (state : ApprovalState Digest) (recordId : String)
    (decision : ExecApprovalDecision) (resolvedBy : Option String) (now : ℤ) :
    ApprovalState Digest :=
  { state with
    pending := resolveApproval state.pending recordId decision resolvedBy now
    outcomes := state.outcomes ++
      ((state.waiting recordId).map fun number => (number, .resolved decision)).toList }

def ApprovalState.expire (state : ApprovalState Digest) (recordId : String)
    (resolvedBy : Option String) (now : ℤ) : ApprovalState Digest :=
  { state with
    pending := expireApproval state.pending recordId resolvedBy now
    outcomes := state.outcomes ++
      ((state.waiting recordId).map fun number => (number, .expired resolvedBy)).toList }

def ApprovalState.forward [DecidableEq Digest] (state : ApprovalState Digest)
    (nodeId : Option String) (raw : Json) (client : Option ApprovalClient) (now : ℤ) :
    ApprovalState Digest :=
  match sanitizeSystemRunParamsForForwarding stringOf keyLe digest resolveCommand state.pending
      nodeId raw client now with
  | .error _ => state
  | .ok (params, pending) =>
    let named := (normalizeNonEmptyString (raw.field "runId")).bind state.pending.get
    { state with
      pending
      forwards := state.forwards ++ [⟨params, nodeId, client, now,
        named.map ApprovalEntry.registration⟩] }

def ApprovalState.step [DecidableEq Digest] (state : ApprovalState Digest) :
    ApprovalEvent × ℤ → Option (ApprovalState Digest)
  | (.request params client randomUUID, now) =>
    some (state.request stringOf keyLe digest params client randomUUID now)
  | (.resolve recordId decision resolvedBy, now) =>
    some (state.resolve recordId decision resolvedBy now)
  | (.expire recordId resolvedBy, now) =>
    some (state.expire recordId resolvedBy now)
  | (.remove recordId registration, _) =>
    some { state with pending := removeApproval state.pending recordId registration }
  | (.forward nodeId raw client, now) =>
    some (state.forward stringOf keyLe digest resolveCommand nodeId raw client now)

end OpenClaw.Approval
