/-
This file says what the gateway's exec approvals guarantee: a `system.run` is forwarded as approved
only as a registration bound it, in the time and by whom it was registered, and an approval that
was given once is spent by one forward.

It holds while no spent approval passes for one that timed out. Spending an approval clears its
decision, which is what a timeout does too, and the two are told apart only by the name of who
resolved it: an approval that was given once by nobody named can be used again by every client that
may approve.
-/

import OpenClaw.Base.Answers
import OpenClaw.Gateway.ExecApprovals

namespace OpenClaw.Approval

open Text Machine

/-! ### What is approved -/

section Authority

variable (stringOf : Json → String)

def Registration.host (registration : Registration) : String :=
  (normalizeOptionalString registration.params.host).getD ""

def Registration.expiresAtMs (registration : Registration) : ℤ :=
  registration.registeredAtMs + registration.params.timeoutMs.getD defaultExecApprovalTimeoutMs

/-- The command, cwd, agent and session that a registration binds. -/
def Registration.context (registration : Registration) : SystemRunApprovalRequestContext :=
  resolveSystemRunApprovalRequestContext stringOf registration.host registration.params

def Registration.deviceId (registration : Registration) : Option String :=
  registration.client.bind ApprovalClient.deviceId

def Registration.connId (registration : Registration) : Option String :=
  registration.client.bind ApprovalClient.connId

/-- A client is who registered: the same device, or the same connection where none was told. -/
def Registration.SameRequester (registration : Registration) (client : Option ApprovalClient) :
    Prop :=
  match nonEmpty registration.deviceId with
  | some deviceId => client.bind ApprovalClient.deviceId = some deviceId
  | none => client.bind ApprovalClient.connId = registration.connId

/-- The decision that an outcome allows a client to go on with. -/
def ApprovalOutcome.grants : ApprovalOutcome → Option ApprovalClient → Option String
  | .resolved .allowOnce, _ => some "allow-once"
  | .resolved .allowAlways, _ => some "allow-always"
  | .expired none, client => if clientHasApprovals client then some "allow-once" else none
  | _, _ => none

/-- A forward is what a registration with some outcome authorises. -/
structure Authorised (registration : Registration) (outcome : ApprovalOutcome) (forward : Forward) :
    Prop where
  runId : normalizeNonEmptyString (forward.params.field "runId") = some registration.runId
  host : registration.host = "node"
  node : normalizeOptionalString forward.nodeId =
    normalizeOptionalString registration.params.nodeId
  requester : registration.SameRequester forward.client
  inTime : forward.forwardedAtMs ≤ registration.expiresAtMs
  command : forward.params.field "command" =
    some (.arr (((registration.context stringOf).commandArgv.getD []).map .str))
  cwd : forward.params.field "cwd" = (registration.context stringOf).cwd.map .str
  agentId : forward.params.field "agentId" = (registration.context stringOf).agentId.map .str
  sessionKey : forward.params.field "sessionKey" =
    (registration.context stringOf).sessionKey.map .str
  env : ∀ key, overrideOf (forward.params.field "env") key = overrideOf registration.params.env key
  approved : forward.params.field "approved" = some (.bool true)
  decision : forward.params.field "approvalDecision" =
    (outcome.grants forward.client).map .str
  granted : (outcome.grants forward.client).isSome

/-- A forward has one of the fields that make it an approved one. -/
def Forward.flagged (forward : Forward) : Bool :=
  (forward.params.field "approved").isSome || (forward.params.field "approvalDecision").isSome

/-- How often a registration was forwarded as approved. -/
def ApprovalState.approvals {Digest : Type} (state : ApprovalState Digest) (number : ℕ) : ℕ :=
  state.forwards.countP fun forward => forward.flagged && forward.registration = some number

/-- Only what was approved is forwarded as approved. -/
structure OnlyApproved {Digest : Type} (state : ApprovalState Digest) : Prop where
  authorised : ∀ forward ∈ state.forwards, forward.flagged →
    ∃ number registration outcome, forward.registration = some number ∧
      state.registrations[number]? = some registration ∧ (number, outcome) ∈ state.outcomes ∧
      Authorised stringOf registration outcome forward
  once : ∀ number, (number, .resolved .allowOnce) ∈ state.outcomes → state.approvals number ≤ 1
  denied : ∀ number, (number, .resolved .deny) ∈ state.outcomes → state.approvals number = 0

end Authority

/-! ### Spent approvals -/

section Spent

variable (stringOf : Json → String) {Digest : Type} [DecidableEq Digest]
  (keyLe : String → String → Bool) (digest : List (String × String) → Digest)
  (resolveCommand : Option Json → Option Json → Except (SystemRunError Digest) (List String))

/-- The decision of an approval lets a request of a client through. -/
def ExecApprovalRecord.lets (record : ExecApprovalRecord Digest) (raw : Json)
    (client : Option ApprovalClient) : Prop :=
  match record.decision with
  | some .allowOnce | some .allowAlways => True
  | some .deny => False
  | none => record.resolvedAtMs.isSome ∧ record.resolvedBy = none ∧ isTrue (raw.field "approved") ∧
      normalizeApprovalDecision (raw.field "approvalDecision") = some .allowOnce ∧
      clientHasApprovals client

/-- An approval binds a request: all checks but that of its decision. -/
def ExecApprovalRecord.binds (record : ExecApprovalRecord Digest) (nodeId : Option String)
    (raw : Json) (client : Option ApprovalClient) (runId : String) (now : ℤ) : Prop :=
  checkApproval record nodeId client runId now = .ok () ∧
    ∃ context, resolveSystemRunApprovalRuntimeContext stringOf resolveCommand
        record.request.systemRunPlan raw = .ok context ∧
      evaluateSystemRunApprovalMatch stringOf keyLe digest record.request context (raw.field "env")
        runId = .ok ()

/-- Who registered an approval is known by a device or a connection, or as nameless as a client. -/
def ExecApprovalRecord.told (record : ExecApprovalRecord Digest) (client : Option ApprovalClient) :
    Prop :=
  (nonEmpty record.requestedByDeviceId).isSome ∨ (nonEmpty record.requestedByConnId).isSome ∨
    client.bind ApprovalClient.connId = record.requestedByConnId

/-- No request is let through by an approval that is spent, or that was made by nobody known. -/
def ApprovalState.Careful (state : ApprovalState Digest) : ApprovalEvent × ℤ → Prop
  | (.forward nodeId raw client, now) => ∀ runId entry,
      normalizeNonEmptyString (raw.field "runId") = some runId →
      state.pending.get runId = some entry →
      entry.record.binds stringOf keyLe digest resolveCommand nodeId raw client runId now →
      entry.record.lets raw client →
      entry.record.told client ∧ ¬ (entry.record.decision = none ∧
        (entry.registration, .resolved .allowOnce) ∈ state.outcomes)
  | _ => True

end Spent

/-! ### Plans -/

/-- A text that is its own normal form. -/
def Normal (text : Option String) : Prop := normalizeOptionalString text = text

theorem Normal.none : Normal none := rfl

theorem normal_normalizeNonEmptyString (value : Option Json) :
    Normal (normalizeNonEmptyString value) := by
  unfold normalizeNonEmptyString
  split
  · exact normalizeOptionalString_idem _
  · exact Normal.none

theorem Normal.or {first second : Option String} (left : Normal first) (right : Normal second) :
    Normal (first.or second) := by
  cases first
  · exact right
  · exact left

theorem Normal.nonEmpty {text : Option String} (normal : Normal text) : nonEmpty text = text := by
  cases text with
  | none => rfl
  | some value =>
    exact (nonEmpty_eq_some_iff _ _).2 ⟨rfl, ((normalizeOptionalString_eq_some_iff _ _).1 normal).2⟩

theorem Normal.str {text : String} (normal : Normal (some text)) :
    normalizeNonEmptyString (some (.str text)) = some text := normal

/-- A normal text is read back from the value it is. -/
theorem Normal.orNull {text : Option String} (normal : Normal text) :
    normalizeNonEmptyString (some (orNull text)) = text := by
  cases text with
  | none => rfl
  | some value => exact normal

/-- What normalisation leaves of a plan. -/
structure SystemRunApprovalPlan.IsNormal (plan : SystemRunApprovalPlan) : Prop where
  argv : plan.argv ≠ []
  cwd : Normal plan.cwd
  commandText : Normal (some plan.commandText)
  commandPreview : Normal plan.commandPreview
  agentId : Normal plan.agentId
  sessionKey : Normal plan.sessionKey
  operand : ∀ operand, plan.mutableFileOperand = some operand →
    Normal (some operand.path) ∧ Normal (some operand.sha256)

theorem operand_normal {value : Option Json} {found operand : SystemRunApprovalFileOperand}
    (normalized : normalizeSystemRunApprovalFileOperand value = some (some found))
    (is : found = operand) : Normal (some operand.path) ∧ Normal (some operand.sha256) := by
  subst is
  unfold normalizeSystemRunApprovalFileOperand at normalized
  split at normalized
  next => nomatch normalized
  next fields =>
    dsimp only at normalized
    split at normalized
    next index path sha256 _ isPath isSha256 =>
      split at normalized
      next =>
        obtain rfl := Option.some.inj (Option.some.inj normalized)
        exact ⟨isPath ▸ normal_normalizeNonEmptyString _,
          isSha256 ▸ normal_normalizeNonEmptyString _⟩
      next => nomatch normalized
    next => nomatch normalized
  next => nomatch normalized

variable {stringOf : Json → String} {plan : SystemRunApprovalPlan}

theorem plan_normal {value : Option Json}
    (normalized : normalizeSystemRunApprovalPlan stringOf value = some plan) : plan.IsNormal := by
  unfold normalizeSystemRunApprovalPlan at normalized
  split at normalized
  next fields =>
    dsimp only at normalized
    split at normalized
    next first rest operand commandText _ isOperand isText =>
      obtain rfl := Option.some.inj normalized
      refine ⟨List.cons_ne_nil _ _, normal_normalizeNonEmptyString _, ?_,
        normal_normalizeNonEmptyString _, normal_normalizeNonEmptyString _,
        normal_normalizeNonEmptyString _, ?_⟩
      · rw [← isText]
        exact (normal_normalizeNonEmptyString _).or (normal_normalizeNonEmptyString _)
      · rintro found rfl
        exact operand_normal isOperand rfl
    next => nomatch normalized
  next => nomatch normalized

theorem normalizeStringArray_strings (strings : ∀ text, stringOf (.str text) = text)
    (texts : List String) :
    normalizeStringArray stringOf (some (.arr (texts.map .str))) = texts := by
  rw [normalizeStringArray, List.map_map]
  exact (List.map_congr_left fun text _ => strings text).trans (List.map_id texts)

/-- A normal plan is read back from the value it is. -/
theorem SystemRunApprovalPlan.IsNormal.read (strings : ∀ text, stringOf (.str text) = text)
    (normal : plan.IsNormal) :
    normalizeSystemRunApprovalPlan stringOf (some plan.toJson) = some plan := by
  have operand : normalizeSystemRunApprovalFileOperand (plan.toJson.field "mutableFileOperand") =
      some plan.mutableFileOperand := by
    cases isOperand : plan.mutableFileOperand with
    | none => simp [SystemRunApprovalPlan.toJson, isOperand, Json.field, List.lookup,
        normalizeSystemRunApprovalFileOperand]
    | some operand =>
      obtain ⟨path, sha256⟩ := normal.operand operand isOperand
      simp [SystemRunApprovalPlan.toJson, isOperand, Json.field, List.lookup,
        normalizeSystemRunApprovalFileOperand, SystemRunApprovalFileOperand.toJson, path.str,
        sha256.str]
  have argv : normalizeStringArray stringOf (plan.toJson.field "argv") = plan.argv :=
    normalizeStringArray_strings strings plan.argv
  have commandText : normalizeNonEmptyString (plan.toJson.field "commandText") =
      some plan.commandText := normal.commandText
  have cwd : normalizeNonEmptyString (plan.toJson.field "cwd") = plan.cwd := normal.cwd.orNull
  have commandPreview : normalizeNonEmptyString (plan.toJson.field "commandPreview") =
      plan.commandPreview := normal.commandPreview.orNull
  have agentId : normalizeNonEmptyString (plan.toJson.field "agentId") = plan.agentId :=
    normal.agentId.orNull
  have sessionKey : normalizeNonEmptyString (plan.toJson.field "sessionKey") = plan.sessionKey :=
    normal.sessionKey.orNull
  obtain ⟨first, rest, isArgv⟩ := List.exists_cons_of_ne_nil normal.argv
  obtain ⟨fields, isJson⟩ : ∃ fields, plan.toJson = .obj fields := ⟨_, rfl⟩
  rw [isJson] at operand argv commandText cwd commandPreview agentId sessionKey ⊢
  rw [normalizeSystemRunApprovalPlan]
  simp only [argv, operand, commandText, cwd, commandPreview, agentId, sessionKey, isArgv,
    Option.some_or]
  rw [← isArgv]

/-! ### Env overrides -/

variable {Digest : Type} {keyLe : String → String → Bool}
  {digest : List (String × String) → Digest}
variable {client : Option ApprovalClient} {record : ExecApprovalRecord Digest} {runId : String}
variable {pending left : PendingApprovals Digest} {nodeId : Option String}
variable {registration : Registration} {now : ℤ}

/-- Sorting keeps the entries of one key in their order. -/
theorem filter_normalizeSystemRunEnvEntries
    (total : ∀ first second, keyLe first second || keyLe second first)
    (transitive : ∀ first second third, keyLe first second → keyLe second third →
      keyLe first third) (env : Option Json) (key : String) :
    (normalizeSystemRunEnvEntries keyLe env).filter (fun entry => entry.1 = key) =
      (envEntries env).filter fun entry => entry.1 = key := by
  have ordered : ((envEntries env).filter fun entry => entry.1 = key).Pairwise
      fun first second => keyLe first.1 second.1 := by
    refine List.pairwise_of_forall_mem_list fun first isFirst second isSecond => ?_
    have firstKey : first.1 = key := by simpa using (List.mem_filter.1 isFirst).2
    have secondKey : second.1 = key := by simpa using (List.mem_filter.1 isSecond).2
    rw [firstKey, secondKey]
    simpa using total key key
  have kept := List.sublist_mergeSort
    (fun first second third : String × String => transitive first.1 second.1 third.1)
    (fun first second => total first.1 second.1) ordered List.filter_sublist
  have inside := kept.filter fun entry => decide (entry.1 = key)
  rw [List.filter_filter] at inside
  simp only [Bool.and_self] at inside
  refine (inside.eq_of_length ?_).symm
  exact (((List.mergeSort_perm (envEntries env) _).filter _).length_eq).symm

/-- Envs of one digest have the same overrides in effect. -/
theorem overrideOf_of_envHash (injective : Function.Injective digest)
    (total : ∀ first second, keyLe first second || keyLe second first)
    (transitive : ∀ first second third, keyLe first second → keyLe second third →
      keyLe first third) {first second : Option Json}
    (same : envHash keyLe digest first = envHash keyLe digest second) (key : String) :
    overrideOf first key = overrideOf second key := by
  have entries : normalizeSystemRunEnvEntries keyLe first =
      normalizeSystemRunEnvEntries keyLe second := by
    unfold envHash at same
    dsimp only at same
    split at same <;> split at same
    next isFirst isSecond => rw [isFirst, isSecond]
    next => nomatch same
    next => nomatch same
    next => exact injective (Option.some.inj same)
  unfold overrideOf
  rw [← filter_normalizeSystemRunEnvEntries total transitive first,
    ← filter_normalizeSystemRunEnvEntries total transitive second, entries]

/-! ### Registrations -/

/-- A record is that of a registration, but for what became of it. -/
structure CreatedBy (stringOf : Json → String) (keyLe : String → String → Bool)
    (digest : List (String × String) → Digest) (registration : Registration)
    (record : ExecApprovalRecord Digest) : Prop where
  expiresAtMs : record.expiresAtMs = registration.expiresAtMs
  deviceId : record.requestedByDeviceId = registration.deviceId
  connId : record.requestedByConnId = registration.connId
  node : ∀ nodeId, record.request.nodeId = some nodeId → registration.host = "node" ∧
    normalizeOptionalString registration.params.nodeId = some nodeId
  plan : record.request.systemRunPlan = (registration.context stringOf).plan
  planned : registration.host = "node" → (registration.context stringOf).plan ≠ none
  binding : registration.host = "node" → record.request.systemRunBinding =
    some (buildSystemRunApprovalBinding stringOf keyLe digest
      ((registration.context stringOf).commandArgv.getD []) (registration.context stringOf).cwd
      (registration.context stringOf).agentId (registration.context stringOf).sessionKey
      registration.params.env)

/-- The approval that a request creates. -/
theorem createApproval_created {pending : PendingApprovals Digest} {params : ApprovalRequestParams}
    {randomUUID : String}
    (created : createApproval stringOf keyLe digest pending params client randomUUID now =
      .ok record) :
    CreatedBy stringOf keyLe digest ⟨record.id, params, client, now⟩ record ∧
      record.resolvedAtMs = none ∧ record.decision = none := by
  simp only [createApproval, Answer.refuse_eq_ok_iff] at created
  obtain ⟨hasNode, hasPlan, -, -, -, -, created⟩ := created
  obtain rfl := Except.ok.inj created
  refine ⟨⟨rfl, rfl, rfl, ?_, rfl, fun host plan => hasPlan ⟨host, plan⟩, ?_⟩, rfl, rfl⟩
  · intro nodeId isNode
    dsimp only at isNode
    split at isNode
    next host =>
      refine ⟨host, ?_⟩
      obtain rfl := Option.some.inj isNode
      cases found : normalizeOptionalString params.nodeId with
      | none => exact absurd ⟨host, by rw [found]; rfl⟩ hasNode
      | some nodeId => rfl
    next => nomatch isNode
  · intro host
    exact if_pos host

/-- The texts that a registration binds are normal. -/
theorem normal_context (registration : Registration) :
    Normal (registration.context stringOf).cwd ∧ Normal (registration.context stringOf).agentId ∧
      Normal (registration.context stringOf).sessionKey := by
  have plain : ∀ text, Normal (normalizeOptionalString text) := normalizeOptionalString_idem
  have planned : ∀ plan, (if registration.host = "node" then
      normalizeSystemRunApprovalPlan stringOf registration.params.systemRunPlan else none) =
        some plan → plan.IsNormal := fun plan is => by
    split at is
    next => exact plan_normal is
    next => nomatch is
  unfold Registration.context resolveSystemRunApprovalRequestContext
  dsimp only
  cases found : (if registration.host = "node" then
      normalizeSystemRunApprovalPlan stringOf registration.params.systemRunPlan else none) with
  | none => exact ⟨plain _, plain _, plain _⟩
  | some plan =>
    have normal := planned plan found
    exact ⟨normal.cwd.or (plain _), normal.agentId.or (plain _), normal.sessionKey.or (plain _)⟩

theorem normal_normalizeCommandPreview (value : Option String) (authoritative : String) :
    Normal (normalizeCommandPreview value authoritative) := by
  unfold normalizeCommandPreview
  cases found : normalizeOptionalString value with
  | none => exact Normal.none
  | some preview =>
    rw [Option.filter_some]
    split
    · exact found ▸ normalizeOptionalString_idem value
    · exact Normal.none

/-- The plan of a registration is normal, and its argv is what is bound. -/
theorem normal_context_plan (planned : (registration.context stringOf).plan = some plan) :
    plan.IsNormal ∧ (registration.context stringOf).commandArgv = some plan.argv := by
  have argv : (registration.context stringOf).commandArgv =
      ((registration.context stringOf).plan.map SystemRunApprovalPlan.argv).or
        (registration.params.commandArgv.filter (· ≠ [])) := rfl
  refine ⟨?_, by rw [argv, planned]; rfl⟩
  unfold Registration.context resolveSystemRunApprovalRequestContext at planned
  dsimp only at planned
  split at planned
  next =>
    obtain ⟨normalized, found, rfl⟩ := Option.map_eq_some_iff.1 planned
    exact { plan_normal found with commandPreview := normal_normalizeCommandPreview _ _ }
  next => nomatch planned

/-! ### Forwarded fields -/

theorem field_entries (params : Params) (key : String) :
    (Json.obj params.entries).field key = params.get key := by
  rw [OrderedMap.get]
  show params.entries.lookup key = _
  generalize params.entries = entries
  induction entries with
  | nil => rfl
  | cons entry entries inductionHypothesis =>
    rw [List.lookup_cons, List.find?_cons, inductionHypothesis]
    by_cases same : entry.1 = key
    · simp [same]
    · have off : (key == entry.1) = false := beq_false_of_ne (Ne.symm same)
      simp [same, off]

theorem get_pickSystemRunParams (raw : Json) (key : String) :
    (pickSystemRunParams raw).get key = if key ∈ forwardedFields then raw.field key else none := by
  rw [← field_entries]
  show ((forwardedFields.filterMap fun key => (raw.field key).map fun value =>
    (key, value)).lookup key) = _
  generalize forwardedFields = fields
  induction fields with
  | nil => rfl
  | cons first fields inductionHypothesis =>
    by_cases same : key = first
    · subst same
      cases found : raw.field key with
      | none => simp [found, inductionHypothesis]
      | some value => simp [found]
    · have off : (key == first) = false := beq_false_of_ne same
      cases found : raw.field first with
      | none => simp [found, inductionHypothesis, same]
      | some value => simp [found, List.lookup_cons, inductionHypothesis, same, off]

theorem get_setText (params : Params) (key : String) (text : Option String) (other : String) :
    (Params.setText params key text).get other =
      if other = key then text.map Json.str else params.get other := by
  cases text with
  | none => exact OrderedMap.get_delete params key other
  | some text => exact OrderedMap.get_set params key other (.str text)

theorem get_approve (params : Params) (decision : String) (key : String) :
    (params.approve decision).get key =
      if key = "approvalDecision" then some (.str decision)
      else if key = "approved" then some (.bool true) else params.get key := by
  rw [Params.approve, OrderedMap.get_set, OrderedMap.get_set]

/-- What a plan leaves of the fields it replaces, and of the others. -/
theorem get_withPlan (params : Params) (normal : plan.IsNormal)
    (key : String) : (params.withPlan plan).get key =
      if key = "sessionKey" then plan.sessionKey.map Json.str
      else if key = "agentId" then plan.agentId.map Json.str
      else if key = "cwd" then plan.cwd.map Json.str
      else if key = "rawCommand" then some (.str plan.commandText)
      else if key = "systemRunPlan" then some plan.toJson
      else if key = "command" then some (.arr (plan.argv.map .str))
      else params.get key := by
  rw [Params.withPlan]
  simp only [get_setText, OrderedMap.get_set, normal.sessionKey.nonEmpty, normal.agentId.nonEmpty,
    normal.cwd.nonEmpty, normal.commandText.nonEmpty, Option.map_some]

/-! ### The invariant -/

/-- A record tells an outcome; an approval given once may have been spent. -/
def ApprovalOutcome.Fits : ApprovalOutcome → ExecApprovalRecord Digest → Prop
  | .resolved decision, record =>
    record.decision = some decision ∨ decision = .allowOnce ∧ record.decision = none
  | .expired resolvedBy, record => record.decision = none ∧ record.resolvedBy = resolvedBy

/-- The approvals tell what has become of their registrations. -/
structure Kept (stringOf : Json → String) (keyLe : String → String → Bool)
    (digest : List (String × String) → Digest) (state : ApprovalState Digest) : Prop where
  created : ∀ id entry, state.pending.get id = some entry →
    ∃ registration, state.registrations[entry.registration]? = some registration ∧
      registration.runId = id ∧ CreatedBy stringOf keyLe digest registration entry.record
  waits : ∀ id entry, state.pending.get id = some entry → entry.record.resolvedAtMs = none →
    entry.record.decision = none ∧ ∀ outcome, (entry.registration, outcome) ∉ state.outcomes
  settled : ∀ id entry, state.pending.get id = some entry → entry.record.resolvedAtMs.isSome →
    ∃ outcome, (entry.registration, outcome) ∈ state.outcomes ∧ outcome.Fits entry.record
  known : ∀ number outcome, (number, outcome) ∈ state.outcomes →
    number < state.registrations.length
  unique : ∀ number first second, (number, first) ∈ state.outcomes →
    (number, second) ∈ state.outcomes → first = second
  unspent : ∀ id entry, state.pending.get id = some entry →
    entry.record.decision = some .allowOnce → state.approvals entry.registration = 0
  only : OnlyApproved stringOf state

theorem kept_initial : Kept stringOf keyLe digest (.initial : ApprovalState Digest) where
  created _ _ found := nomatch found
  waits _ _ found := nomatch found
  settled _ _ found := nomatch found
  known _ _ member := nomatch member
  unique _ _ _ member := nomatch member
  unspent _ _ found := nomatch found
  only := {
    authorised := fun _ member => nomatch member
    once := fun _ member => nomatch member
    denied := fun _ member => nomatch member }

section Kept

variable {state : ApprovalState Digest} {entry : ApprovalEntry Digest}

/-- What has no outcome was never forwarded as approved. -/
theorem Kept.approvals_of_open (kept : Kept stringOf keyLe digest state) {number : ℕ}
    (unsettled : ∀ outcome, (number, outcome) ∉ state.outcomes) : state.approvals number = 0 := by
  refine List.countP_eq_zero.2 fun forward member is => ?_
  rw [Bool.and_eq_true, decide_eq_true_eq] at is
  obtain ⟨other, _, outcome, same, -, isOutcome, -⟩ := kept.only.authorised forward member is.1
  obtain rfl := Option.some.inj (is.2.symm.trans same)
  exact unsettled outcome isOutcome

/-- The entries of one registration are one entry. -/
theorem Kept.same_id (kept : Kept stringOf keyLe digest state) {first second : String}
    {left right : ApprovalEntry Digest} (isLeft : state.pending.get first = some left)
    (isRight : state.pending.get second = some right)
    (same : left.registration = right.registration) : first = second := by
  obtain ⟨registration, isRegistration, rfl, -⟩ := kept.created first left isLeft
  obtain ⟨other, isOther, rfl, -⟩ := kept.created second right isRight
  rw [same, isOther] at isRegistration
  rw [Option.some.inj isRegistration]

theorem approvals_append (number : ℕ) (forward : Forward) (state : ApprovalState Digest)
    (pending : PendingApprovals Digest) :
    ApprovalState.approvals { state with pending, forwards := state.forwards ++ [forward] } number =
      state.approvals number +
        if forward.flagged && forward.registration = some number then 1 else 0 := by
  show List.countP _ (_ ++ _) = _
  rw [List.countP_append, List.countP_singleton]
  rfl

/-- An approval that waits is given an outcome. -/
theorem Kept.settle (kept : Kept stringOf keyLe digest state) {id : String}
    (found : state.pending.get id = some entry)
    (waits : entry.record.resolvedAtMs = none) (record : ExecApprovalRecord Digest)
    (outcome : ApprovalOutcome)
    (created : ∀ registration, CreatedBy stringOf keyLe digest registration entry.record →
      CreatedBy stringOf keyLe digest registration record)
    (resolved : record.resolvedAtMs.isSome) (fits : outcome.Fits record) :
    Kept stringOf keyLe digest { state with
      pending := state.pending.set id { entry with record }
      outcomes := state.outcomes ++ [(entry.registration, outcome)] } := by
  obtain ⟨-, unsettled⟩ := kept.waits id entry found waits
  have never := kept.approvals_of_open unsettled
  have other : ∀ {otherId otherEntry}, otherId ≠ id → state.pending.get otherId = some otherEntry →
      otherEntry.registration ≠ entry.registration := fun different isOther same =>
    different (kept.same_id isOther found same)
  refine ⟨?_, ?_, ?_, ?_, ?_, ?_, ?_, ?_, ?_⟩
  · intro otherId otherEntry isOther
    rw [OrderedMap.get_set] at isOther
    split at isOther
    next same =>
      obtain rfl := Option.some.inj isOther
      subst same
      obtain ⟨registration, isRegistration, isId, isCreated⟩ := kept.created otherId entry found
      exact ⟨registration, isRegistration, isId, created registration isCreated⟩
    next => exact kept.created otherId otherEntry isOther
  · intro otherId otherEntry isOther isWaiting
    rw [OrderedMap.get_set] at isOther
    split at isOther
    next =>
      obtain rfl := Option.some.inj isOther
      rw [show record.resolvedAtMs = none from isWaiting] at resolved
      cases resolved
    next different =>
      obtain ⟨undecided, no_outcome⟩ := kept.waits otherId otherEntry isOther isWaiting
      refine ⟨undecided, fun anOutcome member => ?_⟩
      rcases List.mem_append.1 member with earlier | last
      · exact no_outcome anOutcome earlier
      · exact other different isOther (Prod.mk.inj (List.mem_singleton.1 last)).1
  · intro otherId otherEntry isOther isSettled
    rw [OrderedMap.get_set] at isOther
    split at isOther
    next =>
      obtain rfl := Option.some.inj isOther
      exact ⟨outcome, List.mem_append_right _ (List.mem_singleton.2 rfl), fits⟩
    next =>
      obtain ⟨itsOutcome, member, itFits⟩ := kept.settled otherId otherEntry isOther isSettled
      exact ⟨itsOutcome, List.mem_append_left _ member, itFits⟩
  · intro number anOutcome member
    rcases List.mem_append.1 member with earlier | last
    · exact kept.known number anOutcome earlier
    · obtain ⟨rfl, -⟩ := Prod.mk.inj (List.mem_singleton.1 last)
      obtain ⟨registration, isRegistration, -⟩ := kept.created id entry found
      exact (List.getElem?_eq_some_iff.1 isRegistration).1
  · intro number first second isFirst isSecond
    rcases List.mem_append.1 isFirst with isFirst | isFirst <;>
      rcases List.mem_append.1 isSecond with isSecond | isSecond
    · exact kept.unique number first second isFirst isSecond
    · obtain ⟨rfl, -⟩ := Prod.mk.inj (List.mem_singleton.1 isSecond)
      exact absurd isFirst (unsettled first)
    · obtain ⟨rfl, -⟩ := Prod.mk.inj (List.mem_singleton.1 isFirst)
      exact absurd isSecond (unsettled second)
    · obtain ⟨-, rfl⟩ := Prod.mk.inj (List.mem_singleton.1 isFirst)
      exact (Prod.mk.inj (List.mem_singleton.1 isSecond)).2.symm
  · intro otherId otherEntry isOther isOnce
    rw [OrderedMap.get_set] at isOther
    split at isOther
    next =>
      obtain rfl := Option.some.inj isOther
      exact never
    next => exact kept.unspent otherId otherEntry isOther isOnce
  · intro forward member flagged
    obtain ⟨number, registration, itsOutcome, isNumber, isRegistration, isOutcome, authorised⟩ :=
      kept.only.authorised forward member flagged
    exact ⟨number, registration, itsOutcome, isNumber, isRegistration,
      List.mem_append_left _ isOutcome, authorised⟩
  · intro number member
    rcases List.mem_append.1 member with earlier | last
    · exact kept.only.once number earlier
    · obtain ⟨rfl, -⟩ := Prod.mk.inj (List.mem_singleton.1 last)
      exact never.le.trans (Nat.zero_le 1)
  · intro number member
    rcases List.mem_append.1 member with earlier | last
    · exact kept.only.denied number earlier
    · obtain ⟨rfl, -⟩ := Prod.mk.inj (List.mem_singleton.1 last)
      exact never

/-- Approvals may be taken away. -/
theorem Kept.sub (kept : Kept stringOf keyLe digest state) {pending : PendingApprovals Digest}
    (sub : ∀ id entry, pending.get id = some entry → state.pending.get id = some entry) :
    Kept stringOf keyLe digest { state with pending } where
  created id entry found := kept.created id entry (sub id entry found)
  waits id entry found := kept.waits id entry (sub id entry found)
  settled id entry found := kept.settled id entry (sub id entry found)
  known := kept.known
  unique := kept.unique
  unspent id entry found := kept.unspent id entry (sub id entry found)
  only := { kept.only with }

theorem waiting_of_none {recordId : String} (found : state.pending.get recordId = none) :
    state.waiting recordId = none := by
  rw [ApprovalState.waiting, found]
  rfl

theorem waiting_of_get {recordId : String}
    (found : state.pending.get recordId = some entry) : state.waiting recordId =
      if entry.record.resolvedAtMs.isNone then some entry.registration else none := by
  rw [ApprovalState.waiting, found, Option.filter_some]
  split <;> rfl

theorem Kept.resolve (kept : Kept stringOf keyLe digest state) (recordId : String)
    (decision : ExecApprovalDecision) (resolvedBy : Option String) (now : ℤ) :
    Kept stringOf keyLe digest (state.resolve recordId decision resolvedBy now) := by
  unfold ApprovalState.resolve resolveApproval
  cases found : state.pending.get recordId with
  | none =>
    rw [waiting_of_none found, Option.map_none, Option.toList_none, List.append_nil]
    exact kept
  | some entry =>
    rw [waiting_of_get found]
    dsimp only
    cases waits : entry.record.resolvedAtMs with
    | some time =>
      rw [if_pos (by rfl), if_neg (by simp), Option.map_none, Option.toList_none, List.append_nil]
      exact kept
    | none =>
      rw [if_neg (by simp), if_pos (by rfl)]
      exact kept.settle found waits
        { entry.record with resolvedAtMs := some now, decision := some decision, resolvedBy }
        (.resolved decision) (fun _ created => { created with }) rfl (.inl rfl)

theorem Kept.expire (kept : Kept stringOf keyLe digest state) (recordId : String)
    (resolvedBy : Option String) (now : ℤ) :
    Kept stringOf keyLe digest (state.expire recordId resolvedBy now) := by
  unfold ApprovalState.expire expireApproval
  cases found : state.pending.get recordId with
  | none =>
    rw [waiting_of_none found, Option.map_none, Option.toList_none, List.append_nil]
    exact kept
  | some entry =>
    rw [waiting_of_get found]
    dsimp only
    cases waits : entry.record.resolvedAtMs with
    | some time =>
      rw [if_pos (by rfl), if_neg (by simp), Option.map_none, Option.toList_none, List.append_nil]
      exact kept
    | none =>
      rw [if_neg (by simp), if_pos (by rfl)]
      exact kept.settle found waits
        { entry.record with resolvedAtMs := some now, decision := none, resolvedBy }
        (.expired resolvedBy) (fun _ created => { created with }) rfl ⟨rfl, rfl⟩

theorem Kept.remove (kept : Kept stringOf keyLe digest state) (recordId : String)
    (registration : ℕ) : Kept stringOf keyLe digest
      { state with pending := removeApproval state.pending recordId registration } := by
  refine kept.sub fun id entry found => ?_
  unfold removeApproval at found
  split at found
  · rw [OrderedMap.get_delete] at found
    split at found
    · cases found
    · exact found
  · exact found

/-- A new registration is nowhere known. -/
theorem Kept.request (kept : Kept stringOf keyLe digest state) (params : ApprovalRequestParams)
    (client : Option ApprovalClient) (randomUUID : String) (now : ℤ) :
    Kept stringOf keyLe digest
      (state.request stringOf keyLe digest params client randomUUID now) := by
  unfold ApprovalState.request
  split
  next => exact kept
  next record isCreated =>
    split
    next => exact kept
    next absent =>
      obtain ⟨created, unresolved, undecided⟩ := createApproval_created isCreated
      rw [register, if_neg absent]
      have fresh : ∀ outcome, (state.registrations.length, outcome) ∉ state.outcomes :=
        fun outcome member => absurd (kept.known _ outcome member) (lt_irrefl _)
      have earlier : ∀ {number registration}, state.registrations[number]? = some registration →
          (state.registrations ++ [⟨record.id, params, client, now⟩])[number]? =
            some registration :=
        fun isRegistration => by
          rw [List.getElem?_append_left (List.getElem?_eq_some_iff.1 isRegistration).1]
          exact isRegistration
      refine ⟨?_, ?_, ?_, ?_, kept.unique, ?_, ?_, kept.only.once, kept.only.denied⟩
      · intro id entry found
        rw [OrderedMap.get_set] at found
        split at found
        next same =>
          obtain rfl := Option.some.inj found
          refine ⟨_, List.getElem?_concat_length, same.symm, created⟩
        next =>
          obtain ⟨registration, isRegistration, is⟩ := kept.created id entry found
          exact ⟨registration, earlier isRegistration, is⟩
      · intro id entry found waits
        rw [OrderedMap.get_set] at found
        split at found
        next =>
          obtain rfl := Option.some.inj found
          exact ⟨undecided, fresh⟩
        next => exact kept.waits id entry found waits
      · intro id entry found settled
        rw [OrderedMap.get_set] at found
        split at found
        next =>
          obtain rfl := Option.some.inj found
          rw [unresolved] at settled
          cases settled
        next => exact kept.settled id entry found settled
      · intro number outcome member
        rw [List.length_append]
        exact (kept.known number outcome member).trans_le (Nat.le_add_right _ _)
      · intro id entry found once
        rw [OrderedMap.get_set] at found
        split at found
        next =>
          obtain rfl := Option.some.inj found
          rw [undecided] at once
          cases once
        next => exact kept.unspent id entry found once
      · intro forward member flagged
        obtain ⟨number, registration, outcome, isNumber, isRegistration, is⟩ :=
          kept.only.authorised forward member flagged
        exact ⟨number, registration, outcome, isNumber, earlier isRegistration, is⟩

/-- An approval that was given once is spent. -/
theorem Kept.spend (kept : Kept stringOf keyLe digest state) {id : String}
    (found : state.pending.get id = some entry) (once : entry.record.decision = some .allowOnce) :
    Kept stringOf keyLe digest { state with
      pending := state.pending.set id
        { entry with record := { entry.record with decision := none } } } := by
  refine ⟨?_, ?_, ?_, kept.known, kept.unique, ?_, kept.only.authorised, kept.only.once,
    kept.only.denied⟩
  · intro otherId otherEntry isOther
    rw [OrderedMap.get_set] at isOther
    split at isOther
    next same =>
      obtain rfl := Option.some.inj isOther
      subst same
      obtain ⟨registration, isRegistration, isId, isCreated⟩ := kept.created otherId entry found
      exact ⟨registration, isRegistration, isId, { isCreated with }⟩
    next => exact kept.created otherId otherEntry isOther
  · intro otherId otherEntry isOther waits
    rw [OrderedMap.get_set] at isOther
    split at isOther
    next =>
      obtain rfl := Option.some.inj isOther
      exact ⟨rfl, (kept.waits id entry found waits).2⟩
    next => exact kept.waits otherId otherEntry isOther waits
  · intro otherId otherEntry isOther settled
    rw [OrderedMap.get_set] at isOther
    split at isOther
    next =>
      obtain rfl := Option.some.inj isOther
      obtain ⟨outcome, member, fits⟩ := kept.settled id entry found settled
      refine ⟨outcome, member, ?_⟩
      cases outcome with
      | resolved decision =>
        rcases fits with given | ⟨isOnce, -⟩
        · exact .inr ⟨Option.some.inj (given.symm.trans once), rfl⟩
        · exact .inr ⟨isOnce, rfl⟩
      | expired resolvedBy =>
        rw [fits.1] at once
        cases once
    next => exact kept.settled otherId otherEntry isOther settled
  · intro otherId otherEntry isOther isOnce
    rw [OrderedMap.get_set] at isOther
    split at isOther
    next =>
      obtain rfl := Option.some.inj isOther
      cases isOnce
    next => exact kept.unspent otherId otherEntry isOther isOnce

/-- The outcome of an approval that is still given once. -/
theorem Kept.outcome_of_once (kept : Kept stringOf keyLe digest state) {id : String}
    (found : state.pending.get id = some entry)
    {decision : ExecApprovalDecision} (decided : entry.record.decision = some decision) :
    (entry.registration, .resolved decision) ∈ state.outcomes := by
  cases waits : entry.record.resolvedAtMs with
  | none =>
    rw [(kept.waits id entry found waits).1] at decided
    nomatch decided
  | some time =>
    obtain ⟨outcome, member, fits⟩ := kept.settled id entry found (by rw [waits]; rfl)
    cases outcome with
    | resolved other =>
      rcases fits with given | ⟨-, spent⟩
      · exact Option.some.inj (decided.symm.trans given) ▸ member
      · rw [spent] at decided
        nomatch decided
    | expired resolvedBy =>
      rw [fits.1] at decided
      nomatch decided

/-- A request is forwarded: without the fields of an approval, or as one that is authorised and,
where it was given once, was not forwarded before and has been spent. -/
theorem Kept.note (kept : Kept stringOf keyLe digest state) (forward : Forward)
    (authorised : forward.flagged → ∃ number registration outcome,
      forward.registration = some number ∧ state.registrations[number]? = some registration ∧
      (number, outcome) ∈ state.outcomes ∧ Authorised stringOf registration outcome forward ∧
      (outcome = .resolved .allowOnce → state.approvals number = 0 ∧
        ∀ id entry, state.pending.get id = some entry → entry.registration = number →
          entry.record.decision ≠ some .allowOnce)) :
    Kept stringOf keyLe digest { state with forwards := state.forwards ++ [forward] } := by
  have kind : ∀ number outcome, (number, outcome) ∈ state.outcomes →
      (forward.flagged && forward.registration = some number) = true →
      (outcome.grants forward.client).isSome ∧ (outcome = .resolved .allowOnce →
        state.approvals number = 0 ∧ ∀ id entry, state.pending.get id = some entry →
          entry.registration = number → entry.record.decision ≠ some .allowOnce) := by
    intro number outcome member is
    rw [Bool.and_eq_true, decide_eq_true_eq] at is
    obtain ⟨other, _, itsOutcome, same, -, isOutcome, allowed, once⟩ := authorised is.1
    obtain rfl := Option.some.inj (is.2.symm.trans same)
    obtain rfl := kept.unique number outcome itsOutcome member isOutcome
    exact ⟨allowed.granted, once⟩
  refine ⟨kept.created, kept.waits, kept.settled, kept.known, kept.unique, ?_, ?_, ?_, ?_⟩
  · intro id entry found once
    rw [approvals_append, kept.unspent id entry found once, Nat.zero_add, if_neg]
    intro is
    exact ((kind _ _ (kept.outcome_of_once found once) is).2 rfl).2 id entry found rfl once
  · intro other member flagged
    rcases List.mem_append.1 member with earlier | last
    · exact kept.only.authorised other earlier flagged
    · obtain rfl := List.mem_singleton.1 last
      obtain ⟨number, registration, outcome, isNumber, isRegistration, isOutcome, allowed, -⟩ :=
        authorised flagged
      exact ⟨number, registration, outcome, isNumber, isRegistration, isOutcome, allowed⟩
  · intro number member
    rw [approvals_append]
    split
    next is => rw [((kind number _ member is).2 rfl).1]
    next => exact kept.only.once number member
  · intro number member
    rw [approvals_append, kept.only.denied number member, Nat.zero_add, if_neg]
    intro is
    have granted := (kind number _ member is).1
    nomatch granted

end Kept

/-! ### The checks -/

theorem checkApproval_ok (ok : checkApproval record nodeId client runId now = .ok ()) :
    now ≤ record.expiresAtMs ∧
      (∃ target, normalizeOptionalString nodeId = some target ∧
        normalizeOptionalString record.request.nodeId = some target) ∧
      checkRequester record client runId = .ok () := by
  unfold checkApproval at ok
  obtain ⟨inTime, ok⟩ := Answer.refuse_eq_ok_iff.1 ok
  split at ok
  next => nomatch ok
  next target isTarget =>
    split at ok
    next => nomatch ok
    next approved isApproved =>
      obtain ⟨same, ok⟩ := Answer.refuse_eq_ok_iff.1 ok
      refine ⟨not_lt.1 inTime, ⟨target, isTarget, ?_⟩, ok⟩
      rw [isApproved, not_not.1 same]

/-- Who passes the check of a registration by a known device or connection has registered. -/
theorem checkRequester_ok (deviceId : record.requestedByDeviceId = registration.deviceId)
    (connId : record.requestedByConnId = registration.connId)
    (ok : checkRequester record client runId = .ok ()) (told : record.told client) :
    registration.SameRequester client := by
  unfold checkRequester at ok
  unfold ExecApprovalRecord.told at told
  unfold Registration.SameRequester
  rw [deviceId, connId] at ok told
  cases device : nonEmpty registration.deviceId with
  | some id =>
    rw [device] at ok
    exact (not_not.1 (Answer.refuse_eq_ok_iff.1 ok).1).symm
  | none =>
    rw [device] at ok told
    dsimp only at ok ⊢
    cases connection : nonEmpty registration.connId with
    | some id =>
      rw [connection] at ok
      rw [((nonEmpty_eq_some_iff _ _).1 connection).1]
      exact (not_not.1 (Answer.refuse_eq_ok_iff.1 ok).1).symm
    | none =>
      rw [connection] at told
      rcases told with gone | gone | same
      · nomatch gone
      · nomatch gone
      · exact same

/-- What an approval lets through, and what it leaves of the approvals. -/
theorem enforceDecision_ok {raw : Json} {next params : Params}
    (ok : enforceDecision pending record runId (isTrue (raw.field "approved"))
      (normalizeApprovalDecision (raw.field "approvalDecision")) client next = .ok (params, left)) :
    record.lets raw client ∧
      ((record.decision = some .allowOnce ∧ params = next.approve "allow-once" ∧
          consumeAllowOnce pending runId = some left) ∨
        (record.decision = some .allowAlways ∧ params = next.approve "allow-always" ∧
          left = pending) ∨
        (record.decision = none ∧ params = next.approve "allow-once" ∧ left = pending)) := by
  unfold enforceDecision at ok
  unfold ExecApprovalRecord.lets
  split at ok
  next decided =>
    rw [decided]
    split at ok
    next => nomatch ok
    next consumed isConsumed =>
      obtain ⟨rfl, rfl⟩ := Prod.mk.inj (Except.ok.inj ok)
      exact ⟨trivial, .inl ⟨rfl, rfl, isConsumed⟩⟩
  next decided =>
    rw [decided]
    obtain ⟨rfl, rfl⟩ := Prod.mk.inj (Except.ok.inj ok)
    exact ⟨trivial, .inr (.inl ⟨rfl, rfl, rfl⟩)⟩
  next =>
    dsimp only at ok
    split at ok
    next timedOut =>
      obtain ⟨rfl, rfl⟩ := Prod.mk.inj (Except.ok.inj ok)
      simp only [Bool.and_eq_true, decide_eq_true_eq] at timedOut
      obtain ⟨⟨⟨⟨⟨resolved, undecided⟩, byNobody⟩, approved⟩, requested⟩, scope⟩ := timedOut
      rw [undecided]
      exact ⟨⟨resolved, byNobody, approved, requested, scope⟩, .inr (.inr ⟨rfl, rfl, rfl⟩)⟩
    next => nomatch ok

variable {resolveCommand : Option Json → Option Json → Except (SystemRunError Digest) (List String)}

/-- The context of a request whose approval has a normal plan is that of the plan. -/
theorem resolveSystemRunApprovalRuntimeContext_plan
    (strings : ∀ text, stringOf (.str text) = text) (normal : plan.IsNormal) (raw : Json) :
    resolveSystemRunApprovalRuntimeContext stringOf resolveCommand (some plan) raw =
      .ok ⟨some plan, plan.argv, plan.cwd, plan.agentId, plan.sessionKey⟩ := by
  unfold resolveSystemRunApprovalRuntimeContext
  rw [Option.map_some, normal.read strings]

variable [DecidableEq Digest]

theorem matchSystemRunApprovalBinding_ok {expected actual : SystemRunApprovalBinding Digest}
    {envKeys : List String}
    (ok : matchSystemRunApprovalBinding expected actual runId envKeys = .ok ()) :
    expected = actual := by
  obtain ⟨argv, cwd, agentId, sessionKey, envHash⟩ := expected
  obtain ⟨otherArgv, otherCwd, otherAgentId, otherSessionKey, otherHash⟩ := actual
  unfold matchSystemRunApprovalBinding at ok
  simp only [Answer.refuse_eq_ok_iff] at ok
  obtain ⟨sameArgv, sameCwd, sameAgent, sameSession, ok⟩ := ok
  obtain rfl := not_not.1 (not_or.1 sameArgv).2
  obtain rfl := not_not.1 sameCwd
  obtain rfl := not_not.1 sameAgent
  obtain rfl := not_not.1 sameSession
  split at ok
  next => rfl
  next => nomatch ok
  next => rw [not_not.1 (Answer.refuse_eq_ok_iff.1 ok).1]

theorem evaluateSystemRunApprovalMatch_ok {request : ExecApprovalRequest Digest}
    {context : SystemRunApprovalRuntimeContext} {env : Option Json}
    (ok : evaluateSystemRunApprovalMatch stringOf keyLe digest request context env runId = .ok ()) :
    request.systemRunBinding = some (buildSystemRunApprovalBinding stringOf keyLe digest
      context.argv context.cwd context.agentId context.sessionKey env) := by
  unfold evaluateSystemRunApprovalMatch at ok
  dsimp only at ok
  split at ok
  next => nomatch ok
  next =>
    split at ok
    next => nomatch ok
    next expected isExpected => rw [isExpected, matchSystemRunApprovalBinding_ok ok]

/-- A request that is let through by an approval is bound by it. -/
theorem overrideApproval_ok {raw : Json} {params : Params}
    (ok : overrideApproval stringOf keyLe digest resolveCommand pending nodeId raw client now
      runId = .ok (params, left)) :
    ∃ entry, pending.get runId = some entry ∧
      checkApproval entry.record nodeId client runId now = .ok () ∧
      ∃ context, resolveSystemRunApprovalRuntimeContext stringOf resolveCommand
          entry.record.request.systemRunPlan raw = .ok context ∧
        evaluateSystemRunApprovalMatch stringOf keyLe digest entry.record.request context
          (raw.field "env") runId = .ok () ∧
        enforceDecision pending entry.record runId (isTrue (raw.field "approved"))
          (normalizeApprovalDecision (raw.field "approvalDecision")) client
          ((context.plan.map (pickSystemRunParams raw).withPlan).getD (pickSystemRunParams raw)) =
            .ok (params, left) := by
  unfold overrideApproval at ok
  split at ok
  next => cases ok
  next entry found =>
    obtain ⟨_, checked, ok⟩ := Answer.bind_eq_ok_iff.1 ok
    obtain ⟨context, isContext, ok⟩ := Answer.bind_eq_ok_iff.1 ok
    obtain ⟨_, matched, ok⟩ := Answer.bind_eq_ok_iff.1 ok
    exact ⟨entry, found, checked, context, isContext, matched, ok⟩

/-- What is let through by the approval of a registration, by a client that is told, is what the
registration authorises. -/
theorem authorised_of_bound (strings : ∀ text, stringOf (.str text) = text)
    (injective : Function.Injective digest)
    (total : ∀ first second, keyLe first second || keyLe second first)
    (transitive : ∀ first second third, keyLe first second → keyLe second third →
      keyLe first third)
    (created : CreatedBy stringOf keyLe digest registration record) {raw : Json}
    (runId : normalizeNonEmptyString (raw.field "runId") = some registration.runId)
    (checked : checkApproval record nodeId client registration.runId now = .ok ())
    {context : SystemRunApprovalRuntimeContext}
    (isContext : resolveSystemRunApprovalRuntimeContext stringOf resolveCommand
      record.request.systemRunPlan raw = .ok context)
    (matched : evaluateSystemRunApprovalMatch stringOf keyLe digest record.request context
      (raw.field "env") registration.runId = .ok ())
    (told : record.told client) {outcome : ApprovalOutcome} {text : String}
    (granted : outcome.grants client = some text) (number : ℕ) :
    Authorised stringOf registration outcome ⟨.obj
      (Params.approve ((context.plan.map (pickSystemRunParams raw).withPlan).getD
        (pickSystemRunParams raw)) text).entries, nodeId, client, now, some number⟩ := by
  obtain ⟨inTime, ⟨target, isTarget, approvedNode⟩, requester⟩ := checkApproval_ok checked
  obtain ⟨recorded, isRecorded⟩ : ∃ recorded, record.request.nodeId = some recorded := by
    cases found : record.request.nodeId with
    | none =>
      rw [found] at approvedNode
      nomatch approvedNode
    | some recorded => exact ⟨recorded, rfl⟩
  obtain ⟨host, isNode⟩ := created.node recorded isRecorded
  obtain ⟨plan, isPlan⟩ := Option.ne_none_iff_exists'.1 (created.planned host)
  obtain ⟨normal, isArgv⟩ := normal_context_plan isPlan
  obtain ⟨normalCwd, normalAgent, normalSession⟩ :
      Normal (registration.context stringOf).cwd ∧ _ ∧ _ := normal_context registration
  rw [created.plan, isPlan, resolveSystemRunApprovalRuntimeContext_plan strings normal] at isContext
  obtain rfl := Except.ok.inj isContext
  have bound := Option.some.inj
    ((created.binding host).symm.trans (evaluateSystemRunApprovalMatch_ok matched))
  simp only [buildSystemRunApprovalBinding, SystemRunApprovalBinding.mk.injEq] at bound
  obtain ⟨-, cwd, agentId, sessionKey, env⟩ := bound
  rw [normalCwd, normal.cwd] at cwd
  rw [normalAgent, normal.agentId] at agentId
  rw [normalSession, normal.sessionKey] at sessionKey
  have read : ∀ key, (Json.obj (Params.approve ((pickSystemRunParams raw).withPlan plan)
      text).entries).field key = _ := fun key => by
    rw [field_entries, get_approve, get_withPlan _ normal, get_pickSystemRunParams]
  refine ⟨?_, host, ?_, checkRequester_ok created.deviceId created.connId requester told,
    created.expiresAtMs ▸ inTime, ?_, ?_, ?_, ?_, ?_, ?_, ?_, ?_⟩
  · exact (congrArg normalizeNonEmptyString (read "runId")).trans runId
  · rw [isTarget, isNode, ← approvedNode, isRecorded, ← isNode]
    exact normalizeOptionalString_idem _
  · rw [isArgv]
    exact read "command"
  · rw [cwd]
    exact read "cwd"
  · rw [agentId]
    exact read "agentId"
  · rw [sessionKey]
    exact read "sessionKey"
  · intro key
    have same : overrideOf registration.params.env key = overrideOf (raw.field "env") key :=
      overrideOf_of_envHash injective total transitive env key
    rw [same]
    exact congrArg (overrideOf · key) (read "env")
  · exact read "approved"
  · rw [granted]
    exact read "approvalDecision"
  · rw [granted]
    rfl

/-! ### Forwards -/

theorem field_picked_flags (raw : Json) :
    (Json.obj (pickSystemRunParams raw).entries).field "approved" = none ∧
      (Json.obj (pickSystemRunParams raw).entries).field "approvalDecision" = none := by
  rw [field_entries, field_entries, get_pickSystemRunParams, get_pickSystemRunParams]
  exact ⟨if_neg (by decide), if_neg (by decide)⟩

/-- What the filter lets through has no fields of an approval, or is let through by one. -/
theorem sanitizeSystemRunParamsForForwarding_ok {raw : Json} {params : Json}
    (ok : sanitizeSystemRunParamsForForwarding stringOf keyLe digest resolveCommand pending nodeId
      raw client now = .ok (params, left)) :
    (left = pending ∧ params.field "approved" = none ∧ params.field "approvalDecision" = none) ∨
      ∃ runId next, normalizeNonEmptyString (raw.field "runId") = some runId ∧
        params = .obj next.entries ∧
        overrideApproval stringOf keyLe digest resolveCommand pending nodeId raw client now runId =
          .ok (next, left) := by
  unfold sanitizeSystemRunParamsForForwarding at ok
  split at ok
  next fields =>
    split at ok
    next =>
      split at ok
      next => nomatch ok
      next runId isRunId =>
        obtain ⟨⟨next, itsLeft⟩, isNext, ok⟩ := Answer.bind_eq_ok_iff.1 ok
        obtain ⟨rfl, rfl⟩ := Prod.mk.inj (Except.ok.inj ok)
        exact .inr ⟨runId, next, isRunId, rfl, isNext⟩
    next =>
      obtain ⟨_, -, ok⟩ := Answer.bind_eq_ok_iff.1 ok
      obtain ⟨rfl, rfl⟩ := Prod.mk.inj (Except.ok.inj ok)
      exact .inl ⟨rfl, field_picked_flags _⟩
  next plain =>
    have bare : ∀ key, raw.field key = none := fun key => by
      cases raw with
      | obj fields => exact (plain fields rfl).elim
      | _ => rfl
    obtain ⟨same, rfl⟩ := Prod.mk.inj (Except.ok.inj ok)
    rw [← same]
    exact .inl ⟨rfl, bare _, bare _⟩

variable {state : ApprovalState Digest}

/-- One forward by which no spent approval passes. -/
theorem Kept.forward (kept : Kept stringOf keyLe digest state)
    (strings : ∀ text, stringOf (.str text) = text) (injective : Function.Injective digest)
    (total : ∀ first second, keyLe first second || keyLe second first)
    (transitive : ∀ first second third, keyLe first second → keyLe second third →
      keyLe first third) (nodeId : Option String) (raw : Json) (client : Option ApprovalClient)
    (now : ℤ) (careful : state.Careful stringOf keyLe digest resolveCommand
      (.forward nodeId raw client, now)) :
    Kept stringOf keyLe digest
      (state.forward stringOf keyLe digest resolveCommand nodeId raw client now) := by
  unfold ApprovalState.forward
  split
  next => exact kept
  next params left ok =>
    rcases sanitizeSystemRunParamsForForwarding_ok ok with
      ⟨rfl, plain, bare⟩ | ⟨runId, next, isRunId, rfl, overridden⟩
    · refine kept.note _ fun flagged => ?_
      rw [Forward.flagged, plain, bare] at flagged
      cases flagged
    · obtain ⟨entry, found, checked, context, isContext, matched, enforced⟩ :=
        overrideApproval_ok overridden
      obtain ⟨lets, ways⟩ := enforceDecision_ok enforced
      obtain ⟨told, unspent⟩ :=
        careful runId entry isRunId found ⟨checked, context, isContext, matched⟩ lets
      obtain ⟨registration, isRegistration, rfl, created⟩ := kept.created runId entry found
      have authorised : ∀ {outcome : ApprovalOutcome} {text}, outcome.grants client = some text →
          Authorised stringOf registration outcome ⟨.obj (Params.approve
            ((context.plan.map (pickSystemRunParams raw).withPlan).getD (pickSystemRunParams raw))
              text).entries, nodeId, client, now, some entry.registration⟩ := fun granted =>
        authorised_of_bound strings injective total transitive created isRunId checked isContext
          matched told granted _
      have named : ((normalizeNonEmptyString (raw.field "runId")).bind state.pending.get).map
          ApprovalEntry.registration = some entry.registration := by
        rw [isRunId, Option.bind_some, found]
        rfl
      dsimp only
      rw [named]
      rcases ways with ⟨once, rfl, consumed⟩ | ⟨always, rfl, rfl⟩ | ⟨undecided, rfl, rfl⟩
      · have spent := kept.spend found once
        rw [consumeAllowOnce, found, Option.bind_some, if_pos once] at consumed
        obtain rfl := Option.some.inj consumed
        refine spent.note _ fun _ => ⟨entry.registration, registration, .resolved .allowOnce, rfl,
          isRegistration, kept.outcome_of_once found once, authorised rfl, fun _ =>
            ⟨kept.unspent _ entry found once, ?_⟩⟩
        intro id other isOther same
        rw [OrderedMap.get_set] at isOther
        split at isOther
        next =>
          obtain rfl := Option.some.inj isOther
          exact fun once => by cases once
        next different => exact absurd (kept.same_id isOther found same) different
      · exact kept.note _ fun _ => ⟨entry.registration, registration, .resolved .allowAlways, rfl,
          isRegistration, kept.outcome_of_once found always, authorised rfl, fun once => by cases once⟩
      · rw [ExecApprovalRecord.lets, undecided] at lets
        obtain ⟨settled, byNobody, -, -, scope⟩ := lets
        obtain ⟨outcome, member, fits⟩ := kept.settled _ entry found settled
        cases outcome with
        | resolved decision =>
          rcases fits with given | ⟨rfl, -⟩
          · rw [undecided] at given
            cases given
          · exact absurd ⟨undecided, member⟩ unspent
        | expired resolvedBy =>
          obtain rfl : resolvedBy = none := fits.2.symm.trans byNobody
          exact kept.note _ fun _ => ⟨entry.registration, registration, .expired none, rfl,
            isRegistration, member, authorised (if_pos scope), fun once => by cases once⟩

theorem Kept.step (kept : Kept stringOf keyLe digest state)
    (strings : ∀ text, stringOf (.str text) = text) (injective : Function.Injective digest)
    (total : ∀ first second, keyLe first second || keyLe second first)
    (transitive : ∀ first second third, keyLe first second → keyLe second third →
      keyLe first third) {event : ApprovalEvent × ℤ} {next : ApprovalState Digest}
    (careful : state.Careful stringOf keyLe digest resolveCommand event)
    (taken : state.step stringOf keyLe digest resolveCommand event = some next) :
    Kept stringOf keyLe digest next := by
  obtain ⟨event, now⟩ := event
  cases event with
  | request params client randomUUID =>
    exact Option.some.inj taken ▸ kept.request params client randomUUID now
  | resolve recordId decision resolvedBy =>
    exact Option.some.inj taken ▸ kept.resolve recordId decision resolvedBy now
  | expire recordId resolvedBy => exact Option.some.inj taken ▸ kept.expire recordId resolvedBy now
  | remove recordId registration => exact Option.some.inj taken ▸ kept.remove recordId registration
  | forward nodeId raw client =>
    exact Option.some.inj taken ▸
      kept.forward strings injective total transitive nodeId raw client now careful

/-- While no spent approval passes for one that timed out, only what was approved is forwarded as
approved, and what was approved once is forwarded once. -/
theorem only_approved_is_forwarded (stringOf : Json → String)
    (strings : ∀ text, stringOf (.str text) = text) {Digest : Type} [DecidableEq Digest]
    (keyLe : String → String → Bool)
    (total : ∀ first second, keyLe first second || keyLe second first)
    (transitive : ∀ first second third, keyLe first second → keyLe second third →
      keyLe first third)
    (digest : List (String × String) → Digest) (injective : Function.Injective digest)
    (resolveCommand : Option Json → Option Json → Except (SystemRunError Digest) (List String))
    {events : List (ApprovalEvent × ℤ)} {final : ApprovalState Digest}
    (run : Steps (ApprovalState.step stringOf keyLe digest resolveCommand)
      (ApprovalState.Careful stringOf keyLe digest resolveCommand) .initial events final) :
    OnlyApproved stringOf final :=
  (run.invariant (fun _ _ _ kept careful taken =>
    kept.step strings injective total transitive careful taken) kept_initial).only

section Runs

def exampleStringOf : Json → String
  | .str text => text
  | _ => ""

def exampleKeyLe (first second : String) : Bool := first ≤ second

def exampleResolveCommand (_ _ : Option Json) :
    Except (SystemRunError (List (String × String))) (List String) := .ok []

def exampleClient : Option ApprovalClient := some ⟨some "conn-1", none, ["operator.approvals"]⟩

/-- A command that is approved for a node. -/
def exampleRequest : ApprovalRequestParams where
  id := some "run-1"
  command := "git pull"
  commandArgv := none
  env := none
  cwd := none
  systemRunPlan := some (.obj [("argv", .arr [.str "git", .str "pull"]),
    ("commandText", .str "git pull")])
  nodeId := some "node-1"
  host := some "node"
  agentId := none
  sessionKey := none
  timeoutMs := none

/-- A request that asks to be taken as approved once. -/
def exampleRaw : Json := .obj [("command", .arr [.str "git", .str "pull"]), ("runId", .str "run-1"),
  ("approved", .bool true), ("approvalDecision", .str "allow-once")]

def exampleStep : ApprovalState (List (String × String)) → ApprovalEvent × ℤ →
    Option (ApprovalState (List (String × String))) :=
  ApprovalState.step exampleStringOf exampleKeyLe id exampleResolveCommand

/-- An approval that nobody named gives once, and two requests. -/
def replayedRun : List (ApprovalEvent × ℤ) := [
  (.request exampleRequest exampleClient "uuid-1", 0),
  (.resolve "run-1" .allowOnce none, 1),
  (.forward (some "node-1") exampleRaw exampleClient, 2),
  (.forward (some "node-1") exampleRaw exampleClient, 3)]

/-- The same approval, given by somebody who is named, after the first request. -/
def approvedState : ApprovalState (List (String × String)) :=
  (ApprovalState.initial.request exampleStringOf exampleKeyLe id exampleRequest exampleClient
    "uuid-1" 0).resolve "run-1" .allowOnce (some "operator") 1

def forwardedState : ApprovalState (List (String × String)) :=
  approvedState.forward exampleStringOf exampleKeyLe id exampleResolveCommand (some "node-1")
    exampleRaw exampleClient 2

theorem only_approved_is_forwarded_once :
    forwardedState.approvals 0 = 1 ∧ OnlyApproved exampleStringOf forwardedState := by
  have total : ∀ first second, exampleKeyLe first second || exampleKeyLe second first :=
    fun first second => by simpa [exampleKeyLe] using le_total first second
  have transitive : ∀ first second third, exampleKeyLe first second → exampleKeyLe second third →
      exampleKeyLe first third := fun first second third => by
    simpa [exampleKeyLe] using le_trans
  have careful : approvedState.Careful exampleStringOf exampleKeyLe id exampleResolveCommand
      (.forward (some "node-1") exampleRaw exampleClient, 2) := by
    intro runId entry isRunId found _ _
    have known : (approvedState.pending.get "run-1").all (fun entry =>
        (nonEmpty entry.record.requestedByConnId).isSome && entry.record.decision.isSome) =
          true := by
      decide +kernel
    have isRun : normalizeNonEmptyString (exampleRaw.field "runId") = some "run-1" := by decide
    obtain rfl := Option.some.inj (isRun.symm.trans isRunId)
    rw [found, Option.all_some, Bool.and_eq_true] at known
    refine ⟨.inr (.inl known.1), fun spent => ?_⟩
    rw [spent.1] at known
    nomatch known.2
  have run : Steps exampleStep
      (ApprovalState.Careful exampleStringOf exampleKeyLe id exampleResolveCommand) .initial
      [(.request exampleRequest exampleClient "uuid-1", 0),
        (.resolve "run-1" .allowOnce (some "operator"), 1),
        (.forward (some "node-1") exampleRaw exampleClient, 2)] forwardedState :=
    .cons trivial rfl (.cons trivial rfl (.single careful rfl))
  exact ⟨by decide +kernel, only_approved_is_forwarded exampleStringOf (fun _ => rfl) exampleKeyLe
    total transitive id Function.injective_id exampleResolveCommand run⟩

/-- An approval that was given once by nobody named is forwarded twice. -/
theorem spent_approval_is_forwarded_again :
    ¬ ∀ events final, Steps exampleStep Unguarded .initial events final →
      OnlyApproved exampleStringOf final := by
  intro always
  have evaluated : (execute exampleStep .initial replayedRun).any (fun final =>
      final.approvals 0 = 2 && final.outcomes = [(0, .resolved .allowOnce)]) = true := by
    decide +kernel
  obtain ⟨final, reached, is⟩ := (Option.any_eq_true _ _).1 evaluated
  rw [Bool.and_eq_true, decide_eq_true_eq, decide_eq_true_eq] at is
  have once := (always replayedRun final (steps_of_execute reached)).once 0
    (by rw [is.2]; exact List.mem_singleton_self _)
  rw [is.1] at once
  exact absurd once (by decide)

end Runs

end OpenClaw.Approval
