/-
This file is `tool-loop-detection.ts`: the sliding window of recorded tool calls and
the detector that reads it before each call.

Parameters and results of tools are opaque. `Digests` says what the code reads of
them: the digest of a value, the `action` of a parameter object, the digest of an
outcome.
-/

import OpenClaw.Shared.Text

namespace OpenClaw.Agents

open Text

/-! ### Configuration -/

/-- `ToolLoopDetectionConfig`. A number that is not an integer counts as missing. -/
structure ToolLoopDetectionConfig where
  enabled : Option Bool := none
  historySize : Option Int := none
  warningThreshold : Option Int := none
  criticalThreshold : Option Int := none
  globalCircuitBreakerThreshold : Option Int := none
  genericRepeat : Option Bool := none
  knownPollNoProgress : Option Bool := none
  pingPong : Option Bool := none
  deriving DecidableEq, Repr

structure ResolvedLoopDetectionConfig where
  enabled : Bool
  historySize : Nat
  warningThreshold : Nat
  criticalThreshold : Nat
  globalCircuitBreakerThreshold : Nat
  genericRepeat : Bool
  knownPollNoProgress : Bool
  pingPong : Bool
  deriving DecidableEq, Repr

def asPositiveInt (value : Option Int) (fallback : Nat) : Nat :=
  match value with
  | some value => if value ≤ 0 then fallback else value.toNat
  | none => fallback

def resolveLoopDetectionConfig (config : ToolLoopDetectionConfig) : ResolvedLoopDetectionConfig :=
  let warningThreshold := asPositiveInt config.warningThreshold 10
  let criticalThreshold := asPositiveInt config.criticalThreshold 20
  let globalCircuitBreakerThreshold := asPositiveInt config.globalCircuitBreakerThreshold 30
  let criticalThreshold :=
    if criticalThreshold ≤ warningThreshold then warningThreshold + 1 else criticalThreshold
  let globalCircuitBreakerThreshold :=
    if globalCircuitBreakerThreshold ≤ criticalThreshold then criticalThreshold + 1
    else globalCircuitBreakerThreshold
  { enabled := config.enabled.getD false
    historySize := asPositiveInt config.historySize 30
    warningThreshold
    criticalThreshold
    globalCircuitBreakerThreshold
    genericRepeat := config.genericRepeat.getD true
    knownPollNoProgress := config.knownPollNoProgress.getD true
    pingPong := config.pingPong.getD true }

/-! ### Calls -/

structure Digests (Params Outcome : Type) where
  digestStable : Params → String
  /-- `params.action`, when the parameters are an object and it is a string. -/
  action : Params → Option String
  /-- `hashToolOutcome`. -/
  hashToolOutcome : String → Params → Outcome → Option String

structure ToolCallRecord where
  toolName : String
  argsHash : String
  toolCallId : Option String := none
  resultHash : Option String := none
  deriving DecidableEq, Repr

section Calls

variable {Params Outcome : Type} (digests : Digests Params Outcome)

def hashToolCall (toolName : String) (params : Params) : String :=
  toolName ++ ":" ++ digests.digestStable params

def isKnownPollToolCall (toolName : String) (params : Params) : Bool :=
  toolName = "command_status" || (toolName = "process" &&
    (digests.action params = some "poll" || digests.action params = some "log"))

end Calls

/-! ### Streaks -/

/-- Whether a record is a call of a tool with given arguments. -/
def ToolCallRecord.isCall (record : ToolCallRecord) (toolName argsHash : String) : Bool :=
  record.toolName = toolName && record.argsHash = argsHash

/-- The loop of `getNoProgressStreak`, from the newest record on. -/
def noProgressFrom (toolName argsHash : String) (streak : Nat) (latestResultHash : Option String) :
    List ToolCallRecord → Nat × Option String
  | [] => (streak, latestResultHash)
  | record :: rest =>
    if !record.isCall toolName argsHash then
      noProgressFrom toolName argsHash streak latestResultHash rest
    else match nonEmpty record.resultHash with
      | none => noProgressFrom toolName argsHash streak latestResultHash rest
      | some resultHash =>
        match latestResultHash with
        | none => noProgressFrom toolName argsHash 1 (some resultHash) rest
        | some latest =>
          if resultHash ≠ latest then (streak, some latest)
          else noProgressFrom toolName argsHash (streak + 1) (some latest) rest

def getNoProgressStreak (history : List ToolCallRecord) (toolName argsHash : String) :
    Nat × Option String :=
  noProgressFrom toolName argsHash 0 none history.reverse

structure PingPongStreak where
  count : Nat := 0
  pairedToolName : Option String := none
  pairedSignature : Option String := none
  noProgressEvidence : Bool := false
  deriving DecidableEq, Repr

/-- How many records, from the newest on, alternate between two signatures. -/
def alternatingTailCount (expected next : String) : List ToolCallRecord → Nat
  | [] => 0
  | record :: rest =>
    if record.argsHash ≠ expected then 0 else alternatingTailCount next expected rest + 1

/-- The outcomes on each side, and whether one has changed: the last loop of
`getPingPongStreak`. -/
def pingPongEvidence (last other : String) (firstHashA firstHashB : Option String) :
    List ToolCallRecord → Bool
  | [] => firstHashA.isSome && firstHashB.isSome
  | record :: rest =>
    match nonEmpty record.resultHash with
    | none => false
    | some resultHash =>
      if record.argsHash = last then
        match firstHashA with
        | none => pingPongEvidence last other (some resultHash) firstHashB rest
        | some first => first = resultHash && pingPongEvidence last other firstHashA firstHashB rest
      else if record.argsHash = other then
        match firstHashB with
        | none => pingPongEvidence last other firstHashA (some resultHash) rest
        | some first => first = resultHash && pingPongEvidence last other firstHashA firstHashB rest
      else false

def getPingPongStreak (history : List ToolCallRecord) (currentSignature : String) :
    PingPongStreak :=
  match history.reverse with
  | [] => {}
  | last :: earlier =>
    match earlier.find? fun record => record.argsHash ≠ last.argsHash with
    | none => {}
    | some other =>
      if other.argsHash = "" || other.toolName = "" then {}
      else
        let tailCount := alternatingTailCount last.argsHash other.argsHash history.reverse
        if tailCount < 2 || currentSignature ≠ other.argsHash then {}
        else
          { count := tailCount + 1
            pairedToolName := some last.toolName
            pairedSignature := some last.argsHash
            noProgressEvidence := pingPongEvidence last.argsHash other.argsHash none none
              (history.drop (history.length - tailCount)) }

/-! ### Detection -/

inductive LoopLevel
  | warning
  | critical
  deriving DecidableEq, Repr

inductive LoopDetectorKind
  | genericRepeat
  | knownPollNoProgress
  | globalCircuitBreaker
  | pingPong
  deriving DecidableEq, Repr

/-- A `LoopDetectionResult` with `stuck: true`. -/
structure LoopDetection where
  level : LoopLevel
  detector : LoopDetectorKind
  count : Nat
  message : String
  pairedToolName : Option String := none
  warningKey : String
  deriving DecidableEq, Repr

/-- `canonicalPairKey`. -/
def canonicalPairKey (signatureA signatureB : String) : String :=
  if signatureB < signatureA then signatureB ++ "|" ++ signatureA else signatureA ++ "|" ++
    signatureB

section Detection

variable {Params Outcome : Type} (digests : Digests Params Outcome)

def detectToolCallLoop (history : List ToolCallRecord) (toolName : String) (params : Params)
    (config : ToolLoopDetectionConfig) : Option LoopDetection :=
  let resolved := resolveLoopDetectionConfig config
  if !resolved.enabled then none
  else
    let currentHash := hashToolCall digests toolName params
    let (noProgressStreak, latestResultHash) := getNoProgressStreak history toolName currentHash
    let knownPollTool := isKnownPollToolCall digests toolName params
    let pingPong := getPingPongStreak history currentHash
    let streakKey := toolName ++ ":" ++ currentHash ++ ":" ++ latestResultHash.getD "none"
    let pingPongWarningKey := "pingpong:" ++ match pingPong.pairedSignature with
      | some signature => canonicalPairKey currentHash signature
      | none => toolName ++ ":" ++ currentHash
    let recentCount := history.countP fun record => record.isCall toolName currentHash
    if resolved.globalCircuitBreakerThreshold ≤ noProgressStreak then
      some {
        level := .critical
        detector := .globalCircuitBreaker
        count := noProgressStreak
        message := "CRITICAL: " ++ toolName ++ " has repeated identical no-progress outcomes " ++
          toString noProgressStreak ++
            " times. Session execution blocked by global circuit breaker " ++
          "to prevent runaway loops."
        warningKey := "global:" ++ streakKey }
    else if knownPollTool && resolved.knownPollNoProgress &&
        decide (resolved.criticalThreshold ≤ noProgressStreak) then
      some {
        level := .critical
        detector := .knownPollNoProgress
        count := noProgressStreak
        message := "CRITICAL: Called " ++ toolName ++ " with identical arguments and no progress "
          ++
          toString noProgressStreak ++ " times. This appears to be a stuck polling loop. Session "
            ++
          "execution blocked to prevent resource waste."
        warningKey := "poll:" ++ streakKey }
    else if knownPollTool && resolved.knownPollNoProgress &&
        decide (resolved.warningThreshold ≤ noProgressStreak) then
      some {
        level := .warning
        detector := .knownPollNoProgress
        count := noProgressStreak
        message := "WARNING: You have called " ++ toolName ++ " " ++ toString noProgressStreak ++
          " times with identical arguments and no progress. Stop polling and either (1) increase "
            ++
          "wait time between checks, or (2) report the task as failed if the process is stuck."
        warningKey := "poll:" ++ streakKey }
    else if resolved.pingPong && decide (resolved.criticalThreshold ≤ pingPong.count) &&
        pingPong.noProgressEvidence then
      some {
        level := .critical
        detector := .pingPong
        count := pingPong.count
        message := "CRITICAL: You are alternating between repeated tool-call patterns (" ++
          toString pingPong.count ++ " consecutive calls) with no progress. This appears to be a "
            ++
          "stuck ping-pong loop. Session execution blocked to prevent resource waste."
        pairedToolName := pingPong.pairedToolName
        warningKey := pingPongWarningKey }
    else if resolved.pingPong && decide (resolved.warningThreshold ≤ pingPong.count) then
      some {
        level := .warning
        detector := .pingPong
        count := pingPong.count
        message := "WARNING: You are alternating between repeated tool-call patterns (" ++
          toString pingPong.count ++ " consecutive calls). This looks like a ping-pong loop; stop "
            ++
          "retrying and report the task as failed."
        pairedToolName := pingPong.pairedToolName
        warningKey := pingPongWarningKey }
    else if !knownPollTool && resolved.genericRepeat &&
        decide (resolved.warningThreshold ≤ recentCount) then
      some {
        level := .warning
        detector := .genericRepeat
        count := recentCount
        message := "WARNING: You have called " ++ toolName ++ " " ++ toString recentCount ++
          " times with identical arguments. If this is not making progress, stop retrying and " ++
          "report the task as failed."
        warningKey := "generic:" ++ toolName ++ ":" ++ currentHash }
    else none

/-! ### Recording -/

def recordToolCall (history : List ToolCallRecord) (toolName : String) (params : Params)
    (toolCallId : Option String) (config : ToolLoopDetectionConfig) : List ToolCallRecord :=
  let pushed := history ++ [{
    toolName
    argsHash := hashToolCall digests toolName params
    toolCallId }]
  if (resolveLoopDetectionConfig config).historySize < pushed.length then pushed.drop 1 else pushed

/-- Whether an outcome belongs to a recorded call. -/
def ToolCallRecord.awaits (record : ToolCallRecord) (toolName argsHash : String)
    (toolCallId : Option String) : Bool :=
  ((nonEmpty toolCallId).isNone || record.toolCallId = toolCallId) &&
    record.isCall toolName argsHash && record.resultHash.isNone

/-- Writes an outcome to the newest call it belongs to, in a list that starts with the newest. -/
def settleNewest (toolName argsHash : String) (toolCallId : Option String) (resultHash : String) :
    List ToolCallRecord → Option (List ToolCallRecord)
  | [] => none
  | record :: rest =>
    if record.awaits toolName argsHash toolCallId then
      some ({ record with resultHash := some resultHash } :: rest)
    else (settleNewest toolName argsHash toolCallId resultHash rest).map (record :: ·)

def recordToolCallOutcome (history : List ToolCallRecord) (toolName : String) (params : Params)
    (toolCallId : Option String) (outcome : Outcome) (config : ToolLoopDetectionConfig) :
    List ToolCallRecord :=
  match nonEmpty (digests.hashToolOutcome toolName params outcome) with
  | none => history
  | some resultHash =>
    let argsHash := hashToolCall digests toolName params
    let recorded : List ToolCallRecord :=
      match settleNewest toolName argsHash toolCallId resultHash history.reverse with
      | some settled => settled.reverse
      | none => history ++ [ToolCallRecord.mk toolName argsHash toolCallId (some resultHash)]
    recorded.drop (recorded.length - (resolveLoopDetectionConfig config).historySize)

end Detection

end OpenClaw.Agents
