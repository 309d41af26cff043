/-
This file is the preparation of a message list for a provider, `transformTransportMessages`.

The first pass rewrites each assistant turn for the target model and remembers, in one map
for the whole list, the ids it gives to tool calls; a tool result gets the id the map has for
its call at that point. The second pass drops turns that ended in an error or were aborted,
and when a message that is not a tool result comes after a turn, it appends a result for each
call of the turn that has none yet.

What neither pass reads of a message or of a block is carried along in `rest`.
-/

import OpenClaw.Base.OrderedMap
import OpenClaw.Shared.Text

namespace OpenClaw.Transport

open Text

/-- Which model a turn comes from. -/
structure Source where
  provider : String
  api : String
  model : String
  deriving DecidableEq

inductive Block
  | thinking (thinking : String) (redacted : Bool) (thinkingSignature : Option String)
      (rest : String)
  | text (text : String) (rest : String)
  | toolCall (id name : String) (thoughtSignature : Option String) (rest : String)
  | other (rest : String)
  deriving DecidableEq

inductive Message
  | user (rest : String)
  | assistant (source : Source) (stopReason : String) (content : List Block) (rest : String)
  | toolResult (toolCallId toolName content : String) (isError : Bool) (timestamp : Int)
      (rest : String)
  | other (role rest : String)
  deriving DecidableEq

def Message.isToolResult : Message → Bool
  | .toolResult .. => true
  | _ => false

def Message.isAssistant : Message → Bool
  | .assistant .. => true
  | _ => false

/-- `stopReason === "error" || stopReason === "aborted"`. -/
def isCutShort (stopReason : String) : Bool := stopReason = "error" || stopReason = "aborted"

/-- The target of the transformation and the normaliser of its transport, if it has one. -/
structure Target where
  model : Source
  normalizeToolCallId : Option (String → Source → String)

/-! ### The first pass -/

abbrev ToolCallIdMap := OrderedMap String String

/-- A block of a turn, kept, changed or left out, and the id map after it. -/
def transformBlock (target : Target) (source : Source) (idMap : ToolCallIdMap) :
    Block → ToolCallIdMap × Option Block
  | .thinking thinking redacted thinkingSignature rest =>
    let isSameModel := decide (source = target.model)
    let block := Block.thinking thinking redacted thinkingSignature rest
    if redacted then (idMap, if isSameModel then some block else none)
    else if isSameModel && (nonEmpty thinkingSignature).isSome then (idMap, some block)
    else if trim thinking = "" then (idMap, none)
    else (idMap, some (if isSameModel then block else .text thinking ""))
  | .text text rest =>
    (idMap, some (if source = target.model then .text text rest else .text text ""))
  | .toolCall id name thoughtSignature rest =>
    if source = target.model then (idMap, some (.toolCall id name thoughtSignature rest))
    else
      let signature := if (nonEmpty thoughtSignature).isSome then none else thoughtSignature
      match target.normalizeToolCallId with
      | none => (idMap, some (.toolCall id name signature rest))
      | some normalize =>
        let normalizedId := normalize id source
        if normalizedId = id then (idMap, some (.toolCall id name signature rest))
        else (idMap.set id normalizedId, some (.toolCall normalizedId name signature rest))
  | .other rest => (idMap, some (.other rest))

/-- The blocks of a turn, one after another. -/
def transformBlocks (target : Target) (source : Source) :
    ToolCallIdMap → List Block → ToolCallIdMap × List Block
  | idMap, [] => (idMap, [])
  | idMap, block :: rest =>
    let first := transformBlock target source idMap block
    let others := transformBlocks target source first.1 rest
    (others.1, first.2.toList ++ others.2)

/-- The id a tool result gets: `normalizedId && normalizedId !== msg.toolCallId`. -/
def carriedId (idMap : ToolCallIdMap) (toolCallId : String) : String :=
  (nonEmpty (idMap.get toolCallId)).getD toolCallId

def transformMessage (target : Target) (idMap : ToolCallIdMap) :
    Message → ToolCallIdMap × Message
  | .user rest => (idMap, .user rest)
  | .toolResult toolCallId toolName content isError timestamp rest =>
    (idMap, .toolResult (carriedId idMap toolCallId) toolName content isError timestamp rest)
  | .assistant source stopReason content rest =>
    let transformed := transformBlocks target source idMap content
    (transformed.1, .assistant source stopReason transformed.2 rest)
  | .other role rest => (idMap, .other role rest)

/-- The first pass. -/
def transformFrom (target : Target) : ToolCallIdMap → List Message → List Message
  | _, [] => []
  | idMap, message :: rest =>
    let transformed := transformMessage target idMap message
    transformed.2 :: transformFrom target transformed.1 rest

/-! ### The second pass -/

structure PendingToolCall where
  id : String
  name : String
  deriving DecidableEq

def Block.toolCall? : Block → Option PendingToolCall
  | .toolCall id name _ _ => some ⟨id, name⟩
  | _ => none

structure SecondPass where
  result : List Message := []
  pendingToolCalls : List PendingToolCall := []
  existingToolResultIds : List String := []

/-- The result a call is given that has none. -/
def missingResult (now : Int) (toolCall : PendingToolCall) : Message :=
  .toolResult toolCall.id toolCall.name "No result provided" true now ""

/-- What `appendMissingToolResults` appends. -/
def missingToolResults (now : Int) (pendingToolCalls : List PendingToolCall)
    (existingToolResultIds : List String) : List Message :=
  (pendingToolCalls.filter fun toolCall => toolCall.id ∉ existingToolResultIds).map
    (missingResult now)

/-- `appendMissingToolResults`, when calls are pending. -/
def SecondPass.flush (now : Int) (pass : SecondPass) : SecondPass :=
  if pass.pendingToolCalls = [] then pass
  else { result := pass.result ++
      missingToolResults now pass.pendingToolCalls pass.existingToolResultIds }

/-- One round of the loop. -/
def SecondPass.next (now : Int) (pass : SecondPass) (message : Message) : SecondPass :=
  match message with
  | .assistant _ stopReason content _ =>
    let flushed := pass.flush now
    if isCutShort stopReason then flushed
    else
      let toolCalls := content.filterMap Block.toolCall?
      let pushed := { flushed with result := flushed.result ++ [message] }
      if toolCalls = [] then pushed
      else { pushed with pendingToolCalls := toolCalls, existingToolResultIds := [] }
  | .toolResult toolCallId _ _ _ _ _ =>
    { pass with
      result := pass.result ++ [message]
      existingToolResultIds := toolCallId :: pass.existingToolResultIds }
  | _ =>
    let flushed := pass.flush now
    { flushed with result := flushed.result ++ [message] }

/-- The second pass. -/
def secondPass (now : Int) (messages : List Message) : List Message :=
  (messages.foldl (SecondPass.next now) {}).result

def transformTransportMessages (target : Target) (now : Int) (messages : List Message) :
    List Message :=
  secondPass now (transformFrom target ∅ messages)

end OpenClaw.Transport
