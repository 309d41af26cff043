/-
This file is the turn validation an agent run puts a transcript through before it is
sent (`pi-embedded-helpers/turns.ts`): the strip of tool calls no result answers before
the next assistant turn, and the merge of neighbouring messages of one role.

It reads more of a message than the repair passes do: the ids a result may be filed
under, the usage and the error an assistant turn ends with. What no step reads is carried
along in `rest`.
-/

import OpenClaw.Transcript.Messages

namespace OpenClaw.Turns

open Text
open Transcript (Value)

/-! ### Messages -/

/-- Whether a JavaScript condition takes the value for true. -/
def isTruthy : Value → Bool
  | .undefined | .null => false
  | .boolean value => value
  | .number value => value ≠ 0
  | .string text => text ≠ ""
  | .other _ => true

/-- The fields a tool result, be it a message or a block, may have its call's id in. -/
structure ResultIds where
  toolUseId : Value := .undefined
  toolCallId : Value := .undefined
  tool_use_id : Value := .undefined
  tool_call_id : Value := .undefined
  callId : Value := .undefined
  call_id : Value := .undefined
  deriving DecidableEq, Repr

structure Block where
  type : Value
  id : Value := .undefined
  text : Value := .undefined
  resultIds : ResultIds := {}
  rest : String := ""
  deriving DecidableEq, Repr

/-- An element of a content array: an object, or anything else. -/
inductive ContentItem
  | block (block : Block)
  | other (value : Value)
  deriving DecidableEq, Repr

inductive Content
  | array (items : List ContentItem)
  | other (value : Value)
  deriving DecidableEq, Repr

structure Message where
  role : Value
  content : Content := .other .undefined
  stopReason : Value := .undefined
  errorMessage : Value := .undefined
  usage : Value := .undefined
  timestamp : Value := .undefined
  resultIds : ResultIds := {}
  rest : String := ""
  deriving DecidableEq, Repr

/-- An entry of a message list: a message, or something that is not an object. -/
inductive Entry
  | object (message : Message)
  | other (value : Value)
  deriving DecidableEq, Repr

/-- `Array.isArray(content) ? content : []`. -/
def Content.items : Content → List ContentItem
  | .array items => items
  | .other _ => []

/-- Whether an entry is a message of a role. -/
def Entry.hasRole (role : String) : Entry → Bool
  | .object message => message.role = .string role
  | .other _ => false

def Entry.isObject : Entry → Bool
  | .object _ => true
  | .other _ => false

/-! ### Tool calls and the ids results name -/

def isToolCallBlock (block : Block) : Bool :=
  block.type = .string "toolUse" || block.type = .string "toolCall" ||
    block.type = .string "functionCall"

def isAbortedAssistantTurn (message : Message) : Bool :=
  message.stopReason = .string "aborted" || message.stopReason = .string "error"

/-- `normalizeOptionalString` of an unknown value. -/
def normalized (value : Value) : Option String := normalizeOptionalString value.readString

/-- The id of the call a content item is: `extractToolCallsFromAssistant` reads no block
without a type of `TOOL_CALL_TYPES` and an id. -/
def ContentItem.callId? : ContentItem → Option String
  | .block record =>
    if Transcript.isToolCallType record.type then record.id.nonEmptyString else none
  | .other _ => none

def extractToolCallsFromAssistant (message : Message) : List String :=
  message.content.items.filterMap ContentItem.callId?

def extractToolResultId (ids : ResultIds) : Option String :=
  ids.toolCallId.nonEmptyString <|> ids.toolUseId.nonEmptyString

def extractToolResultIdsFromRecord (ids : ResultIds) : List String :=
  ([ids.toolUseId, ids.toolCallId, ids.tool_use_id, ids.tool_call_id, ids.callId,
    ids.call_id].filterMap normalized).dedup

/-- The ids of the results among the blocks of a message. -/
def ContentItem.resultIds : ContentItem → List String
  | .block record =>
    if record.type = .string "toolResult" || record.type = .string "tool" then
      extractToolResultIdsFromRecord record.resultIds
    else []
  | .other _ => []

def collectMatchingToolResultIds (message : Message) : List String :=
  (if message.role = .string "toolResult" then (extractToolResultId message.resultIds).toList
  else if message.role = .string "tool" then extractToolResultIdsFromRecord message.resultIds
  else []) ++ message.content.items.flatMap ContentItem.resultIds

/-- The ids results name before the next assistant turn; `later` is the list after the turn. -/
def collectFutureToolResultIds : List Entry → List String
  | [] => []
  | .other _ :: later => collectFutureToolResultIds later
  | .object message :: later =>
    if message.role = .string "assistant" then []
    else collectMatchingToolResultIds message ++ collectFutureToolResultIds later

/-! ### The strip -/

/-- The items the strip leaves: no falsy ones, and of the calls those with a valid id. -/
def keepsItem (validToolUseIds : List String) : ContentItem → Bool
  | .other value => isTruthy value
  | .block block =>
    if !isToolCallBlock block then true
    else
      match normalized block.id with
      | some blockId => validToolUseIds.contains blockId
      | none => false

def omittedText : ContentItem :=
  .block { type := .string "text", text := .string "[tool calls omitted]" }

/-- What an assistant turn, followed by `later`, becomes. -/
def stripTurn (message : Message) (later : List Entry) : Message :=
  let originalContent := message.content.items
  if originalContent.length = 0 then message
  else if (extractToolCallsFromAssistant message).length = 0 then message
  else
    let filteredContent := originalContent.filter (keepsItem (collectFutureToolResultIds later))
    if filteredContent.length = originalContent.length then message
    else if filteredContent.length = 0 then
      { message with
        content := .array (if isAbortedAssistantTurn message then [] else [omittedText]) }
    else { message with content := .array filteredContent }

def stripEntry (entry : Entry) (later : List Entry) : Entry :=
  match entry with
  | .other _ => entry
  | .object message =>
    if message.role = .string "assistant" then .object (stripTurn message later) else entry

def stripDanglingAnthropicToolUses : List Entry → List Entry
  | [] => []
  | entry :: later => stripEntry entry later :: stripDanglingAnthropicToolUses later

/-! ### The merge -/

/-- One turn of the loop of `validateTurnsWithConsecutiveMerge`: the result so far, and the
role of the last message that had one. -/
def mergeStep (role : String) (merge : Message → Message → Message)
    (state : List Entry × Value) (entry : Entry) : List Entry × Value :=
  let result := state.1
  let lastRole := state.2
  match entry with
  | .other _ => (result ++ [entry], lastRole)
  | .object message =>
    if !isTruthy message.role then (result ++ [entry], lastRole)
    else if message.role = lastRole ∧ lastRole = .string role then
      match result.getLast? with
      | some (.object lastMsg) => (result.dropLast ++ [.object (merge lastMsg message)], lastRole)
      | _ => (result ++ [entry], message.role)
    else (result ++ [entry], message.role)

def validateTurnsWithConsecutiveMerge (role : String) (merge : Message → Message → Message)
    (messages : List Entry) : List Entry :=
  (messages.foldl (mergeStep role merge) ([], .undefined)).1

/-- `...(value && { field: value })`: the field of the later message, when it says something. -/
def overriding (previous current : Value) : Value := if isTruthy current then current else previous

def mergeConsecutiveAssistantTurns (previous current : Message) : Message :=
  { previous with
    content := .array (previous.content.items ++ current.content.items)
    usage := overriding previous.usage current.usage
    stopReason := overriding previous.stopReason current.stopReason
    errorMessage := overriding previous.errorMessage current.errorMessage }

def mergeConsecutiveUserTurns (previous current : Message) : Message :=
  { current with
    content := .array (previous.content.items ++ current.content.items)
    timestamp := if current.timestamp.isPresent then current.timestamp else previous.timestamp }

def validateGeminiTurns (messages : List Entry) : List Entry :=
  validateTurnsWithConsecutiveMerge "assistant" mergeConsecutiveAssistantTurns messages

def validateAnthropicTurns (messages : List Entry) : List Entry :=
  validateTurnsWithConsecutiveMerge "user" mergeConsecutiveUserTurns
    (stripDanglingAnthropicToolUses messages)

/-! ### What a message is, whatever the strip does to it -/

@[simp] theorem role_stripTurn (message : Message) (later : List Entry) :
    (stripTurn message later).role = message.role := by
  unfold stripTurn
  dsimp only
  split_ifs <;> rfl

theorem stripEntry_of_not_assistant {entry : Entry} (other : entry.hasRole "assistant" = false)
    (later : List Entry) : stripEntry entry later = entry := by
  cases entry with
  | other value => rfl
  | object message =>
    rw [Entry.hasRole, decide_eq_false_iff_not] at other
    rw [stripEntry, if_neg other]

@[simp] theorem hasRole_stripEntry (role : String) (entry : Entry) (later : List Entry) :
    (stripEntry entry later).hasRole role = entry.hasRole role := by
  cases entry with
  | other value => rfl
  | object message =>
    rw [stripEntry]
    split
    · rw [Entry.hasRole, Entry.hasRole, role_stripTurn]
    · rfl

end OpenClaw.Turns
