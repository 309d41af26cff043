/-
This file is `repairToolCallInputs` of `session-transcript-repair.ts`: an
assistant turn loses the tool-call blocks that no provider would accept (without
input, without id, or without a usable name), the names of the others are
trimmed, the attachments of `sessions_spawn` are redacted, and a turn all of
whose blocks are lost is dropped.

The report's `messages` is the new list even where the source returns the old
one: it does so only when no message was touched, and then the two are equal.
-/

import OpenClaw.Transcript.Messages

namespace OpenClaw.Transcript

open Text

/-! ### Tool-call blocks -/

def toolCallNameMaxChars : Nat := 64

/-- The characters of `TOOL_CALL_NAME_RE`. -/
def isToolCallNameCharacter (character : Char) : Bool :=
  character.isAlphanum || character = '_' || character = ':' || character = '.' || character = '-'

def isRawToolCallBlock (block : Block) : Bool := isToolCallType block.type

def hasToolCallInput (block : Block) : Bool := block.input.isPresent || block.arguments.isPresent

def hasNonEmptyStringField (value : Value) : Bool :=
  (normalizeOptionalString value.readString).isSome

def hasToolCallId (block : Block) : Bool := hasNonEmptyStringField block.id

/-- The allowed names, trimmed and in lower case; no restriction when none is left. -/
def normalizeAllowedToolNames (allowedToolNames : Option (List String)) : Option (List String) :=
  match allowedToolNames with
  | none => none
  | some names =>
    match (names.map fun name => normalizeLowercaseStringOrEmpty (some name)).filter (· ≠ "") with
    | [] => none
    | normalized => some normalized

def hasToolCallName (block : Block) (allowedToolNames : Option (List String)) : Bool :=
  match normalizeOptionalString block.name.readString with
  | none => false
  | some trimmed =>
    if trimmed.length > toolCallNameMaxChars || !trimmed.toList.all isToolCallNameCharacter then false
    else
      match allowedToolNames with
      | none => true
      | some names => names.contains (normalizeLowercaseStringOrEmpty (some trimmed))

def redactedContent : String := "__OPENCLAW_REDACTED__"

def redactAttachment : Attachment → Attachment
  | .withContent _ rest => .withContent (.string redactedContent) rest
  | .other value => .other value

def redactSessionsSpawnAttachmentsArgs : Arguments → Arguments
  | .withAttachments attachments rest => .withAttachments (attachments.map redactAttachment) rest
  | .other value => .other value

/-- The block with its name trimmed, unless that leaves nothing. -/
def trimBlockName (block : Block) : Block :=
  match normalizeOptionalString block.name.readString with
  | some name => { block with name := .string name }
  | none => block

/-- `sanitizeToolCallBlock`; blocks of other tools only have their name trimmed. -/
def sanitizeToolCallBlock (block : Block) : Block :=
  let named := trimBlockName block
  if normalizeLowercaseStringOrEmpty block.name.readString = "sessions_spawn" then
    { named with
      arguments := redactSessionsSpawnAttachmentsArgs named.arguments
      input := redactSessionsSpawnAttachmentsArgs named.input }
  else named

/-! ### Messages -/

/-- Whether a tool-call block is one the repair keeps. -/
def isUsableToolCall (allowedToolNames : Option (List String)) (block : Block) : Bool :=
  hasToolCallInput block && hasToolCallId block && hasToolCallName block allowedToolNames

/-- What a content block becomes; nothing when it is a tool call that cannot be used. -/
def repairContentItem (allowedToolNames : Option (List String)) : ContentItem → Option ContentItem
  | .block record =>
    if isRawToolCallBlock record then
      if isUsableToolCall allowedToolNames record then some (.block (sanitizeToolCallBlock record))
      else none
    else some (.block record)
  | .other value => some (.other value)

/-- A message after the repair, and the number of tool calls it lost; no message when all of
its content was lost. -/
def repairMessageToolCalls (allowedToolNames : Option (List String)) (message : Message) :
    Option Message × Nat :=
  match message.isAssistant, message.content with
  | true, .array items =>
    let nextContent := items.filterMap (repairContentItem allowedToolNames)
    let droppedInMessage := items.length - nextContent.length
    if droppedInMessage > 0 && nextContent.isEmpty then (none, droppedInMessage)
    else (some { message with content := .array nextContent }, droppedInMessage)
  | _, _ => (some message, 0)

structure ToolCallInputRepairReport where
  messages : List Entry
  droppedToolCalls : Nat
  droppedAssistantMessages : Nat
  deriving DecidableEq, Repr

def repairToolCallInputsOf (allowedToolNames : Option (List String)) :
    List Entry → ToolCallInputRepairReport
  | [] => ⟨[], 0, 0⟩
  | entry :: rest =>
    let report := repairToolCallInputsOf allowedToolNames rest
    match entry with
    | .other value => { report with messages := .other value :: report.messages }
    | .object message =>
      match repairMessageToolCalls allowedToolNames message with
      | (some repaired, dropped) =>
        { report with
          messages := .object repaired :: report.messages
          droppedToolCalls := dropped + report.droppedToolCalls }
      | (none, dropped) =>
        { report with
          droppedToolCalls := dropped + report.droppedToolCalls
          droppedAssistantMessages := report.droppedAssistantMessages + 1 }

def repairToolCallInputs (messages : List Entry) (allowedToolNames : Option (List String)) :
    ToolCallInputRepairReport :=
  repairToolCallInputsOf (normalizeAllowedToolNames allowedToolNames) messages

def sanitizeToolCallInputs (messages : List Entry) (allowedToolNames : Option (List String)) :
    List Entry := (repairToolCallInputs messages allowedToolNames).messages

/-! ### What the repair changes -/

end OpenClaw.Transcript
