/-
This file is the data of a session transcript as the agent code reads it: the
messages of `pi-agent-core` with the fields the repair passes look at, the tool
calls of an assistant turn (`extractToolCallsFromAssistant`), the call a tool
result answers (`extractToolResultId`) and the name a result is given.

A field of type `unknown` is a `Value`: the code only tells strings from the
rest. What no pass reads of a message or of a block is carried along in `rest`.
An entry of the list that is not an object (`null`) is an `Entry.other`.
-/

import OpenClaw.Shared.Text

namespace OpenClaw.Transcript

open Text

/-! ### Values, blocks and messages -/

/-- A value of type `unknown`; anything structured is kept as its serialisation. -/
inductive Value
  | undefined
  | null
  | boolean (value : Bool)
  | number (value : Int)
  | string (text : String)
  | other (json : String)
  deriving DecidableEq, Repr

/-- `readStringValue`: the string, when the value is one. -/
def Value.readString : Value → Option String
  | .string text => some text
  | _ => none

/-- The string, when the value is one and not empty. -/
def Value.nonEmptyString (value : Value) : Option String := nonEmpty value.readString

/-- `value !== undefined && value !== null`. -/
def Value.isPresent : Value → Bool
  | .undefined | .null => false
  | _ => true

/-- An element of an `attachments` array. -/
inductive Attachment
  | withContent (content : Value) (rest : String)
  | other (value : Value)
  deriving DecidableEq, Repr

/-- The `input` or `arguments` of a tool call: a record with an `attachments` array, or
anything else. -/
inductive Arguments
  | withAttachments (attachments : List Attachment) (rest : String)
  | other (value : Value)
  deriving DecidableEq, Repr

def Arguments.isPresent : Arguments → Bool
  | .withAttachments _ _ => true
  | .other value => value.isPresent

/-- A content block that is an object. -/
structure Block where
  type : Value
  id : Value := .undefined
  name : Value := .undefined
  text : Value := .undefined
  input : Arguments := .other .undefined
  arguments : Arguments := .other .undefined
  rest : String := ""
  deriving DecidableEq, Repr

inductive ContentItem
  | block (block : Block)
  | other (value : Value)
  deriving DecidableEq, Repr

/-- The `content` of a message: an array, or anything else. -/
inductive Content
  | array (items : List ContentItem)
  | other (value : Value)
  deriving DecidableEq, Repr

structure Message where
  role : Value
  content : Content := .other .undefined
  stopReason : Value := .undefined
  toolCallId : Value := .undefined
  toolUseId : Value := .undefined
  toolName : Value := .undefined
  isError : Value := .undefined
  timestamp : Value := .undefined
  rest : String := ""
  deriving DecidableEq, Repr

/-- An entry of a message list: a message, or something that is not an object. -/
inductive Entry
  | object (message : Message)
  | other (value : Value)
  deriving DecidableEq, Repr

def Message.isAssistant (message : Message) : Bool := message.role = .string "assistant"

def Message.isToolResult (message : Message) : Bool := message.role = .string "toolResult"

theorem Message.isToolResult_eq_false {message : Message} (assistant : message.isAssistant) :
    message.isToolResult = false := by
  simp only [Message.isAssistant, decide_eq_true_iff] at assistant
  simp [Message.isToolResult, assistant]

/-- Whether the turn was cut short: `stopReason === "error" || stopReason === "aborted"`. -/
def Message.isErrored (message : Message) : Bool :=
  message.stopReason = .string "error" || message.stopReason = .string "aborted"

def Entry.isAssistant : Entry → Bool
  | .object message => message.isAssistant
  | .other _ => false

def Entry.isToolResult : Entry → Bool
  | .object message => message.isToolResult
  | .other _ => false

theorem Entry.isToolResult_eq_false {entry : Entry} (assistant : entry.isAssistant) :
    entry.isToolResult = false := by
  cases entry with
  | object message => exact message.isToolResult_eq_false assistant
  | other value => rfl

/-! ### Tool calls and the results that answer them -/

/-- The block types of `TOOL_CALL_TYPES`. -/
def isToolCallType (type : Value) : Bool :=
  type = .string "toolCall" || type = .string "toolUse" || type = .string "functionCall"

structure ToolCallLike where
  id : String
  name : Option String
  deriving DecidableEq, Repr

/-- The tool call a content block is, if its type and id make it one. -/
def ContentItem.toolCall? : ContentItem → Option ToolCallLike
  | .block record =>
    match record.id.nonEmptyString with
    | some id => if isToolCallType record.type then some ⟨id, record.name.readString⟩ else none
    | none => none
  | .other _ => none

def extractToolCallsFromAssistant (message : Message) : List ToolCallLike :=
  match message.content with
  | .array items => items.filterMap ContentItem.toolCall?
  | .other _ => []

def extractToolResultId (message : Message) : Option String :=
  message.toolCallId.nonEmptyString <|> message.toolUseId.nonEmptyString

def missingToolResultText : String :=
  "[openclaw] missing tool result in session history; inserted synthetic error result for " ++
    "transcript repair."

/-- Whether a message is a tool result for a call id. -/
def Message.answers (message : Message) (id : String) : Prop :=
  message.isToolResult ∧ extractToolResultId message = some id

instance (message : Message) (id : String) : Decidable (message.answers id) :=
  inferInstanceAs (Decidable (_ ∧ _))

def Entry.answers : Entry → String → Prop
  | .object message, id => message.answers id
  | .other _, _ => False

instance : (entry : Entry) → (id : String) → Decidable (entry.answers id)
  | .object message, id => inferInstanceAs (Decidable (message.answers id))
  | .other _, _ => inferInstanceAs (Decidable False)

/-- The synthetic error result that stands for a result the history does not have. -/
def makeMissingToolResult (toolCallId : String) (toolName : Option String) (now : Int) : Message where
  role := .string "toolResult"
  toolCallId := .string toolCallId
  toolName := .string (toolName.getD "unknown")
  content := .array [.block { type := .string "text", text := .string missingToolResultText }]
  isError := .boolean true
  timestamp := .number now

/-- The name a result is given: its own, trimmed; else the one of its call; else "unknown"
when it had a blank one. -/
def normalizeToolResultName (message : Message) (fallbackName : Option String) : Message :=
  match normalizeOptionalString message.toolName.readString with
  | some name => { message with toolName := .string name }
  | none =>
    match normalizeOptionalString fallbackName with
    | some name => { message with toolName := .string name }
    | none =>
      match message.toolName with
      | .string _ => { message with toolName := .string "unknown" }
      | _ => message

/-! ### Plain messages -/

/-- An assistant turn with the given tool calls. -/
def turnCalling (ids : List String) (stopReason : String) : Message where
  role := .string "assistant"
  stopReason := .string stopReason
  content := .array (ids.map fun id => .block
    { type := .string "toolCall", id := .string id, name := .string "read",
      arguments := .other (.other "\x7b\x7d") })

def resultFor (id : String) : Message where
  role := .string "toolResult"
  toolCallId := .string id

/-! ### What renaming keeps -/

@[simp] theorem isToolResult_normalizeToolResultName (message : Message) (fallback : Option String) :
    (normalizeToolResultName message fallback).isToolResult = message.isToolResult := by
  unfold normalizeToolResultName
  split
  · rfl
  · split
    · rfl
    · split <;> rfl

@[simp] theorem extractToolResultId_normalizeToolResultName (message : Message)
    (fallback : Option String) :
    extractToolResultId (normalizeToolResultName message fallback) = extractToolResultId message := by
  unfold normalizeToolResultName
  split
  · rfl
  · split
    · rfl
    · split <;> rfl

theorem normalizeOptionalString_unknown : normalizeOptionalString (some "unknown") = some "unknown" := by
  decide

/-- A name that is its own normal form is kept. -/
theorem normalizeToolResultName_of_normal {message : Message} {name : String}
    (named : message.toolName = .string name)
    (normal : normalizeOptionalString (some name) = some name) (fallback : Option String) :
    normalizeToolResultName message fallback = message := by
  rw [normalizeToolResultName, named, Value.readString, normal]
  cases message
  simp_all

/-- Naming a result twice is naming it once. -/
@[simp] theorem normalizeToolResultName_idem (message : Message) (fallback : Option String) :
    normalizeToolResultName (normalizeToolResultName message fallback) fallback =
      normalizeToolResultName message fallback := by
  have normalOf : ∀ {text : Option String} {name : String}, normalizeOptionalString text = some name →
      normalizeOptionalString (some name) = some name := fun normalised =>
    normalised ▸ normalizeOptionalString_idem _
  cases own : normalizeOptionalString message.toolName.readString with
  | some name =>
    have named : normalizeToolResultName message fallback =
        { message with toolName := .string name } := by rw [normalizeToolResultName, own]
    rw [named]
    exact normalizeToolResultName_of_normal rfl (normalOf own) fallback
  | none =>
    cases other : normalizeOptionalString fallback with
    | some name =>
      have named : normalizeToolResultName message fallback =
          { message with toolName := .string name } := by rw [normalizeToolResultName, own, other]
      rw [named]
      exact normalizeToolResultName_of_normal rfl (normalOf other) fallback
    | none =>
      by_cases blank : ∃ text, message.toolName = .string text
      · obtain ⟨text, blank⟩ := blank
        have named : normalizeToolResultName message fallback =
            { message with toolName := .string "unknown" } := by
          rw [normalizeToolResultName, own, other, blank]
        rw [named]
        exact normalizeToolResultName_of_normal rfl normalizeOptionalString_unknown fallback
      · have kept : normalizeToolResultName message fallback = message := by
          simp only [normalizeToolResultName, own, other]
          split
          · rename_i text named
            exact absurd ⟨text, named⟩ blank
          · rfl
        rw [kept, kept]

theorem extractToolResultId_makeMissingToolResult {id : String} (nonempty : id ≠ "")
    (name : Option String) (now : Int) :
    extractToolResultId (makeMissingToolResult id name now) = some id := by
  have read : nonEmpty (some id) = some id := (nonEmpty_eq_some_iff _ _).2 ⟨rfl, nonempty⟩
  rw [extractToolResultId, makeMissingToolResult, Value.nonEmptyString, Value.readString, read]
  rfl

@[simp] theorem isToolResult_makeMissingToolResult (id : String) (name : Option String) (now : Int) :
    (makeMissingToolResult id name now).isToolResult = true := rfl

/-- The id of a tool call is never empty. -/
theorem ToolCallLike.id_ne_empty {message : Message} {call : ToolCallLike}
    (made : call ∈ extractToolCallsFromAssistant message) : call.id ≠ "" := by
  unfold extractToolCallsFromAssistant at made
  split at made
  · obtain ⟨item, -, read⟩ := List.mem_filterMap.1 made
    cases item with
    | other value => cases read
    | block record =>
      simp only [ContentItem.toolCall?] at read
      split at read
      · rename_i id nonempty
        split at read
        · obtain rfl := Option.some.inj read
          exact ((nonEmpty_eq_some_iff _ _).1 nonempty).2
        · cases read
      · cases read
  · cases made

end OpenClaw.Transcript
