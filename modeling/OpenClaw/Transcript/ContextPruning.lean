/-
This file is the pruning of a session's context before a model call
(`pi-hooks/context-pruning/pruner.ts`): old tool results are first trimmed to their head and
tail, and, when that is not enough, cleared one after the other.

Text is a list of UTF-16 code units, which is what lengths and slices count. Sizes are the
module's own estimate: code units, with the scripts weighted that take a token per character,
and a flat figure per image. Ratios are exact. Which tools may be pruned is a parameter, the
predicate the settings or the caller give.
-/

import OpenClaw.Base.Delimited
import OpenClaw.Markdown.IR

namespace OpenClaw.ContextPruning

open Markdown (CodeUnit units newline)

abbrev Text := List CodeUnit

/-! ### Messages and settings -/

/-- A block of a user message or of a tool result. -/
inductive ContentBlock
  | text (text : Text)
  | image (data : String)
  deriving DecidableEq

/-- A block of an assistant turn, with the strings it has where the estimate looks for some. -/
inductive AssistantBlock
  | text (text : Option Text)
  | thinking (redacted : Bool) (thinking : Option Text) (data : Option Text)
      (thinkingSignature : Option Text)
  /-- With the length of its arguments as JSON, if they have one. -/
  | toolCall (argumentsLength : Option ℕ)
  | other
  deriving DecidableEq

inductive UserContent
  | plain (text : Text)
  | blocks (blocks : List ContentBlock)
  deriving DecidableEq

structure ToolResultMessage where
  toolName : String
  content : List ContentBlock
  rest : String := ""
  deriving DecidableEq

inductive Message
  | user (content : UserContent) (rest : String)
  | assistant (content : List AssistantBlock) (rest : String)
  | toolResult (result : ToolResultMessage)
  | other (rest : String)
  deriving DecidableEq

def Message.isUser : Message → Bool
  | .user _ _ => true
  | _ => false

def Message.isAssistant : Message → Bool
  | .assistant _ _ => true
  | _ => false

structure SoftTrim where
  maxChars : ℤ
  headChars : ℤ
  tailChars : ℤ

structure HardClear where
  enabled : Bool
  placeholder : Text

structure PruningSettings where
  keepLastAssistants : ℤ
  softTrimRatio : ℚ
  hardClearRatio : ℚ
  minPrunableToolChars : ℤ
  softTrim : SoftTrim
  hardClear : HardClear

structure PruneParams where
  messages : List Message
  settings : PruningSettings
  /-- The context window of the model, if there is one. -/
  modelContextWindow : Option ℚ
  /-- The override, if it is a finite number. -/
  contextWindowTokensOverride : Option ℚ
  isToolPrunable : String → Bool
  dropThinkingBlocksForEstimate : Bool

/-! ### The estimate -/

def charsPerTokenEstimate : ℕ := 4

def imageCharEstimate : ℕ := 8000

def isHighSurrogate (unit : CodeUnit) : Bool := 0xD800 ≤ unit && unit ≤ 0xDBFF

def isLowSurrogate (unit : CodeUnit) : Bool := 0xDC00 ≤ unit && unit ≤ 0xDFFF

/-- The code points of `NON_LATIN_RE`. -/
def isNonLatin (codePoint : ℕ) : Bool :=
  (0x2E80 ≤ codePoint && codePoint ≤ 0x9FFF) || (0xA000 ≤ codePoint && codePoint ≤ 0xA4FF) ||
    (0xAC00 ≤ codePoint && codePoint ≤ 0xD7AF) || (0xF900 ≤ codePoint && codePoint ≤ 0xFAFF) ||
    (0x20000 ≤ codePoint && codePoint ≤ 0x2FA1F)

/-- `text.match(NON_LATIN_RE)`, counted: a surrogate pair is one code point. -/
def nonLatinCount : Text → ℕ
  | [] => 0
  | [unit] => if isNonLatin unit.toNat then 1 else 0
  | unit :: next :: rest =>
    if isHighSurrogate unit && isLowSurrogate next then
      (if isNonLatin (0x10000 + (unit.toNat - 0xD800) * 0x400 + (next.toNat - 0xDC00)) then 1
        else 0) + nonLatinCount rest
    else (if isNonLatin unit.toNat then 1 else 0) + nonLatinCount (next :: rest)

/-- `text.match(CJK_SURROGATE_HIGH_RE)`, counted. -/
def cjkSurrogates : Text → ℕ
  | unit :: next :: rest =>
    if 0xD840 ≤ unit && unit ≤ 0xD87E && isLowSurrogate next then 1 + cjkSurrogates rest
    else cjkSurrogates (next :: rest)
  | _ => 0

def countCodePoints (text : Text) (nonLatin : ℕ) : ℕ :=
  if nonLatin = 0 then text.length else text.length - cjkSurrogates text

def estimateStringChars (text : Text) : ℕ :=
  if text.length = 0 then 0
  else countCodePoints text (nonLatinCount text) +
    nonLatinCount text * (charsPerTokenEstimate - 1)

def ContentBlock.chars : ContentBlock → ℕ
  | .text value => estimateStringChars value
  | .image _ => imageCharEstimate

def estimateTextAndImageChars (content : List ContentBlock) : ℕ :=
  (content.map ContentBlock.chars).sum

def estimateOptional (text : Option Text) : ℕ := (text.map estimateStringChars).getD 0

def AssistantBlock.chars : AssistantBlock → ℕ
  | .text value => estimateOptional value
  | .thinking redacted thought data signature =>
    estimateOptional thought + (if redacted then estimateOptional data else 0) +
      estimateOptional signature
  | .toolCall argumentsLength => argumentsLength.getD 128
  | .other => 0

def estimateMessageChars : Message → ℕ
  | .user (.plain text) _ => estimateStringChars text
  | .user (.blocks blocks) _ => estimateTextAndImageChars blocks
  | .assistant content _ => (content.map AssistantBlock.chars).sum
  | .toolResult result => estimateTextAndImageChars result.content
  | .other _ => 256

def estimateContextChars (messages : List Message) : ℕ :=
  (messages.map estimateMessageChars).sum

/-! ### Thinking -/

def AssistantBlock.isThinking : AssistantBlock → Bool
  | .thinking _ _ _ _ => true
  | _ => false

def latestAssistantIndex (messages : List Message) : Option ℕ :=
  (List.range messages.length).reverse.find? fun index =>
    (messages[index]?.map Message.isAssistant).getD false

/-- A turn without its thinking; one that is left with nothing gets an empty text. -/
def withoutThinking (content : List AssistantBlock) : List AssistantBlock :=
  if content.any AssistantBlock.isThinking then
    let nextContent := content.filter fun block => !block.isThinking
    if nextContent.length > 0 then nextContent else [.text (some [])]
  else content

def dropThinkingBlocks (messages : List Message) : List Message :=
  messages.mapIdx fun index message =>
    match message with
    | .assistant content rest =>
      if latestAssistantIndex messages = some index then message
      else .assistant (withoutThinking content) rest
    | _ => message

/-! ### Segments, heads and tails -/

def prunedContextImageMarker : Text := units "[image removed during context pruning]"

def ContentBlock.isImage : ContentBlock → Bool
  | .image _ => true
  | .text _ => false

def hasImageBlocks (content : List ContentBlock) : Bool := content.any ContentBlock.isImage

def collectTextSegments (content : List ContentBlock) : List Text :=
  content.filterMap fun
    | .text text => some text
    | .image _ => none

def collectPrunableToolResultSegments (content : List ContentBlock) : List Text :=
  content.map fun
    | .text text => text
    | .image _ => prunedContextImageMarker

def estimateJoinedTextLength (parts : List Text) : ℕ :=
  if parts.length = 0 then 0
  else (parts.map List.length).sum + (parts.length - 1)

/-- The loop of `takeHeadFromJoinedText`, at the part of an index. -/
def takeHeadLoop (index : ℕ) (remaining : ℕ) (out : Text) : List Text → Text
  | [] => out
  | part :: parts =>
    if remaining = 0 then out
    else
      let out := if 0 < index then out ++ [newline] else out
      let remaining := if 0 < index then remaining - 1 else remaining
      if remaining = 0 then out
      else if part.length ≤ remaining then
        takeHeadLoop (index + 1) (remaining - part.length) (out ++ part) parts
      else out ++ part.take remaining

def takeHeadFromJoinedText (parts : List Text) (maxChars : ℕ) : Text :=
  if maxChars = 0 ∨ parts.length = 0 then [] else takeHeadLoop 0 maxChars [] parts

/-- The loop of `takeTailFromJoinedText`, over the parts from the last one on. -/
def takeTailLoop (remaining : ℕ) (out : List Text) : List Text → List Text
  | [] => out
  | part :: before =>
    if remaining = 0 then out
    else if part.length ≤ remaining then
      let out := out ++ [part]
      let remaining := remaining - part.length
      if 0 < remaining ∧ before ≠ [] then takeTailLoop (remaining - 1) (out ++ [[newline]]) before
      else takeTailLoop remaining out before
    else out ++ [part.drop (part.length - remaining)]

def takeTailFromJoinedText (parts : List Text) (maxChars : ℕ) : Text :=
  if maxChars = 0 ∨ parts.length = 0 then []
  else (takeTailLoop maxChars [] parts.reverse).reverse.flatten

/-! ### Soft trimming -/

/-- The parts whose joined text stands for a result. -/
def resultParts (content : List ContentBlock) : List Text :=
  if hasImageBlocks content then collectPrunableToolResultSegments content
  else collectTextSegments content

def trimSeparator : Text := units "\n...\n"

def trimNote (headChars tailChars rawLen : ℕ) : Text :=
  units ("\n\n[Tool result trimmed: kept first " ++ toString headChars ++ " chars and last " ++
    toString tailChars ++ " chars of " ++ toString rawLen ++ " chars.]")

def softTrimToolResultMessage (message : ToolResultMessage) (settings : PruningSettings) :
    Option ToolResultMessage :=
  let hasImages := hasImageBlocks message.content
  let parts := resultParts message.content
  let rawLen := estimateJoinedTextLength parts
  let joined : ToolResultMessage :=
    { message with content := [.text (Delimited.join newline parts)] }
  if rawLen ≤ settings.softTrim.maxChars then if hasImages then some joined else none
  else
    let headChars := (max 0 settings.softTrim.headChars).toNat
    let tailChars := (max 0 settings.softTrim.tailChars).toNat
    if headChars + tailChars ≥ rawLen then if hasImages then some joined else none
    else
      let head := takeHeadFromJoinedText parts headChars
      let tail := takeTailFromJoinedText parts tailChars
      let trimmed := head ++ trimSeparator ++ tail
      some { message with content := [.text (trimmed ++ trimNote headChars tailChars rawLen)] }

/-! ### Pruning -/

/-- The loop of `findAssistantCutoffIndex`, down from an index. -/
def scanAssistants (messages : List Message) : ℕ → ℤ → Option ℕ
  | 0, _ => none
  | index + 1, remaining =>
    if (messages[index]?.map Message.isAssistant).getD false then
      if remaining - 1 = 0 then some index else scanAssistants messages index (remaining - 1)
    else scanAssistants messages index remaining

def findAssistantCutoffIndex (messages : List Message) (keepLastAssistants : ℤ) : Option ℕ :=
  if keepLastAssistants ≤ 0 then some messages.length
  else scanAssistants messages messages.length keepLastAssistants

def findFirstUserIndex (messages : List Message) : Option ℕ :=
  messages.findIdx? Message.isUser

/-- What the loops carry: the prunable indexes met, the messages with what has been replaced,
and the running total. -/
structure PruneState where
  prunableToolIndexes : List ℕ
  output : List Message
  totalChars : ℤ

def replaceResult (state : PruneState) (index : ℕ) (before after : ToolResultMessage) :
    PruneState :=
  { state with
    output := state.output.set index (.toolResult after)
    totalChars := state.totalChars +
      ((estimateMessageChars (.toolResult after) : ℤ) - estimateMessageChars (.toolResult before)) }

def softTrimStep (params : PruneParams) (state : PruneState) (index : ℕ) : PruneState :=
  match params.messages[index]? with
  | some (.toolResult result) =>
    if !params.isToolPrunable result.toolName then state
    else
      let state := { state with prunableToolIndexes := state.prunableToolIndexes ++ [index] }
      match softTrimToolResultMessage result params.settings with
      | none => state
      | some updated => replaceResult state index result updated
  | _ => state

/-- The loop of hard clearing, over the prunable indexes to come. -/
def hardClearLoop (settings : PruningSettings) (charWindow : ℚ) : List ℕ → PruneState → PruneState
  | [], state => state
  | index :: indexes, state =>
    if state.totalChars / charWindow < settings.hardClearRatio then state
    else
      match state.output[index]? with
      | some (.toolResult result) =>
        hardClearLoop settings charWindow indexes
          (replaceResult state index result
            { result with content := [.text settings.hardClear.placeholder] })
      | _ => hardClearLoop settings charWindow indexes state

/-- `contextWindowTokensOverride`, when it is positive, else the window of the model. -/
def PruneParams.contextWindowTokens (params : PruneParams) : Option ℚ :=
  match params.contextWindowTokensOverride with
  | some tokens => if 0 < tokens then some tokens else params.modelContextWindow
  | none => params.modelContextWindow

def PruneParams.estimatedMessages (params : PruneParams) : List Message :=
  if params.dropThinkingBlocksForEstimate then dropThinkingBlocks params.messages
  else params.messages

/-- Soft trimming, from the first user message to the cutoff. -/
def softTrimAll (params : PruneParams) (cutoffIndex : ℕ) : PruneState :=
  let pruneStartIndex := (findFirstUserIndex params.messages).getD params.messages.length
  (List.range' pruneStartIndex (cutoffIndex - pruneStartIndex)).foldl (softTrimStep params)
    ⟨[], params.messages, estimateContextChars params.estimatedMessages⟩

def prunableToolChars (state : PruneState) : ℕ :=
  (state.prunableToolIndexes.map fun index =>
    match state.output[index]? with
    | some (.toolResult result) => estimateMessageChars (.toolResult result)
    | _ => 0).sum

def pruneContextMessages (params : PruneParams) : List Message :=
  match params.contextWindowTokens with
  | none => params.messages
  | some contextWindowTokens =>
    if contextWindowTokens ≤ 0 then params.messages
    else
      let charWindow := contextWindowTokens * charsPerTokenEstimate
      if charWindow ≤ 0 then params.messages
      else
        match findAssistantCutoffIndex params.messages params.settings.keepLastAssistants with
        | none => params.messages
        | some cutoffIndex =>
          if (estimateContextChars params.estimatedMessages : ℤ) / charWindow <
              params.settings.softTrimRatio then params.messages
          else
            let soft := softTrimAll params cutoffIndex
            if soft.totalChars / charWindow < params.settings.hardClearRatio then soft.output
            else if !params.settings.hardClear.enabled then soft.output
            else if (prunableToolChars soft : ℤ) < params.settings.minPrunableToolChars then
              soft.output
            else
              (hardClearLoop params.settings charWindow soft.prunableToolIndexes soft).output

end OpenClaw.ContextPruning
