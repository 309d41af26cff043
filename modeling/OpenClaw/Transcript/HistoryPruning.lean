/-
This file is the pruning of a history before a compaction (`compaction.ts`): the messages are
split by their share of the tokens, the first chunk is dropped and what is left is repaired,
until it fits the share of the context.

What a message counts, its details apart, is a parameter. Numbers are exact. The loop is given
turns to run; that it never runs out of them is proved and not assumed.
-/

import OpenClaw.Transcript.RepairedTranscripts

namespace OpenClaw.Compaction

open Transcript

/-! ### Splitting -/

def defaultParts : ℚ := 2

/-- Of a finite number. -/
def normalizeParts (parts : ℚ) (messageCount : ℕ) : ℕ :=
  if parts ≤ 1 then 1 else min (max 1 ⌊parts⌋.toNat) (max 1 messageCount)

/-- The tokens of a list, over what a message without its details counts. -/
def estimateMessagesTokens (estimateTokens : Entry → ℚ) (messages : List Entry) : ℚ :=
  (messages.map estimateTokens).sum

/-- The variables of `splitMessagesByTokenShare`. -/
structure SplitState where
  chunks : List (List Entry)
  current : List Entry
  currentTokens : ℚ
  pendingToolCallIds : Finset String
  pendingChunkStartIndex : Option ℕ

section Split

variable (estimateTokens : Entry → ℚ) (normalizedParts : ℕ) (targetTokens : ℚ)

def splitCurrentAtPendingBoundary (state : SplitState) : SplitState :=
  match state.pendingChunkStartIndex with
  | none => state
  | some index =>
    if index = 0 ∨ state.chunks.length ≥ normalizedParts - 1 then state
    else
      { state with
        chunks := state.chunks ++ [state.current.take index]
        current := state.current.drop index
        currentTokens := estimateMessagesTokens estimateTokens (state.current.drop index)
        pendingChunkStartIndex := some 0 }

/-- A new chunk is begun when the message would take the current one over the target. -/
def beginChunk (state : SplitState) (messageTokens : ℚ) : SplitState :=
  if state.pendingToolCallIds = ∅ ∧ state.chunks.length < normalizedParts - 1 ∧
      0 < state.current.length ∧ targetTokens < state.currentTokens + messageTokens then
    { state with
      chunks := state.chunks ++ [state.current]
      current := []
      currentTokens := 0
      pendingChunkStartIndex := none }
  else state

def addMessage (state : SplitState) (message : Entry) (messageTokens : ℚ) : SplitState :=
  { state with
    current := state.current ++ [message]
    currentTokens := state.currentTokens + messageTokens }

/-- An assistant turn has its calls pending, unless it was cut short. -/
def awaitResults (state : SplitState) (message : Entry) : SplitState :=
  let toolCalls := message.calls
  let keepsPending := !message.isErrored && 0 < toolCalls.length
  { state with
    pendingToolCallIds := if keepsPending then (toolCalls.map ToolCallLike.id).toFinset else ∅
    pendingChunkStartIndex := if keepsPending then some (state.current.length - 1) else none }

def resultId : Entry → Option String
  | .object message => extractToolResultId message
  | .other _ => none

def takeResult (state : SplitState) (message : Entry) : SplitState :=
  let state :=
    match resultId message with
    | none => { state with pendingToolCallIds := ∅, pendingChunkStartIndex := none }
    | some id => { state with pendingToolCallIds := state.pendingToolCallIds.erase id }
  if state.pendingToolCallIds = ∅ ∧ state.chunks.length < normalizedParts - 1 ∧
      targetTokens < state.currentTokens then
    { splitCurrentAtPendingBoundary estimateTokens normalizedParts state with
      pendingChunkStartIndex := none }
  else state

def splitStep (state : SplitState) (message : Entry) : SplitState :=
  let messageTokens := estimateTokens message
  let state := addMessage (beginChunk normalizedParts targetTokens state messageTokens) message
    messageTokens
  if message.isAssistant then awaitResults state message
  else if message.isToolResult ∧ state.pendingToolCallIds ≠ ∅ then
    takeResult estimateTokens normalizedParts targetTokens state message
  else state

def splitEnd (state : SplitState) : List (List Entry) :=
  let state :=
    if state.pendingToolCallIds ≠ ∅ ∧ targetTokens < state.currentTokens then
      splitCurrentAtPendingBoundary estimateTokens normalizedParts state
    else state
  if 0 < state.current.length then state.chunks ++ [state.current] else state.chunks

end Split

def splitMessagesByTokenShare (estimateTokens : Entry → ℚ) (messages : List Entry) (parts : ℚ) :
    List (List Entry) :=
  if messages.length = 0 then []
  else
    let normalizedParts := normalizeParts parts messages.length
    if normalizedParts ≤ 1 then [messages]
    else
      let targetTokens := estimateMessagesTokens estimateTokens messages / normalizedParts
      splitEnd estimateTokens normalizedParts targetTokens
        (messages.foldl (splitStep estimateTokens normalizedParts targetTokens) ⟨[], [], 0, ∅, none⟩)

/-! ### Pruning -/

structure PruneParams where
  messages : List Entry
  maxContextTokens : ℚ
  maxHistoryShare : Option ℚ := none
  parts : Option ℚ := none

def PruneParams.budgetTokens (params : PruneParams) : ℤ :=
  max 1 ⌊params.maxContextTokens * params.maxHistoryShare.getD (1 / 2)⌋

def PruneParams.normalizedParts (params : PruneParams) : ℕ :=
  normalizeParts (params.parts.getD defaultParts) params.messages.length

/-- The variables of the loop. -/
structure PruneState where
  keptMessages : List Entry
  allDroppedMessages : List Entry := []
  droppedChunks : ℕ := 0
  droppedMessages : ℕ := 0
  droppedTokens : ℚ := 0

/-- One turn of the loop, when there is one; `now` is the clock of its repair. -/
def pruneRound (estimateTokens : Entry → ℚ) (budgetTokens : ℤ) (parts : ℕ) (now : ℕ → ℤ)
    (state : PruneState) : Option PruneState :=
  if 0 < state.keptMessages.length ∧
      (budgetTokens : ℚ) < estimateMessagesTokens estimateTokens state.keptMessages then
    match splitMessagesByTokenShare estimateTokens state.keptMessages parts with
    | dropped :: next :: rest =>
      let repairReport := repairToolUseResultPairing .preserve now (next :: rest).flatten
      some
        { keptMessages := repairReport.messages
          allDroppedMessages := state.allDroppedMessages ++ dropped
          droppedChunks := state.droppedChunks + 1
          droppedMessages :=
            state.droppedMessages + (dropped.length + repairReport.droppedOrphanCount)
          droppedTokens := state.droppedTokens + estimateMessagesTokens estimateTokens dropped }
    | _ => none
  else none

/-- The loop, with the turns it may take: nothing when it would take more. -/
def pruneLoop (estimateTokens : Entry → ℚ) (budgetTokens : ℤ) (parts : ℕ) (now : ℕ → ℕ → ℤ) :
    ℕ → PruneState → Option PruneState
  | 0, _ => none
  | turns + 1, state =>
    match pruneRound estimateTokens budgetTokens parts (now turns) state with
    | some next => pruneLoop estimateTokens budgetTokens parts now turns next
    | none => some state

structure PruneResult where
  messages : List Entry
  droppedMessagesList : List Entry
  droppedChunks : ℕ
  droppedMessages : ℕ
  droppedTokens : ℚ
  keptTokens : ℚ
  budgetTokens : ℤ

/-- `pruneHistoryForContextShare` with some turns; `now` is the clock of each turn. -/
def pruneHistoryForContextShare (estimateTokens : Entry → ℚ) (now : ℕ → ℕ → ℤ) (turns : ℕ)
    (params : PruneParams) : Option PruneResult :=
  (pruneLoop estimateTokens params.budgetTokens params.normalizedParts now turns
    { keptMessages := params.messages }).map fun state =>
      { messages := state.keptMessages
        droppedMessagesList := state.allDroppedMessages
        droppedChunks := state.droppedChunks
        droppedMessages := state.droppedMessages
        droppedTokens := state.droppedTokens
        keptTokens := estimateMessagesTokens estimateTokens state.keptMessages
        budgetTokens := params.budgetTokens }

end OpenClaw.Compaction
