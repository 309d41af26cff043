/-
This file is the transcript writer of `session-tool-result-guard.ts`: every
message goes through `guardedAppend`, which remembers the tool calls of the last
assistant turn (`createPendingToolCallState`) and writes synthetic results for
those still unanswered before anything but a tool result is persisted.

The main result, `no_dangling_tool_call`, follows the persisted list message by
message. The invariant is `Paired`: a call whose result has not come is pending,
and nothing but tool results was persisted since its turn. One lemma says what a
persisted result does to it, one what any other message does when nothing is
pending, and flushing is the first of them once for each pending call.
-/

import OpenClaw.Base.OrderedMap
import OpenClaw.Transcript.ToolCallInputs

namespace OpenClaw.Transcript

/-! ### Options and hooks -/

structure ToolResultMeta where
  toolCallId : Option String
  toolName : Option String
  isSynthetic : Bool

/-- `PluginHookBeforeMessageWriteResult`. -/
structure BeforeMessageWriteResult where
  block : Bool
  message : Option Message

/-- What the guard is installed with: its options, and `resizeText`, which shortens one text of a
result given the number of characters of all its texts. -/
structure GuardOptions where
  transformMessageForPersistence : Option (Message → Message) := none
  transformToolResultForPersistence : Option (Message → ToolResultMeta → Message) := none
  allowSyntheticToolResults : Option Bool := none
  allowedToolNames : Option (List String) := none
  beforeMessageWriteHook : Option (Message → Option BeforeMessageWriteResult) := none
  resizeText : Nat → String → String

namespace GuardOptions

variable (opts : GuardOptions)

def persistMessage (message : Message) : Message :=
  match opts.transformMessageForPersistence with
  | some transformer => transformer message
  | none => message

def persistToolResult (message : Message) (info : ToolResultMeta) : Message :=
  match opts.transformToolResultForPersistence with
  | some transformer => transformer message info
  | none => message

/-- The message to write, or nothing when the hook blocks it. -/
def applyBeforeWriteHook (message : Message) : Option Message :=
  match opts.beforeMessageWriteHook with
  | none => some message
  | some hook =>
    match hook message with
    | none => some message
    | some result => if result.block then none else some (result.message.getD message)

/-- Hooks that neither block nor change messages. -/
structure Transparent : Prop where
  persistMessage : ∀ message, opts.persistMessage message = message
  persistToolResult : ∀ message info, opts.persistToolResult message info = message
  applyBeforeWriteHook : ∀ message, opts.applyBeforeWriteHook message = some message

end GuardOptions

/-! ### The size cap on results -/

def defaultMaxLiveToolResultChars : Nat := 40000

/-- The length of a text in UTF-16 code units. -/
def utf16Length (text : String) : Nat :=
  (text.toList.map fun character => if character.toNat < 0x10000 then 1 else 2).sum

/-- The text of a text block. -/
def ContentItem.blockText : ContentItem → Option String
  | .block record => if record.type = .string "text" then record.text.readString else none
  | .other _ => none

/-- The block with its text shortened, if it is a text block. -/
def ContentItem.resize (resizeText : String → String) : ContentItem → ContentItem
  | .block record =>
    match (ContentItem.block record).blockText with
    | some text => .block { record with text := .string (resizeText text) }
    | none => .block record
  | .other value => .other value

/-- `capToolResultSize`: the texts of an oversized result are shortened. -/
def capToolResultSize (resizeText : Nat → String → String) (message : Message) : Message :=
  match message.isToolResult, message.content with
  | true, .array items =>
    let totalTextChars := ((items.filterMap ContentItem.blockText).map utf16Length).sum
    if totalTextChars ≤ defaultMaxLiveToolResultChars then message
    else { message with content := .array (items.map (ContentItem.resize (resizeText totalTextChars))) }
  | _, _ => message

theorem capToolResultSize_eq (resizeText : Nat → String → String) (message : Message) :
    ∃ content, capToolResultSize resizeText message = { message with content } := by
  unfold capToolResultSize
  split
  · dsimp only
    split
    · exact ⟨message.content, rfl⟩
    · exact ⟨_, rfl⟩
  · exact ⟨message.content, rfl⟩

@[simp] theorem isToolResult_capToolResultSize (resizeText : Nat → String → String)
    (message : Message) :
    (capToolResultSize resizeText message).isToolResult = message.isToolResult := by
  obtain ⟨content, capped⟩ := capToolResultSize_eq resizeText message
  rw [capped]
  rfl

@[simp] theorem extractToolResultId_capToolResultSize (resizeText : Nat → String → String)
    (message : Message) :
    extractToolResultId (capToolResultSize resizeText message) = extractToolResultId message := by
  obtain ⟨content, capped⟩ := capToolResultSize_eq resizeText message
  rw [capped]
  rfl

/-! ### The writer -/

/-- What was persisted through the guard, and the calls waiting for a result with their names. -/
structure GuardState where
  persisted : List Message
  pending : OrderedMap String (Option String)

def GuardState.installed : GuardState := ⟨[], ∅⟩

def GuardState.getPendingIds (state : GuardState) : List String := state.pending.keys

def GuardState.originalAppend (state : GuardState) (message : Message) : GuardState :=
  { state with persisted := state.persisted ++ [message] }

def trackToolCalls (pending : OrderedMap String (Option String)) (calls : List ToolCallLike) :
    OrderedMap String (Option String) :=
  calls.foldl (fun tracked call => tracked.set call.id call.name) pending

/-- The synthetic result written for a pending call; `now` is what `Date.now()` reads as it is made. -/
def flushedResult (opts : GuardOptions) (now : String → Int) (call : String × Option String) :
    Option Message :=
  opts.applyBeforeWriteHook
    (opts.persistToolResult (opts.persistMessage (makeMissingToolResult call.1 call.2 (now call.1)))
      { toolCallId := some call.1, toolName := call.2, isSynthetic := true })

def flushPendingToolResults (opts : GuardOptions) (now : String → Int) (state : GuardState) : GuardState :=
  if state.pending.entries.isEmpty then state
  else
    { persisted :=
        if opts.allowSyntheticToolResults.getD true then
          state.persisted ++ state.pending.entries.filterMap (flushedResult opts now)
        else state.persisted
      pending := ∅ }

def clearPendingToolResults (state : GuardState) : GuardState := { state with pending := ∅ }

/-- `normalizePersistedToolResultName`: messages other than results are left alone. -/
def normalizePersistedToolResultName (message : Message) (fallbackName : Option String) : Message :=
  if message.isToolResult then normalizeToolResultName message fallbackName else message

/-- The part of `guardedAppend` for tool results. -/
def appendToolResult (opts : GuardOptions) (message : Message) (state : GuardState) : GuardState :=
  let id := extractToolResultId message
  let toolName := (id.bind state.pending.get).join
  let answered := match id with
    | some id => { state with pending := state.pending.delete id }
    | none => state
  let capped := capToolResultSize opts.resizeText
    (opts.persistMessage (normalizePersistedToolResultName message toolName))
  match opts.applyBeforeWriteHook
      (opts.persistToolResult capped { toolCallId := id, toolName, isSynthetic := false }) with
  | some persisted => answered.originalAppend persisted
  | none => answered

/-- The tool calls a message waits for: none when its turn was cut short. -/
def Message.awaitedCalls (message : Message) : List ToolCallLike :=
  if message.isAssistant && !message.isErrored then extractToolCallsFromAssistant message else []

def shouldFlushBeforeNonToolResult (state : GuardState) (message : Message) : Bool :=
  !state.pending.entries.isEmpty && (message.awaitedCalls.isEmpty || !message.isAssistant)

def shouldFlushBeforeNewToolCalls (state : GuardState) (message : Message) : Bool :=
  !state.pending.entries.isEmpty && !message.awaitedCalls.isEmpty

/-- The part of `guardedAppend` for all other messages. -/
def appendNonToolResult (opts : GuardOptions) (now : String → Int) (message : Message)
    (state : GuardState) : GuardState :=
  let cleared := if shouldFlushBeforeNonToolResult state message then
    flushPendingToolResults opts now state else state
  let ready := if shouldFlushBeforeNewToolCalls cleared message then
    flushPendingToolResults opts now cleared else cleared
  match opts.applyBeforeWriteHook (opts.persistMessage message) with
  | none => ready
  | some finalMessage =>
    let appended := ready.originalAppend finalMessage
    { appended with pending := trackToolCalls appended.pending message.awaitedCalls }

def guardedAppend (opts : GuardOptions) (now : String → Int) (message : Message)
    (state : GuardState) : GuardState :=
  let nextMessage := if message.isAssistant then
    sanitizeToolCallInputs [.object message] opts.allowedToolNames else [.object message]
  match nextMessage with
  | .object message :: _ =>
    if message.isToolResult then appendToolResult opts message state
    else appendNonToolResult opts now message state
  | _ => if state.pending.entries.isEmpty then state else flushPendingToolResults opts now state

/-- The calls a session manager's user makes through the guard. -/
inductive GuardCall
  | appendMessage (message : Message) (now : String → Int)
  | flush (now : String → Int)
  | clear

def GuardCall.apply (opts : GuardOptions) (state : GuardState) : GuardCall → GuardState
  | .appendMessage message now => guardedAppend opts now message state
  | .flush now => flushPendingToolResults opts now state
  | .clear => clearPendingToolResults state

def runGuard (opts : GuardOptions) (calls : List GuardCall) : GuardState :=
  calls.foldl (GuardCall.apply opts) .installed

/-! ### The pairing invariant -/

/-- Every call persisted in `log` has its result before the next message that is not a result,
except for the calls in `pending`, which are the unanswered ones of the last turn. -/
structure Paired (log : List Message) (pending : String → Prop) : Prop where
  answered : ∀ before turn after, log = before ++ turn :: after → ∀ call ∈ turn.awaitedCalls,
    (pending call.id ∧ ∀ message ∈ after, message.isToolResult) ∨
      ∃ result ∈ after.takeWhile Message.isToolResult, result.answers call.id
  last : ∀ before turn after, log = before ++ turn :: after → turn.isAssistant → ¬ turn.isErrored →
    (∀ message ∈ after, message.isAssistant → message.isErrored) → ∀ id,
      pending id ↔ (∃ call ∈ turn.awaitedCalls, call.id = id) ∧ ∀ message ∈ after, ¬ message.answers id
  idle : (∀ message ∈ log, message.isAssistant → message.isErrored) → ∀ id, ¬ pending id

theorem paired_installed : Paired [] fun _ => False where
  answered _ _ _ split := by simp at split
  last _ _ _ split := by simp at split
  idle _ _ impossible := impossible

/-- The splits of a list that grew by one message at its end. -/
theorem split_concat {log before after : List Message} {message turn : Message}
    (split : log ++ [message] = before ++ turn :: after) :
    (after = [] ∧ turn = message ∧ before = log) ∨
      ∃ front, after = front ++ [message] ∧ log = before ++ turn :: front := by
  rcases List.eq_nil_or_concat after with rfl | ⟨front, last, rfl⟩
  · have same := List.append_inj' split rfl
    exact Or.inl ⟨rfl, by simpa using same.2.symm, same.1.symm⟩
  · rw [List.concat_eq_append, ← List.cons_append, ← List.append_assoc] at split
    have same := List.append_inj' split rfl
    have lastSame : message = last := by simpa using same.2
    exact Or.inr ⟨front, by rw [List.concat_eq_append, lastSame], same.1⟩

variable {message : Message}

theorem mem_takeWhile_append {predicate : Message → Bool} {front : List Message}
    (member : message ∈ front.takeWhile predicate) (back : List Message) :
    message ∈ (front ++ back).takeWhile predicate := by
  rw [List.takeWhile_append]
  split
  · exact List.mem_append_left _ ((List.takeWhile_prefix predicate).subset member)
  · exact member

theorem awaitedCalls_of_not_assistant (other : ¬ message.isAssistant) :
    message.awaitedCalls = [] := by
  simp [Message.awaitedCalls, other]

theorem assistant_of_awaited {call : ToolCallLike}
    (awaited : call ∈ message.awaitedCalls) : message.isAssistant ∧ ¬ message.isErrored := by
  unfold Message.awaitedCalls at awaited
  split at awaited
  · rename_i both
    simpa using both
  · cases awaited

theorem not_assistant_of_isToolResult (result : message.isToolResult) :
    ¬ message.isAssistant := fun assistant => by
  simp [message.isToolResult_eq_false assistant] at result

/-- A result leaves behind the pairing without the call it answers. -/
theorem Paired.append_result {log : List Message} {pending left : String → Prop} {result : Message}
    (paired : Paired log pending) (isResult : result.isToolResult)
    (remaining : ∀ id, left id ↔ pending id ∧ extractToolResultId result ≠ some id) :
    Paired (log ++ [result]) left where
  answered before turn after split call awaited := by
    rcases split_concat split with ⟨-, rfl, -⟩ | ⟨front, rfl, shorter⟩
    · rw [awaitedCalls_of_not_assistant (not_assistant_of_isToolResult isResult)] at awaited
      cases awaited
    · rcases paired.answered before turn front shorter call awaited with ⟨waiting, onlyResults⟩ | found
      · have allResults : ∀ message ∈ front ++ [result], message.isToolResult := by
          intro message member
          rcases List.mem_append.1 member with inFront | isLast
          · exact onlyResults message inFront
          · exact (List.mem_singleton.1 isLast) ▸ isResult
        by_cases answers : extractToolResultId result = some call.id
        · refine Or.inr ⟨result, ?_, isResult, answers⟩
          rw [List.takeWhile_eq_self_iff.2 allResults]
          simp
        · exact Or.inl ⟨(remaining call.id).2 ⟨waiting, answers⟩, allResults⟩
      · obtain ⟨answer, member, answers⟩ := found
        exact Or.inr ⟨answer, mem_takeWhile_append member _, answers⟩
  last before turn after split assistant notErrored lastTurn id := by
    rcases split_concat split with ⟨-, rfl, -⟩ | ⟨front, rfl, shorter⟩
    · exact absurd assistant (not_assistant_of_isToolResult isResult)
    · have former := paired.last before turn front shorter assistant notErrored
        (fun message member => lastTurn message (List.mem_append_left _ member)) id
      rw [remaining, former]
      simp only [List.mem_append, List.mem_singleton, or_imp, forall_and, forall_eq, and_assoc,
        Message.answers, isResult, true_and, ne_eq]
  idle noTurn id waiting := by
    refine paired.idle (fun message member => noTurn message (List.mem_append_left _ member)) id ?_
    exact ((remaining id).1 waiting).1

/-- A message that is no result, when no call is pending, leaves its own calls pending. -/
theorem Paired.append_other {log : List Message} {pending awaited : String → Prop}
    (paired : Paired log pending) (notResult : ¬ message.isToolResult) (idle : ∀ id, ¬ pending id)
    (own : ∀ id, awaited id ↔ ∃ call ∈ message.awaitedCalls, call.id = id) :
    Paired (log ++ [message]) awaited where
  answered before turn after split call member := by
    rcases split_concat split with ⟨rfl, rfl, -⟩ | ⟨front, rfl, shorter⟩
    · exact Or.inl ⟨(own call.id).2 ⟨call, member, rfl⟩, by simp⟩
    · rcases paired.answered before turn front shorter call member with ⟨waiting, -⟩ | found
      · exact absurd waiting (idle call.id)
      · obtain ⟨answer, member, answers⟩ := found
        exact Or.inr ⟨answer, mem_takeWhile_append member _, answers⟩
  last before turn after split assistant notErrored lastTurn id := by
    rcases split_concat split with ⟨rfl, rfl, -⟩ | ⟨front, rfl, shorter⟩
    · simpa using own id
    · have former := paired.last before turn front shorter assistant notErrored
        (fun other member => lastTurn other (List.mem_append_left _ member)) id
      have silent : message.awaitedCalls = [] := by
        refine List.eq_nil_iff_forall_not_mem.2 fun call member => ?_
        obtain ⟨isTurn, whole⟩ := assistant_of_awaited member
        exact whole (lastTurn message (by simp) isTurn)
      have notAwaited : ¬ awaited id := by simp [own, silent]
      have notFormer := idle id
      rw [former] at notFormer
      refine iff_of_false notAwaited fun unanswered => notFormer ⟨unanswered.1, ?_⟩
      exact fun other member => unanswered.2 other (List.mem_append_left _ member)
  idle noTurn id waiting := by
    obtain ⟨call, member, -⟩ := (own id).1 waiting
    obtain ⟨isTurn, whole⟩ := assistant_of_awaited member
    exact whole (noTurn message (by simp) isTurn)

/-- One synthetic result for each pending call answers them all. -/
theorem Paired.append_synthetic {calls : List (String × Option String)} (now : String → Int)
    (distinct : (calls.map Prod.fst).Nodup) (nonempty : ∀ call ∈ calls, call.1 ≠ "") :
    ∀ {log : List Message} {pending : String → Prop}, Paired log pending →
      (∀ id, pending id ↔ id ∈ calls.map Prod.fst) →
      Paired (log ++ calls.map fun call => makeMissingToolResult call.1 call.2 (now call.1))
        fun _ => False := by
  induction calls with
  | nil =>
    intro log pending paired listed
    have idle : pending = fun _ => False := by
      funext id
      simpa using listed id
    simpa [idle] using paired
  | cons call rest inductionHypothesis =>
    intro log pending paired listed
    obtain ⟨fresh, restDistinct⟩ := List.nodup_cons.1 distinct
    have answered := extractToolResultId_makeMissingToolResult (nonempty call List.mem_cons_self)
      call.2 (now call.1)
    have next : Paired (log ++ [makeMissingToolResult call.1 call.2 (now call.1)])
        (· ∈ rest.map Prod.fst) := by
      refine paired.append_result (isToolResult_makeMissingToolResult call.1 call.2 (now call.1))
        fun id => ?_
      rw [answered, listed, List.map_cons, List.mem_cons, ne_eq, Option.some.injEq]
      constructor
      · intro member
        exact ⟨Or.inr member, fun same => fresh (same ▸ member)⟩
      · rintro ⟨rfl | member, different⟩
        · exact absurd rfl different
        · exact member
    have whole := inductionHypothesis restDistinct
      (fun other member => nonempty other (List.mem_cons_of_mem _ member)) next fun _ => Iff.rfl
    simpa using whole

/-! ### What the writer keeps -/

/-- The pairing of what was persisted with the pending calls, all of which have an id. -/
structure GuardInvariant (state : GuardState) : Prop where
  paired : Paired state.persisted (· ∈ state.pending.keys)
  named : ∀ id ∈ state.pending.keys, id ≠ ""

theorem guardInvariant_installed : GuardInvariant .installed where
  paired := by simpa [GuardState.installed] using paired_installed
  named := by simp [GuardState.installed]

theorem mem_keys_trackToolCalls (calls : List ToolCallLike) (id : String) :
    ∀ pending : OrderedMap String (Option String),
      id ∈ (trackToolCalls pending calls).keys ↔
        id ∈ pending.keys ∨ ∃ call ∈ calls, call.id = id := by
  induction calls with
  | nil => simp [trackToolCalls]
  | cons call rest inductionHypothesis =>
    intro pending
    have step := inductionHypothesis (pending.set call.id call.name)
    rw [OrderedMap.mem_keys_set] at step
    rw [trackToolCalls, List.foldl_cons]
    refine step.trans ?_
    simp only [List.mem_cons, exists_eq_or_imp, @eq_comm _ id]
    tauto

section

variable {opts : GuardOptions} (transparent : opts.Transparent)
  (synthetic : opts.allowSyntheticToolResults.getD true = true)
variable {state : GuardState}

include transparent

theorem flushedResult_of_transparent (now : String → Int) (call : String × Option String) :
    flushedResult opts now call = some (makeMissingToolResult call.1 call.2 (now call.1)) := by
  rw [flushedResult, transparent.persistMessage, transparent.persistToolResult,
    transparent.applyBeforeWriteHook]

/-- A result is persisted with its id, and its call is no longer pending. -/
theorem appendToolResult_of_transparent {message : Message} (isResult : message.isToolResult)
    (state : GuardState) : ∃ result : Message, result.isToolResult ∧
      extractToolResultId result = extractToolResultId message ∧
      (appendToolResult opts message state).persisted = state.persisted ++ [result] ∧
      ∀ id, id ∈ (appendToolResult opts message state).pending.keys ↔
        id ∈ state.pending.keys ∧ extractToolResultId message ≠ some id := by
  refine ⟨capToolResultSize opts.resizeText (normalizeToolResultName message
    ((extractToolResultId message).bind state.pending.get).join), ?_, ?_, ?_, fun id => ?_⟩
  · rw [isToolResult_capToolResultSize, isToolResult_normalizeToolResultName]
    exact isResult
  · rw [extractToolResultId_capToolResultSize, extractToolResultId_normalizeToolResultName]
  · rw [appendToolResult, transparent.persistToolResult, transparent.applyBeforeWriteHook,
      transparent.persistMessage, normalizePersistedToolResultName, if_pos isResult]
    cases extractToolResultId message <;> rfl
  · rw [appendToolResult, transparent.persistToolResult, transparent.applyBeforeWriteHook]
    cases extractToolResultId message with
    | none => simp [GuardState.originalAppend]
    | some answer =>
      simp only [GuardState.originalAppend, OrderedMap.mem_keys_delete, ne_eq, Option.some.injEq,
        @eq_comm _ id]

include synthetic

/-- Flushing answers every pending call. -/
theorem GuardInvariant.flush (invariant : GuardInvariant state)
    (now : String → Int) : GuardInvariant (flushPendingToolResults opts now state) ∧
      (flushPendingToolResults opts now state).pending = ∅ := by
  unfold flushPendingToolResults
  split
  · rename_i settled
    refine ⟨invariant, OrderedMap.ext ?_⟩
    simpa using settled
  · have written : state.pending.entries.filterMap (flushedResult opts now) =
        state.pending.entries.map fun call => makeMissingToolResult call.1 call.2 (now call.1) := by
      rw [← List.filterMap_eq_map]
      exact List.filterMap_congr fun call _ => flushedResult_of_transparent transparent now call
    have answered := invariant.paired.append_synthetic now state.pending.distinct
      (fun call member => invariant.named call.1 (List.mem_map_of_mem member)) fun _ => Iff.rfl
    refine ⟨⟨?_, by simp⟩, rfl⟩
    simpa [synthetic, written] using answered

/-- Nothing is pending any more when a message that is no result is written. -/
theorem GuardInvariant.flushed_before (invariant : GuardInvariant state)
    (now : String → Int) (message : Message) :
    ∃ ready : GuardState, GuardInvariant ready ∧ ready.pending = ∅ ∧
      appendNonToolResult opts now message state =
        ⟨ready.persisted ++ [message], trackToolCalls ready.pending message.awaitedCalls⟩ := by
  obtain ⟨flushed, emptied⟩ := invariant.flush transparent synthetic now
  simp only [appendNonToolResult, transparent.persistMessage, transparent.applyBeforeWriteHook,
    GuardState.originalAppend]
  by_cases settled : state.pending.entries.isEmpty
  · refine ⟨state, invariant, OrderedMap.ext (by simpa using settled), ?_⟩
    simp [shouldFlushBeforeNonToolResult, shouldFlushBeforeNewToolCalls, settled]
  · refine ⟨flushPendingToolResults opts now state, flushed, emptied, ?_⟩
    by_cases silent : message.awaitedCalls = []
    · simp [shouldFlushBeforeNonToolResult, shouldFlushBeforeNewToolCalls, settled, silent, emptied]
    · obtain ⟨call, awaited⟩ := List.exists_mem_of_ne_nil _ silent
      have assistant := (assistant_of_awaited awaited).1
      simp [shouldFlushBeforeNonToolResult, shouldFlushBeforeNewToolCalls, settled, silent, assistant]

theorem GuardInvariant.appendNonToolResult (invariant : GuardInvariant state)
    (now : String → Int) {message : Message} (notResult : ¬ message.isToolResult) :
    GuardInvariant (appendNonToolResult opts now message state) := by
  obtain ⟨ready, kept, emptied, appended⟩ :=
    invariant.flushed_before transparent synthetic now message
  have own : ∀ id, id ∈ (trackToolCalls ready.pending message.awaitedCalls).keys ↔
      ∃ call ∈ message.awaitedCalls, call.id = id := fun id => by
    rw [mem_keys_trackToolCalls, emptied]
    simp
  rw [appended]
  refine ⟨kept.paired.append_other notResult (by simp [emptied]) own, fun id pending => ?_⟩
  obtain ⟨call, awaited, rfl⟩ := (own id).1 pending
  unfold Message.awaitedCalls at awaited
  split at awaited
  · exact ToolCallLike.id_ne_empty awaited
  · cases awaited

theorem GuardInvariant.guardedAppend (invariant : GuardInvariant state)
    (now : String → Int) (message : Message) :
    GuardInvariant (guardedAppend opts now message state) := by
  have appended : ∀ written : Message, GuardInvariant
      (if written.isToolResult then appendToolResult opts written state
        else Transcript.appendNonToolResult opts now written state) := fun written => by
    split
    · rename_i isResult
      obtain ⟨result, resultKept, idKept, persisted, remaining⟩ :=
        appendToolResult_of_transparent transparent isResult state
      refine ⟨?_, fun id pending => invariant.named id ((remaining id).1 pending).1⟩
      rw [persisted]
      exact invariant.paired.append_result resultKept fun id => by rw [remaining, idKept]
    · rename_i notResult
      exact invariant.appendNonToolResult transparent synthetic now notResult
  unfold Transcript.guardedAppend
  dsimp only
  split
  · exact appended _
  · split
    · exact invariant
    · exact (invariant.flush transparent synthetic now).1

/-- Every call through the guard but a clearing one keeps the pairing. -/
theorem GuardInvariant.run {calls : List GuardCall} (noClear : ∀ call ∈ calls, call ≠ .clear) :
    ∀ {state : GuardState}, GuardInvariant state →
      GuardInvariant (calls.foldl (GuardCall.apply opts) state) := by
  induction calls with
  | nil => exact fun invariant => invariant
  | cons call rest inductionHypothesis =>
    intro state invariant
    refine inductionHypothesis (fun other member => noClear other (List.mem_cons_of_mem _ member)) ?_
    cases call with
    | appendMessage message now => exact invariant.guardedAppend transparent synthetic now message
    | flush now => exact (invariant.flush transparent synthetic now).1
    | clear => exact absurd rfl (noClear _ List.mem_cons_self)

end

/-! ### No dangling tool call -/

/-- A persisted turn that was not cut short. -/
def Message.isWholeTurn (message : Message) : Prop := message.isAssistant ∧ ¬ message.isErrored

/-- What the writer promises about the persisted list and the pending ids it reports. -/
structure NoDanglingToolCall (persisted : List Message) (pendingIds : List String) : Prop where
  answered : ∀ before turn after, persisted = before ++ turn :: after → turn.isWholeTurn →
    ∀ call ∈ extractToolCallsFromAssistant turn, call.id ∈ pendingIds ∨
      ∃ result ∈ after.takeWhile Message.isToolResult, result.answers call.id
  lastTurn : ∀ before turn after, persisted = before ++ turn :: after → turn.isWholeTurn →
    (∀ message ∈ after, ¬ message.isWholeTurn) → ∀ id, id ∈ pendingIds ↔
      (∃ call ∈ extractToolCallsFromAssistant turn, call.id = id) ∧
        ∀ message ∈ after, ¬ message.answers id
  noTurn : (∀ message ∈ persisted, ¬ message.isWholeTurn) → pendingIds = []

theorem awaitedCalls_of_isWholeTurn {turn : Message} (whole : turn.isWholeTurn) :
    turn.awaitedCalls = extractToolCallsFromAssistant turn := by
  rw [Message.awaitedCalls, if_pos (by simpa [Message.isWholeTurn] using whole)]

theorem errored_of_not_isWholeTurn (notWhole : ¬ message.isWholeTurn)
    (assistant : message.isAssistant) : message.isErrored := by
  by_contra whole
  exact notWhole ⟨assistant, whole⟩

/-- However messages are appended and pending results flushed, a persisted turn that was not cut
short has the result of each of its calls before the next message that is no result, except for
the calls still reported as pending, and these are the unanswered calls of the last such turn. -/
theorem no_dangling_tool_call (opts : GuardOptions) (transparent : opts.Transparent)
    (synthetic : opts.allowSyntheticToolResults.getD true = true) (calls : List GuardCall)
    (noClear : ∀ call ∈ calls, call ≠ .clear) :
    NoDanglingToolCall (runGuard opts calls).persisted (runGuard opts calls).getPendingIds := by
  have invariant : GuardInvariant (runGuard opts calls) :=
    GuardInvariant.run transparent synthetic noClear guardInvariant_installed
  refine ⟨?_, ?_, ?_⟩
  · intro before turn after split whole call member
    rw [← awaitedCalls_of_isWholeTurn whole] at member
    rcases invariant.paired.answered before turn after split call member with ⟨pending, -⟩ | found
    · exact Or.inl pending
    · exact Or.inr found
  · intro before turn after split whole last id
    rw [← awaitedCalls_of_isWholeTurn whole]
    exact invariant.paired.last before turn after split whole.1 whole.2
      (fun message member => errored_of_not_isWholeTurn (last message member)) id
  · intro none
    refine List.eq_nil_iff_forall_not_mem.2 (invariant.paired.idle fun message member => ?_)
    exact errored_of_not_isWholeTurn (none message member)

def plainOptions : GuardOptions where
  resizeText := fun _ text => text

def interruptedSession : List GuardCall :=
  [.appendMessage (turnCalling ["a", "b"] "toolUse") fun _ => 1,
    .appendMessage (resultFor "a") fun _ => 2,
    .appendMessage { role := .string "user" } fun _ => 3,
    .appendMessage (turnCalling ["c"] "aborted") fun _ => 4,
    .appendMessage (resultFor "a") fun _ => 5,
    .appendMessage (turnCalling ["d", "e"] "toolUse") fun _ => 6,
    .appendMessage (resultFor "e") fun _ => 7]

/-- A session with an interrupted and an aborted turn: the result of `b` was made up, and `d` is
still pending. -/
theorem no_dangling_tool_call_in_interrupted_session :
    NoDanglingToolCall (runGuard plainOptions interruptedSession).persisted
      (runGuard plainOptions interruptedSession).getPendingIds ∧
    (runGuard plainOptions interruptedSession).getPendingIds = ["d"] ∧
    (runGuard plainOptions interruptedSession).persisted.map extractToolResultId =
      [none, some "a", some "b", none, none, some "a", none, some "e"] := by
  refine ⟨no_dangling_tool_call plainOptions ⟨fun _ => rfl, fun _ _ => rfl, fun _ => rfl⟩ rfl
    interruptedSession ?_, by decide +kernel, by decide +kernel⟩
  simp [interruptedSession]

end OpenClaw.Transcript
