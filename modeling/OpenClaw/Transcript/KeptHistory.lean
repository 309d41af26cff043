/-
This file says what the pruning of a history keeps and what it drops.

The splitter cuts either where no call is pending or right before a turn whose calls are, so no
cut comes between a call and the first result for it before the next turn. A later result for the
same call, or one behind another turn, is no concern of the splitter: the repair drops it.

The loop ends because, after its first turn, the list starts with a message that is no tool
result, so that each chunk it drops has one; the repair makes up results, but no other message.
-/

import OpenClaw.Transcript.HistoryPruning

namespace OpenClaw.Compaction

open Transcript

/-! ### Calls and cuts -/

/-- A call of a turn that was not cut short, with no answer and no other turn behind it. -/
def Open (id : String) (messages : List Entry) : Prop :=
  ∃ before turn between, messages = before ++ turn :: between ∧ turn.isAssistant = true ∧
    turn.isErrored = false ∧ id ∈ turn.calls.map ToolCallLike.id ∧
      ∀ entry ∈ between, entry.isAssistant = false ∧ ¬ entry.answers id

/-- A cut between a call and the first result for it before the next turn. -/
def Severs (left right : List Entry) : Prop :=
  ∃ id, Open id left ∧ ∃ between result after, right = between ++ result :: after ∧
    (∀ entry ∈ between, entry.isAssistant = false ∧ ¬ entry.answers id) ∧ result.answers id

def CarriesIds (messages : List Entry) : Prop :=
  ∀ entry ∈ messages, entry.isToolResult = true → (resultId entry).isSome = true

/-- What a list of chunks has to be. -/
structure SplitsWhole (messages : List Entry) (parts : ℚ) (chunks : List (List Entry)) : Prop where
  few : chunks.length ≤ max 1 ⌊parts⌋.toNat
  filled : ∀ chunk ∈ chunks, chunk ≠ []
  whole : chunks.flatten = messages
  together : CarriesIds messages → ∀ front back, chunks = front ++ back →
    ¬ Severs front.flatten back.flatten

/-- A cut where no call is open, or at a turn. -/
def CleanCut (left right : List Entry) : Prop :=
  (∀ id, ¬ Open id left) ∨ ∃ turn rest, right = turn :: rest ∧ turn.isAssistant = true

theorem not_open_nil (id : String) : ¬ Open id [] := by
  rintro ⟨before, turn, between, split, -⟩
  exact List.append_ne_nil_of_right_ne_nil _ (List.cons_ne_nil _ _) split.symm

theorem CleanCut.not_severs {left right : List Entry} (clean : CleanCut left right) :
    ¬ Severs left right := by
  rintro ⟨id, isOpen, between, result, after, split, passed, answers⟩
  rcases clean with closed | ⟨turn, rest, starts, isTurn⟩
  · exact closed id isOpen
  · rw [starts] at split
    cases between with
    | nil =>
      obtain ⟨rfl, -⟩ := List.cons.inj split
      have isResult := Entry.isToolResult_of_answers answers
      rw [Entry.isToolResult_eq_false isTurn] at isResult
      cases isResult
    | cons entry between =>
      obtain ⟨rfl, -⟩ := List.cons.inj split
      have notTurn := (passed turn List.mem_cons_self).1
      rw [isTurn] at notTurn
      cases notTurn

theorem not_severs_nil (left : List Entry) : ¬ Severs left [] := by
  rintro ⟨id, -, between, result, after, split, -⟩
  exact List.append_ne_nil_of_right_ne_nil _ (List.cons_ne_nil _ _) split.symm

theorem CleanCut.append {left right : List Entry} (clean : CleanCut left right)
    (more : List Entry) : CleanCut left (right ++ more) := by
  refine clean.imp_right ?_
  rintro ⟨turn, rest, rfl, isTurn⟩
  exact ⟨turn, rest ++ more, rfl, isTurn⟩

variable {messages : List Entry}

/-- What one more message does to the open calls. -/
theorem Open.of_concat {id : String} {message : Entry} (isOpen : Open id (messages ++ [message])) :
    message.isAssistant = true ∧ message.isErrored = false ∧
        id ∈ message.calls.map ToolCallLike.id ∨
      Open id messages ∧ message.isAssistant = false ∧ ¬ message.answers id := by
  obtain ⟨before, turn, between, split, isTurn, whole, called, passed⟩ := isOpen
  rcases List.eq_nil_or_concat' between with rfl | ⟨between, last, rfl⟩
  · obtain ⟨-, same⟩ := List.append_inj' split rfl
    obtain rfl := List.head_eq_of_cons_eq same
    exact .inl ⟨isTurn, whole, called⟩
  · rw [← List.cons_append, ← List.append_assoc] at split
    obtain ⟨rfl, same⟩ := List.append_inj' split rfl
    obtain rfl := List.head_eq_of_cons_eq same
    rw [List.forall_mem_append] at passed
    obtain ⟨notTurn, silent⟩ := passed.2 message (List.mem_singleton_self _)
    exact .inr ⟨⟨before, turn, between, rfl, isTurn, whole, called, passed.1⟩, notTurn, silent⟩

/-! ### The splitter -/

section Split

variable {estimateTokens : Entry → ℚ} {normalizedParts : ℕ} {targetTokens : ℚ} {state : SplitState}
variable {read : List Entry}

/-- The chunks made so far and the current one, of the messages read. -/
structure Chunked (normalizedParts : ℕ) (read : List Entry) (state : SplitState) : Prop where
  whole : state.chunks.flatten ++ state.current = read
  filled : ∀ chunk ∈ state.chunks, chunk ≠ []
  few : state.chunks.length ≤ normalizedParts - 1
  boundary : ∀ index, state.pendingChunkStartIndex = some index →
    ∃ turn, state.current[index]? = some turn ∧ turn.isAssistant = true
  clean : CarriesIds read → ∀ front back, state.chunks = front ++ back →
    CleanCut front.flatten (back.flatten ++ state.current)

/-- The open calls are pending. -/
def Awaits (read : List Entry) (state : SplitState) : Prop :=
  CarriesIds read → ∀ id, Open id read → id ∈ state.pendingToolCallIds

/-- A chunk is closed, of what the current one starts with. -/
theorem Chunked.close (chunked : Chunked normalizedParts read state) {first rest : List Entry}
    (split : state.current = first ++ rest) (filled : first ≠ [])
    (room : state.chunks.length < normalizedParts - 1)
    (clean : CarriesIds read → CleanCut (state.chunks.flatten ++ first) rest)
    {next : SplitState} (chunks : next.chunks = state.chunks ++ [first])
    (current : next.current = rest)
    (boundary : ∀ index, next.pendingChunkStartIndex = some index →
      ∃ turn, rest[index]? = some turn ∧ turn.isAssistant = true) :
    Chunked normalizedParts read next where
  whole := by
    rw [chunks, current, List.flatten_append, List.flatten_singleton, List.append_assoc, ← split]
    exact chunked.whole
  filled := by
    rw [chunks, List.forall_mem_append]
    exact ⟨chunked.filled, List.forall_mem_singleton.2 filled⟩
  few := by
    rw [chunks, List.length_append, List.length_singleton]
    exact room
  boundary := by
    rw [current]
    exact boundary
  clean := by
    intro carries front back cut
    rw [chunks] at cut
    rw [current]
    rcases List.eq_nil_or_concat' back with rfl | ⟨back, last, rfl⟩
    · rw [List.append_nil] at cut
      rw [← cut, List.flatten_append, List.flatten_singleton, List.flatten_nil, List.nil_append]
      exact clean carries
    · rw [← List.append_assoc] at cut
      obtain ⟨earlier, same⟩ := List.append_inj' cut rfl
      obtain rfl := List.head_eq_of_cons_eq same
      have kept := chunked.clean carries front back earlier
      rw [split] at kept
      rw [List.flatten_append, List.flatten_singleton, List.append_assoc]
      exact kept

theorem Chunked.splitCurrentAtPendingBoundary
    (chunked : Chunked normalizedParts read state) : Chunked normalizedParts read
      (Compaction.splitCurrentAtPendingBoundary estimateTokens normalizedParts state) := by
  rw [Compaction.splitCurrentAtPendingBoundary]
  split
  · exact chunked
  next index pending =>
    split
    · exact chunked
    next allowed =>
      rw [not_or, not_le] at allowed
      obtain ⟨turn, found, isTurn⟩ := chunked.boundary index pending
      obtain ⟨inside, here⟩ := List.getElem?_eq_some_iff.1 found
      have starts : state.current.drop index = turn :: state.current.drop (index + 1) := by
        rw [List.drop_eq_getElem_cons inside, here]
      refine chunked.close (List.take_append_drop index state.current).symm ?_ allowed.2
        (fun _ => .inr ⟨turn, _, starts, isTurn⟩) rfl rfl ?_
      · rw [Ne, List.take_eq_nil_iff, not_or]
        exact ⟨allowed.1, List.ne_nil_of_length_pos (by omega)⟩
      · intro next isNext
        obtain rfl : 0 = next := Option.some.inj isNext
        exact ⟨turn, by rw [starts]; rfl, isTurn⟩

theorem Chunked.beginChunk
    (chunked : Chunked normalizedParts read state) (awaits : Awaits read state)
    (messageTokens : ℚ) : Chunked normalizedParts read
      (Compaction.beginChunk normalizedParts targetTokens state messageTokens) := by
  rw [Compaction.beginChunk]
  split
  next full =>
    obtain ⟨idle, room, filled, -⟩ := full
    refine chunked.close (List.append_nil _).symm (List.ne_nil_of_length_pos filled) room
      (fun carries => .inl fun id isOpen => ?_) rfl rfl nofun
    rw [chunked.whole] at isOpen
    have pending := awaits carries id isOpen
    rw [idle] at pending
    exact Finset.notMem_empty id pending
  next => exact chunked

theorem pending_beginChunk (state : SplitState) (messageTokens : ℚ) :
    (beginChunk normalizedParts targetTokens state messageTokens).pendingToolCallIds =
      state.pendingToolCallIds := by
  rw [beginChunk]
  split
  · rfl
  · rfl

theorem CarriesIds.of_concat {messages : List Entry} {message : Entry}
    (carries : CarriesIds (messages ++ [message])) : CarriesIds messages := fun entry member =>
  carries entry (List.mem_append_left _ member)

theorem Chunked.addMessage
    (chunked : Chunked normalizedParts read state) (message : Entry) (messageTokens : ℚ) :
    Chunked normalizedParts (read ++ [message])
      (Compaction.addMessage state message messageTokens) where
  whole := by
    rw [Compaction.addMessage, ← List.append_assoc, chunked.whole]
  filled := chunked.filled
  few := chunked.few
  boundary index pending := by
    obtain ⟨turn, found, isTurn⟩ := chunked.boundary index pending
    exact ⟨turn, by
      rw [Compaction.addMessage, List.getElem?_append_left (List.getElem?_eq_some_iff.1 found).1]
      exact found, isTurn⟩
  clean carries front back cut := by
    rw [Compaction.addMessage, ← List.append_assoc]
    exact (chunked.clean carries.of_concat front back cut).append [message]

/-- A state with the same chunks, whose pending turn is one of the current messages. -/
theorem Chunked.of_same {state next : SplitState}
    (chunked : Chunked normalizedParts read state) (chunks : next.chunks = state.chunks)
    (current : next.current = state.current)
    (boundary : ∀ index, next.pendingChunkStartIndex = some index →
      ∃ turn, state.current[index]? = some turn ∧ turn.isAssistant = true) :
    Chunked normalizedParts read next where
  whole := by rw [chunks, current]; exact chunked.whole
  filled := by rw [chunks]; exact chunked.filled
  few := by rw [chunks]; exact chunked.few
  boundary := by rw [current]; exact boundary
  clean := by rw [chunks, current]; exact chunked.clean

theorem pending_splitCurrentAtPendingBoundary (state : SplitState) :
    (splitCurrentAtPendingBoundary estimateTokens normalizedParts state).pendingToolCallIds =
      state.pendingToolCallIds := by
  rw [splitCurrentAtPendingBoundary]
  split
  · rfl
  · split
    · rfl
    · rfl

theorem current_splitCurrentAtPendingBoundary
    (chunked : Chunked normalizedParts read state) (filled : state.current ≠ []) :
    (splitCurrentAtPendingBoundary estimateTokens normalizedParts state).current ≠ [] := by
  rw [splitCurrentAtPendingBoundary]
  split
  · exact filled
  next index pending =>
    split
    · exact filled
    · obtain ⟨turn, found, -⟩ := chunked.boundary index pending
      rw [Ne, List.drop_eq_nil_iff, not_le]
      exact (List.getElem?_eq_some_iff.1 found).1

/-- A state with no current messages lost and the chunks of what has been read. -/
def Holds (normalizedParts : ℕ) (read : List Entry) (state : SplitState) : Prop :=
  Chunked normalizedParts read state ∧ state.current ≠ []

/-- What `takeResult` does once the result has been taken. -/
theorem Holds.splitWhenIdle (holds : Holds normalizedParts read state) : Holds normalizedParts read
      (if state.pendingToolCallIds = ∅ ∧ state.chunks.length < normalizedParts - 1 ∧
          targetTokens < state.currentTokens then
        { splitCurrentAtPendingBoundary estimateTokens normalizedParts state with
          pendingChunkStartIndex := none }
      else state) := by
  obtain ⟨chunked, filled⟩ := holds
  split
  · exact ⟨chunked.splitCurrentAtPendingBoundary.of_same rfl rfl nofun,
      current_splitCurrentAtPendingBoundary chunked filled⟩
  · exact ⟨chunked, filled⟩

theorem Holds.takeResult
    (holds : Holds normalizedParts read state) (message : Entry) : Holds normalizedParts read
      (Compaction.takeResult estimateTokens normalizedParts targetTokens state message) := by
  obtain ⟨chunked, filled⟩ := holds
  rw [Compaction.takeResult]
  cases resultId message with
  | none =>
    have cleared : Holds normalizedParts read
        { state with pendingToolCallIds := ∅, pendingChunkStartIndex := none } :=
      ⟨chunked.of_same rfl rfl nofun, filled⟩
    exact cleared.splitWhenIdle
  | some id =>
    have erased : Holds normalizedParts read
        { state with pendingToolCallIds := state.pendingToolCallIds.erase id } :=
      ⟨chunked.of_same rfl rfl chunked.boundary, filled⟩
    exact erased.splitWhenIdle

/-- The state after a message: chunks of what has been read, and the open calls pending. -/
structure SplitRead (normalizedParts : ℕ) (read : List Entry) (state : SplitState) : Prop where
  chunked : Chunked normalizedParts read state
  awaits : Awaits read state
  current : read ≠ [] → state.current ≠ []

theorem SplitRead.splitStep (before : SplitRead normalizedParts read state) (message : Entry) :
    SplitRead normalizedParts (read ++ [message])
      (Compaction.splitStep estimateTokens normalizedParts targetTokens state message) := by
  have begun : Chunked normalizedParts read (beginChunk normalizedParts targetTokens state
      (estimateTokens message)) := before.chunked.beginChunk before.awaits (estimateTokens message)
  have added := begun.addMessage message (estimateTokens message)
  have filled : (addMessage (beginChunk normalizedParts targetTokens state
      (estimateTokens message)) message (estimateTokens message)).current ≠ [] :=
    List.append_ne_nil_of_right_ne_nil _ (List.cons_ne_nil _ _)
  have last : (addMessage (beginChunk normalizedParts targetTokens state
      (estimateTokens message)) message (estimateTokens message)).current.getLast? =
        some message := List.getLast?_concat
  have pending : (addMessage (beginChunk normalizedParts targetTokens state
      (estimateTokens message)) message (estimateTokens message)).pendingToolCallIds =
        state.pendingToolCallIds := pending_beginChunk state (estimateTokens message)
  rw [Compaction.splitStep]
  generalize addMessage (beginChunk normalizedParts targetTokens state (estimateTokens message))
    message (estimateTokens message) = next at added filled last pending ⊢
  split
  next isTurn =>
    refine ⟨added.of_same rfl rfl fun index isIndex => ?_, fun carries id isOpen => ?_,
      fun _ => filled⟩
    · rw [awaitResults] at isIndex
      dsimp only at isIndex
      split at isIndex
      · obtain rfl := Option.some.inj isIndex
        exact ⟨message, List.getLast?_eq_getElem? ▸ last, isTurn⟩
      · cases isIndex
    · obtain ⟨-, whole, called⟩ | ⟨-, notTurn, -⟩ := isOpen.of_concat
      · have some : 0 < message.calls.length :=
          List.length_pos_of_ne_nil fun none => by rw [none] at called; cases called
        rw [awaitResults]
        dsimp only
        rw [if_pos (by simp [whole, some]), List.mem_toFinset]
        exact called
      · rw [isTurn] at notTurn
        cases notTurn
  next notTurn =>
    -- a call that is open behind the message was open before it, and is pending
    have wasPending : CarriesIds (read ++ [message]) → ∀ id, Open id (read ++ [message]) →
        id ∈ state.pendingToolCallIds ∧ ¬ message.answers id := by
      intro carries id isOpen
      obtain ⟨isTurn, -⟩ | ⟨wasOpen, -, silent⟩ := isOpen.of_concat
      · exact absurd isTurn notTurn
      · exact ⟨before.awaits carries.of_concat id wasOpen, silent⟩
    split
    next result =>
      have taken : Holds normalizedParts (read ++ [message]) (takeResult estimateTokens
        normalizedParts targetTokens next message) := Holds.takeResult ⟨added, filled⟩ message
      refine ⟨taken.1, fun carries id isOpen => ?_, fun _ => taken.2⟩
      · obtain ⟨isPending, silent⟩ := wasPending carries id isOpen
        have hasId := carries message (List.mem_append_right _ (List.mem_singleton_self _)) result.1
        obtain ⟨other, isOther⟩ := Option.isSome_iff_exists.1 hasId
        have apart : id ≠ other := by
          rintro rfl
          refine silent ?_
          cases message with
          | object message => exact ⟨result.1, isOther⟩
          | other value => cases isOther
        have left : (takeResult estimateTokens normalizedParts targetTokens next
            message).pendingToolCallIds = next.pendingToolCallIds.erase other := by
          rw [takeResult, isOther]
          dsimp only
          split
          · exact pending_splitCurrentAtPendingBoundary _
          · rfl
        rw [left, pending]
        exact Finset.mem_erase.2 ⟨apart, isPending⟩
    next notResult =>
      refine ⟨added, fun carries id isOpen => ?_, fun _ => filled⟩
      rw [pending]
      exact (wasPending carries id isOpen).1

theorem splitRead_foldl {read messages : List Entry}
    (before : SplitRead normalizedParts read state) : SplitRead normalizedParts (read ++ messages)
      (messages.foldl (splitStep estimateTokens normalizedParts targetTokens) state) := by
  induction messages generalizing read state with
  | nil =>
    rw [List.append_nil]
    exact before
  | cons message messages inductionHypothesis =>
    have step : SplitRead normalizedParts (read ++ [message])
        (splitStep estimateTokens normalizedParts targetTokens state message) :=
      before.splitStep message
    have rest := inductionHypothesis step
    rw [List.append_assoc, List.singleton_append] at rest
    exact rest

theorem splitRead_nil : SplitRead normalizedParts [] ⟨[], [], 0, ∅, none⟩ where
  chunked :=
    { whole := rfl
      filled := fun _ member => absurd member List.not_mem_nil
      few := Nat.zero_le _
      boundary := nofun
      clean := fun _ front back cut => by
        obtain ⟨rfl, -⟩ := List.append_eq_nil_iff.1 cut.symm
        exact .inl not_open_nil }
  awaits := fun _ id isOpen => absurd isOpen (not_open_nil id)
  current := fun some => absurd rfl some

/-- The end of the splitter: the last chunk is closed, where a call of it is pending in two. -/
theorem SplitRead.splitEnd {messages : List Entry}
    (done : SplitRead normalizedParts messages state) (filled : messages ≠ [])
    (many : 1 < normalizedParts) {parts : ℚ} (few : normalizedParts ≤ max 1 ⌊parts⌋.toNat) :
    SplitsWhole messages parts
      (Compaction.splitEnd estimateTokens normalizedParts targetTokens state) := by
  have ended : Holds normalizedParts messages
      (if state.pendingToolCallIds ≠ ∅ ∧ targetTokens < state.currentTokens then
        splitCurrentAtPendingBoundary estimateTokens normalizedParts state else state) := by
    have current := done.current filled
    split
    · exact ⟨done.chunked.splitCurrentAtPendingBoundary,
        current_splitCurrentAtPendingBoundary done.chunked current⟩
    · exact ⟨done.chunked, current⟩
  rw [Compaction.splitEnd]
  generalize (if state.pendingToolCallIds ≠ ∅ ∧ targetTokens < state.currentTokens then
    splitCurrentAtPendingBoundary estimateTokens normalizedParts state else state) = last at ended ⊢
  obtain ⟨chunked, current⟩ := ended
  rw [if_pos (List.length_pos_of_ne_nil current)]
  refine ⟨?_, ?_, ?_, fun carries front back cut => ?_⟩
  · have room := chunked.few
    rw [List.length_append, List.length_singleton]
    omega
  · rw [List.forall_mem_append]
    exact ⟨chunked.filled, List.forall_mem_singleton.2 current⟩
  · rw [List.flatten_append, List.flatten_singleton]
    exact chunked.whole
  · rcases List.eq_nil_or_concat' back with rfl | ⟨back, final, rfl⟩
    · exact not_severs_nil _
    · rw [← List.append_assoc] at cut
      obtain ⟨earlier, same⟩ := List.append_inj' cut rfl
      obtain rfl := List.head_eq_of_cons_eq same
      rw [List.flatten_append, List.flatten_singleton]
      exact (chunked.clean carries front back earlier).not_severs

end Split

theorem normalizeParts_le (parts : ℚ) (messageCount : ℕ) :
    normalizeParts parts messageCount ≤ max 1 ⌊parts⌋.toNat := by
  rw [normalizeParts]
  split
  · exact le_max_left _ _
  · exact min_le_left _ _

/-- One chunk splits nothing. -/
theorem splitsWhole_singleton (filled : messages ≠ []) (parts : ℚ) :
    SplitsWhole messages parts [messages] where
  few := le_max_left _ _
  filled := List.forall_mem_singleton.2 filled
  whole := List.flatten_singleton
  together _ front back cut := by
    cases front with
    | nil =>
      exact CleanCut.not_severs (.inl not_open_nil)
    | cons first front =>
      obtain ⟨-, rest⟩ := List.cons.inj cut
      obtain ⟨-, rfl⟩ := List.append_eq_nil_iff.1 rest.symm
      exact not_severs_nil _

theorem splitsWhole (estimateTokens : Entry → ℚ) (messages : List Entry) (parts : ℚ) :
    SplitsWhole messages parts (splitMessagesByTokenShare estimateTokens messages parts) := by
  rw [splitMessagesByTokenShare]
  split
  next empty =>
    obtain rfl := List.length_eq_zero_iff.1 empty
    refine ⟨Nat.zero_le _, fun _ member => absurd member List.not_mem_nil, rfl,
      fun _ front back cut => ?_⟩
    obtain ⟨-, rfl⟩ := List.append_eq_nil_iff.1 cut.symm
    exact not_severs_nil _
  next some =>
    have filled : messages ≠ [] := fun empty => some (empty ▸ rfl)
    dsimp only
    split
    · exact splitsWhole_singleton filled parts
    next many =>
      have few := normalizeParts_le parts messages.length
      generalize normalizeParts parts messages.length = normalizedParts at many few ⊢
      exact (splitRead_foldl splitRead_nil).splitEnd filled (not_le.1 many) few

/-! ### What stands behind a message -/

/-- The messages that are no tool results. -/
def others (messages : List Entry) : List Entry := messages.filter (!·.isToolResult)

variable {entry : Entry}

theorem others_cons_of_result (isResult : entry.isToolResult = true)
    (messages : List Entry) : others (entry :: messages) = others messages := by
  rw [others, List.filter_cons, isResult]
  rfl

theorem others_cons_of_other (other : entry.isToolResult = false)
    (messages : List Entry) : others (entry :: messages) = entry :: others messages := by
  rw [others, List.filter_cons, other]
  rfl

theorem others_append (front back : List Entry) :
    others (front ++ back) = others front ++ others back := List.filter_append _ _

/-- What stands behind a number of messages that are no tool results. -/
def behind : ℕ → List Entry → List Entry
  | 0, messages => messages
  | _ + 1, [] => []
  | count + 1, entry :: messages =>
    if entry.isToolResult then behind (count + 1) messages else behind count messages

theorem behind_nil (count : ℕ) : behind count [] = [] := by
  cases count with
  | zero => rfl
  | succ count => rfl

@[simp] theorem behind_zero (messages : List Entry) : behind 0 messages = messages := by
  cases messages with
  | nil => rfl
  | cons entry messages => rfl

theorem behind_suffix (count : ℕ) (messages : List Entry) : behind count messages <:+ messages := by
  induction messages generalizing count with
  | nil =>
    rw [behind_nil]
  | cons entry messages inductionHypothesis =>
    cases count with
    | zero => exact List.suffix_refl _
    | succ count =>
      rw [behind]
      split
      · exact (inductionHypothesis (count + 1)).trans (List.suffix_cons _ _)
      · exact (inductionHypothesis count).trans (List.suffix_cons _ _)

theorem behind_add (count more : ℕ) (messages : List Entry) :
    behind (count + more) messages = behind more (behind count messages) := by
  induction messages generalizing count with
  | nil => simp only [behind_nil]
  | cons entry messages inductionHypothesis =>
    cases count with
    | zero =>
      rw [Nat.zero_add]
      rfl
    | succ count =>
      rw [Nat.succ_add, behind, behind]
      split
      · rw [← inductionHypothesis, Nat.succ_add]
      · exact inductionHypothesis count

theorem suffix_behind (front back : List Entry) :
    back <:+ behind (others front).length (front ++ back) := by
  induction front with
  | nil =>
    rw [List.nil_append]
    exact (behind_zero back).symm ▸ List.suffix_refl back
  | cons first front inductionHypothesis =>
    cases isResult : first.isToolResult with
    | false =>
      rw [others_cons_of_other isResult, List.length_cons, List.cons_append, behind, isResult]
      exact inductionHypothesis
    | true =>
      rw [others_cons_of_result isResult]
      cases count : (others front).length with
      | zero => exact List.suffix_append (first :: front) back
      | succ count =>
        rw [List.cons_append, behind, isResult, if_pos rfl, ← count]
        exact inductionHypothesis

theorem others_behind (count : ℕ) (messages : List Entry) :
    others (behind count messages) = (others messages).drop count := by
  induction messages generalizing count with
  | nil =>
    rw [behind_nil]
    exact List.drop_nil.symm
  | cons entry messages inductionHypothesis =>
    cases count with
    | zero => rfl
    | succ count =>
      rw [behind]
      cases isResult : entry.isToolResult with
      | true => rw [if_pos rfl, inductionHypothesis, others_cons_of_result isResult]
      | false =>
        rw [if_neg Bool.false_ne_true, inductionHypothesis, others_cons_of_other isResult,
          List.drop_succ_cons]

/-- What stands behind some messages has at least as many before it. -/
theorem mem_behind {count : ℕ} (member : entry ∈ behind count messages) :
    ∃ front back, messages = front ++ entry :: back ∧ count ≤ (others front).length := by
  induction messages generalizing count with
  | nil =>
    rw [behind_nil] at member
    cases member
  | cons first messages inductionHypothesis =>
    cases count with
    | zero =>
      obtain ⟨front, back, split⟩ := List.append_of_mem member
      exact ⟨front, back, split, Nat.zero_le _⟩
    | succ count =>
      rw [behind] at member
      cases isResult : first.isToolResult with
      | true =>
        rw [isResult, if_pos rfl] at member
        obtain ⟨front, back, rfl, enough⟩ := inductionHypothesis member
        refine ⟨first :: front, back, rfl, ?_⟩
        rw [others_cons_of_result isResult]
        exact enough
      | false =>
        rw [isResult, if_neg Bool.false_ne_true] at member
        obtain ⟨front, back, rfl, enough⟩ := inductionHypothesis member
        refine ⟨first :: front, back, rfl, ?_⟩
        rw [others_cons_of_other isResult]
        exact Nat.succ_le_succ enough

/-! ### Up to the repair -/

/-- The same message, but for the name of the tool. -/
def SameButName (first second : Message) : Prop :=
  { first with toolName := .undefined } = { second with toolName := .undefined }

theorem SameButName.trans {first second third : Message} (left : SameButName first second)
    (right : SameButName second third) : SameButName first third := Eq.trans left right

theorem sameButName_normalizeToolResultName (message : Message) (fallback : Option String) :
    SameButName message (normalizeToolResultName message fallback) := by
  rw [normalizeToolResultName]
  split
  · rfl
  · split
    · rfl
    · split
      · rfl
      · rfl

/-- A result of some messages, under its own or another name, or one the repair has made. -/
inductive IsResultOf (source : List Entry) : Entry → Prop
  | kept {original result : Message} (member : .object original ∈ source)
      (isResult : original.isToolResult = true) (same : SameButName original result) :
      IsResultOf source (.object result)
  | made {id : String} {name : Option String} {now : ℤ} {result : Message}
      (same : SameButName (makeMissingToolResult id name now) result) :
      IsResultOf source (.object result)

/-- What the repair may make of some messages: the same ones but for the tool results, which are
some of theirs or made. -/
structure UpToPairing (source kept : List Entry) : Prop where
  others : others kept = others source
  results : ∀ entry ∈ kept, entry.isToolResult = true → IsResultOf source entry

/-- Up to the repair, and each result stands behind what it stood behind. -/
structure Aligned (source kept : List Entry) : Prop where
  others : Compaction.others kept = Compaction.others source
  results : ∀ front entry back, kept = front ++ entry :: back → entry.isToolResult = true →
    IsResultOf (behind (Compaction.others front).length source) entry

theorem IsResultOf.mono {source more : List Entry}
    (result : IsResultOf source entry) (within : ∀ other ∈ source, other ∈ more) :
    IsResultOf more entry := by
  cases result with
  | kept member isResult same => exact .kept (within _ member) isResult same
  | made same => exact .made same

theorem isResultOf_self {source : List Entry} (member : entry ∈ source)
    (isResult : entry.isToolResult = true) : IsResultOf source entry := by
  cases entry with
  | object message => exact .kept member isResult rfl
  | other value => cases isResult

theorem Aligned.refl (messages : List Entry) : Aligned messages messages where
  others := rfl
  results front entry back split isResult := by
    refine isResultOf_self ?_ isResult
    rw [split]
    exact (suffix_behind front (entry :: back)).subset List.mem_cons_self

theorem Aligned.upToPairing {source kept : List Entry} (aligned : Aligned source kept) :
    UpToPairing source kept where
  others := aligned.others
  results entry member isResult := by
    obtain ⟨front, back, split⟩ := List.append_of_mem member
    exact (aligned.results front entry back split isResult).mono fun other isBehind =>
      (behind_suffix _ source).subset isBehind

/-- Dropping a front of what is kept is dropping one of the source. -/
theorem Aligned.drop {source front back : List Entry} (aligned : Aligned source (front ++ back)) :
    Aligned (behind (Compaction.others front).length source) back where
  others := by
    rw [others_behind, ← aligned.others, others_append, List.drop_left]
  results before entry after split isResult := by
    rw [← behind_add, ← List.length_append, ← others_append]
    refine aligned.results (front ++ before) entry after ?_ isResult
    rw [split, List.append_assoc]

theorem Aligned.trans {source middle kept : List Entry} (first : Aligned source middle)
    (second : Aligned middle kept) : Aligned source kept where
  others := second.others.trans first.others
  results front entry back split isResult := by
    cases second.results front entry back split isResult with
    | made same => exact .made same
    | @kept original result member isOriginal same =>
      obtain ⟨before, after, found, enough⟩ := mem_behind member
      obtain ⟨more, isMore⟩ := Nat.exists_eq_add_of_le enough
      have earlier := first.results before (.object original) after found isOriginal
      rw [isMore, behind_add] at earlier
      have within := earlier.mono fun other isBehind => (behind_suffix more _).subset isBehind
      cases within with
      | kept member isOriginal sameOriginal =>
        exact .kept member isOriginal (sameOriginal.trans same)
      | made sameOriginal => exact .made (sameOriginal.trans same)

/-! ### The repair -/

variable {seen : Finset String}

/-- The answers a turn is given are results of its span, or made. -/
theorem isResultOf_turnAnswers {times : String → ℤ} {turn : Turn}
    {result : Message} (member : result ∈ turnAnswers .preserve times seen turn) :
    IsResultOf turn.2 (.object result) := by
  obtain ⟨before, call, after, -, answered, -⟩ := mem_answersTo.1 member
  have found : ∀ message, keptResult turn.1.calls seen turn.2 call.id = some message →
      IsResultOf turn.2 (.object message) := by
    intro message kept
    obtain ⟨-, -, original, isIn, answers, rfl⟩ := keptResult_eq_some kept
    exact .kept isIn answers.1 (sameButName_normalizeToolResultName original _)
  rw [turnAnswer] at answered
  split at answered
  · exact found result answered
  · obtain rfl := Option.some.inj answered
    rw [answerOf]
    cases kept : keptResult turn.1.calls seen turn.2 call.id with
    | none => exact .made rfl
    | some message => exact found message kept

theorem others_of_results {entries : List Entry}
    (results : ∀ entry ∈ entries, entry.isToolResult = true) : others entries = [] := by
  rw [others, List.filter_eq_nil_iff]
  intro entry member
  rw [results entry member]
  decide

theorem not_isToolResult_of_mem_others
    (member : entry ∈ others messages) : entry.isToolResult = false := by
  simpa using (List.mem_filter.1 member).2

/-- A turn with its answers and the others of its span stands for the turn with its span. -/
theorem aligned_repairedTurn {times : String → ℤ} {turn : Turn}
    (isTurn : turn.1.isAssistant = true) :
    Aligned (turn.1 :: turn.2) (turn.1 :: (repairedTurn .preserve times seen turn).2) := by
  have notResult := Entry.isToolResult_eq_false isTurn
  have answers : ∀ entry ∈ (turnAnswers .preserve times seen turn).map Entry.object,
      entry.isToolResult = true := fun entry member => isToolResult_of_mem_written member
  rw [repairedTurn]
  refine ⟨?_, fun front entry back split isResult => ?_⟩
  · rw [others_cons_of_other notResult, others_cons_of_other notResult, others_append,
      others_of_results answers, List.nil_append]
    exact congrArg (turn.1 :: ·) (by rw [others, others, List.filter_filter]; simp)
  · cases front with
    | nil =>
      obtain ⟨rfl, -⟩ := List.cons.inj split
      rw [notResult] at isResult
      cases isResult
    | cons first front =>
      obtain ⟨rfl, tails⟩ := List.cons.inj split
      have rest : (turnAnswers .preserve times seen turn).map Entry.object ++ others turn.2 =
          front ++ entry :: back := tails
      -- the result is one of the answers, and so is what stands between the turn and it
      have notBehind : entry ∉ others turn.2 := fun member => by
        rw [not_isToolResult_of_mem_others member] at isResult
        cases isResult
      obtain ⟨more, isMore⟩ : ∃ more, (turnAnswers .preserve times seen turn).map Entry.object =
          front ++ entry :: more := by
        rcases List.append_eq_append_iff.1 rest with ⟨more, -, ends⟩ | ⟨more, starts, ends⟩
        · exact absurd (ends ▸ List.mem_append_right _ List.mem_cons_self) notBehind
        · cases more with
          | nil =>
            rw [List.nil_append] at ends
            exact absurd (ends ▸ List.mem_cons_self) notBehind
          | cons other more =>
            obtain ⟨rfl, -⟩ := List.cons.inj ends
            exact ⟨more, starts⟩
      rw [isMore, List.forall_mem_append] at answers
      rw [others_cons_of_other notResult, others_of_results answers.1, List.length_singleton,
        behind, notResult, if_neg Bool.false_ne_true, behind_zero]
      have member : entry ∈ (turnAnswers .preserve times seen turn).map Entry.object :=
        isMore ▸ List.mem_append_right _ List.mem_cons_self
      obtain ⟨result, written, rfl⟩ := List.mem_map.1 member
      exact isResultOf_turnAnswers written

theorem behind_append_left (count : ℕ) (front back : List Entry) :
    ∀ entry ∈ behind count front, entry ∈ behind count (front ++ back) := by
  induction front generalizing count with
  | nil =>
    rw [behind_nil]
    exact fun _ member => absurd member List.not_mem_nil
  | cons first front inductionHypothesis =>
    cases count with
    | zero => exact fun _ member => List.mem_append_left back member
    | succ count =>
      rw [List.cons_append, behind, behind]
      split
      · exact inductionHypothesis (count + 1)
      · exact inductionHypothesis count

theorem behind_append_right (count : ℕ) (front back : List Entry) :
    ∀ entry ∈ behind count back, entry ∈ behind ((others front).length + count) (front ++ back) := by
  induction front with
  | nil =>
    intro entry member
    rw [List.nil_append, others, List.filter_nil, List.length_nil, Nat.zero_add]
    exact member
  | cons first front inductionHypothesis =>
    intro entry member
    have later := inductionHypothesis entry member
    rw [List.cons_append]
    cases isResult : first.isToolResult with
    | false =>
      rw [others_cons_of_other isResult, List.length_cons, Nat.succ_add, behind, isResult,
        if_neg Bool.false_ne_true]
      exact later
    | true =>
      rw [others_cons_of_result isResult]
      cases total : (others front).length + count with
      | zero =>
        rw [total, behind_zero] at later
        exact List.mem_cons_of_mem _ later
      | succ more =>
        rw [behind, isResult, if_pos rfl, ← total]
        exact later

theorem Aligned.append {source kept more moreKept : List Entry} (first : Aligned source kept)
    (second : Aligned more moreKept) : Aligned (source ++ more) (kept ++ moreKept) where
  others := by rw [others_append, others_append, first.others, second.others]
  results front entry back split isResult := by
    rcases List.append_eq_append_iff.1 split with ⟨between, rfl, ends⟩ | ⟨between, rfl, ends⟩
    · rw [others_append, List.length_append, first.others]
      exact (second.results between entry back ends isResult).mono
        (behind_append_right _ source more)
    · cases between with
      | nil =>
        rw [List.nil_append] at ends
        have later := second.results [] entry back ends.symm isResult
        rw [List.append_nil] at first
        have within := later.mono (behind_append_right _ source more)
        rw [← first.others] at within
        exact within
      | cons other between =>
        obtain ⟨rfl, -⟩ := List.cons.inj ends
        exact (first.results front entry between rfl isResult).mono
          (behind_append_left _ source more)

theorem aligned_others (preamble : List Entry) : Aligned preamble (others preamble) where
  others := by rw [others, others, List.filter_filter]; simp
  results front entry back split isResult := by
    have member : entry ∈ others preamble := by
      rw [split]
      exact List.mem_append_right _ List.mem_cons_self
    rw [not_isToolResult_of_mem_others member] at isResult
    cases isResult

theorem aligned_turns {turns repaired : List Turn}
    (repairs : RepairsTo .preserve seen turns repaired)
    (heads : ∀ turn ∈ turns, turn.1.isAssistant = true) :
    Aligned (turns.flatMap fun turn => turn.1 :: turn.2)
      (repaired.flatMap fun turn => turn.1 :: turn.2) := by
  induction repairs with
  | nil => exact Aligned.refl []
  | cons times tail inductionHypothesis =>
    obtain ⟨isTurn, rest⟩ := List.forall_mem_cons.1 heads
    exact (aligned_repairedTurn isTurn).append (inductionHypothesis rest)

/-- A list that does not start with a tool result. -/
def Led (messages : List Entry) : Prop := ∀ first ∈ messages.head?, first.isToolResult = false

theorem led_of_preamble {preamble : List Entry} {turns : List Turn}
    (plain : ∀ entry ∈ preamble, entry.isToolResult = false)
    (heads : ∀ turn ∈ turns, turn.1.isAssistant = true) : Led (Sections.join preamble turns) := by
  intro first isFirst
  cases preamble with
  | cons entry preamble =>
    obtain rfl := Option.some.inj isFirst
    exact plain entry List.mem_cons_self
  | nil =>
    cases turns with
    | nil => cases isFirst
    | cons turn turns =>
      obtain rfl := Option.some.inj isFirst
      exact Entry.isToolResult_eq_false (heads turn List.mem_cons_self)

theorem RepairsTo.heads {turns repaired : List Turn}
    (repairs : RepairsTo .preserve seen turns repaired)
    (heads : ∀ turn ∈ turns, turn.1.isAssistant = true) :
    ∀ turn ∈ repaired, turn.1.isAssistant = true := by
  induction repairs with
  | nil => exact fun _ member => absurd member List.not_mem_nil
  | cons times tail inductionHypothesis =>
    obtain ⟨isTurn, rest⟩ := List.forall_mem_cons.1 heads
    exact List.forall_mem_cons.2 ⟨isTurn, inductionHypothesis rest⟩

/-- The repair keeps all that is no tool result, and its list starts with no tool result. -/
theorem aligned_repair (now : ℕ → ℤ) (messages : List Entry) :
    Aligned messages (repairToolUseResultPairing .preserve now messages).messages ∧
      Led (repairToolUseResultPairing .preserve now messages).messages := by
  obtain ⟨keeps, repairs⟩ := @repair_messages .preserve now messages
  have shaped := @Sections.shaped_cut _ Entry.isAssistant messages
  have whole := @Sections.join_cut _ Entry.isAssistant messages
  by_cases settled : SettledTranscript .preserve messages
  · rw [keeps settled]
    refine ⟨Aligned.refl messages, ?_⟩
    have led : Led (Sections.join (transcriptPreamble messages) (transcriptTurns messages)) :=
      led_of_preamble (fun entry member => Bool.eq_false_of_not_eq_true (settled.1 entry member))
        shaped.heads
    rw [transcriptPreamble, transcriptTurns, whole] at led
    exact led
  · obtain ⟨repaired, repairsTo, written⟩ := repairs settled
    rw [written]
    constructor
    · have joined := (aligned_others (transcriptPreamble messages)).append
        (aligned_turns repairsTo shaped.heads)
      have same : transcriptPreamble messages ++
          (transcriptTurns messages).flatMap (fun turn => turn.1 :: turn.2) = messages := whole
      rw [same] at joined
      exact joined
    · exact led_of_preamble (fun entry member => not_isToolResult_of_mem_others member)
        (RepairsTo.heads repairsTo shaped.heads)

/-! ### The loop -/

/-- What has been dropped and what is kept make up the input, up to the repair. -/
structure Covers (messages : List Entry) (state : PruneState) : Prop where
  aligned : ∃ source, source <:+ messages ∧ Aligned source state.keptMessages
  covered : others state.allDroppedMessages ++ others state.keptMessages = others messages

variable {estimateTokens : Entry → ℚ} {budgetTokens : ℤ} {parts : ℕ} {state next : PruneState}

/-- A turn of the loop drops a front of what is kept and repairs the rest. -/
theorem pruneRound_eq_some {now : ℕ → ℤ}
    (round : pruneRound estimateTokens budgetTokens parts now state = some next) :
    ∃ dropped rest, state.keptMessages = dropped ++ rest ∧ dropped ≠ [] ∧
      next.allDroppedMessages = state.allDroppedMessages ++ dropped ∧
      next.keptMessages = (repairToolUseResultPairing .preserve now rest).messages := by
  rw [pruneRound] at round
  split at round
  · split at round
    next dropped second rest chunks =>
      have whole := splitsWhole estimateTokens state.keptMessages parts
      rw [chunks] at whole
      obtain rfl := Option.some.inj round
      refine ⟨dropped, (second :: rest).flatten, ?_, whole.filled dropped List.mem_cons_self, rfl,
        rfl⟩
      rw [← whole.whole, List.flatten_cons]
    next => cases round
  · cases round

theorem Covers.round {now : ℕ → ℤ} (covers : Covers messages state)
    (round : pruneRound estimateTokens budgetTokens parts now state = some next) :
    Covers messages next ∧ Led next.keptMessages := by
  obtain ⟨dropped, rest, split, -, allDropped, kept⟩ := pruneRound_eq_some round
  obtain ⟨source, isSuffix, aligned⟩ := covers.aligned
  obtain ⟨repaired, led⟩ := aligned_repair now rest
  rw [split] at aligned
  refine ⟨⟨⟨behind (others dropped).length source, (behind_suffix _ source).trans isSuffix, ?_⟩,
    ?_⟩, ?_⟩
  · rw [kept]
    exact aligned.drop.trans repaired
  · rw [allDropped, kept, others_append, repaired.others, List.append_assoc, ← others_append,
      ← split]
    exact covers.covered
  · rw [kept]
    exact led

/-- Where the list does not start with a tool result, a turn drops something that is none. -/
theorem pruneRound_shortens {now : ℕ → ℤ} (led : Led state.keptMessages)
    (round : pruneRound estimateTokens budgetTokens parts now state = some next) :
    (others next.keptMessages).length < (others state.keptMessages).length := by
  obtain ⟨dropped, rest, split, filled, -, kept⟩ := pruneRound_eq_some round
  rw [kept, (aligned_repair now rest).1.others, split, others_append, List.length_append]
  cases dropped with
  | nil => exact absurd rfl filled
  | cons first dropped =>
    rw [split] at led
    rw [others_cons_of_other (led first rfl), List.length_cons]
    omega

/-- The loop ends when it has a turn for each message that is no tool result, and one more. -/
theorem pruneLoop_ends {now : ℕ → ℕ → ℤ} {turns : ℕ} {state : PruneState}
    (covers : Covers messages state) (led : Led state.keptMessages)
    (enough : (others state.keptMessages).length < turns) :
    ∃ last, pruneLoop estimateTokens budgetTokens parts now turns state = some last ∧
      Covers messages last ∧ ∃ clock, pruneRound estimateTokens budgetTokens parts clock last = none := by
  induction turns generalizing state with
  | zero => cases enough
  | succ turns inductionHypothesis =>
    rw [pruneLoop]
    cases round : pruneRound estimateTokens budgetTokens parts (now turns) state with
    | none => exact ⟨state, rfl, covers, _, round⟩
    | some next =>
      obtain ⟨nextCovers, nextLed⟩ := covers.round round
      have fewer := pruneRound_shortens led round
      exact inductionHypothesis nextCovers nextLed (by omega)

theorem pruneRound_eq_none {clock : ℕ → ℤ} {state : PruneState} (positive : 0 < budgetTokens)
    (ended : pruneRound estimateTokens budgetTokens parts clock state = none) :
    estimateMessagesTokens estimateTokens state.keptMessages ≤ budgetTokens ∨
      (splitMessagesByTokenShare estimateTokens state.keptMessages parts).length ≤ 1 := by
  rw [pruneRound] at ended
  split at ended
  · split at ended
    · cases ended
    next few =>
      refine .inr ?_
      rcases chunks : splitMessagesByTokenShare estimateTokens state.keptMessages parts with
        _ | ⟨first, _ | ⟨second, rest⟩⟩
      · exact Nat.zero_le 1
      · exact le_rfl
      · exact absurd chunks (few first second rest)
  next fits =>
    rw [not_and_or, Nat.pos_iff_ne_zero, not_not, not_lt] at fits
    refine .inl (fits.elim (fun empty => ?_) id)
    rw [List.length_eq_zero_iff.1 empty, estimateMessagesTokens, List.map_nil, List.sum_nil]
    exact_mod_cast positive.le

/-- What the pruning of a history has to give. -/
structure PrunedHistory (estimateTokens : Entry → ℚ) (params : PruneParams) (out : PruneResult) :
    Prop where
  suffix : ∃ source, source <:+ params.messages ∧ UpToPairing source out.messages
  fits : estimateMessagesTokens estimateTokens out.messages ≤ params.budgetTokens ∨
    (splitMessagesByTokenShare estimateTokens out.messages params.normalizedParts).length ≤ 1
  covered : others out.droppedMessagesList ++ others out.messages = others params.messages

theorem pruneHistory_ends (estimateTokens : Entry → ℚ) (now : ℕ → ℕ → ℤ) (params : PruneParams)
    {turns : ℕ} (enough : params.messages.length + 2 ≤ turns) :
    ∃ out, pruneHistoryForContextShare estimateTokens now turns params = some out ∧
      PrunedHistory estimateTokens params out := by
  have start : Covers params.messages { keptMessages := params.messages } :=
    ⟨⟨params.messages, List.suffix_refl _, Aligned.refl _⟩, rfl⟩
  have few : (others params.messages).length ≤ params.messages.length := List.length_filter_le _ _
  have positive : 0 < params.budgetTokens := lt_of_lt_of_le Int.zero_lt_one (le_max_left _ _)
  obtain ⟨turns, rfl⟩ := Nat.exists_eq_add_of_le' enough
  -- after the first turn the list starts with no tool result
  obtain ⟨last, looped, covers, clock, ended⟩ : ∃ last,
      pruneLoop estimateTokens params.budgetTokens params.normalizedParts now
        (turns + (params.messages.length + 2)) { keptMessages := params.messages } = some last ∧
      Covers params.messages last ∧ ∃ clock,
        pruneRound estimateTokens params.budgetTokens params.normalizedParts clock last = none := by
    rw [← Nat.add_assoc turns _ 2, pruneLoop]
    cases round : pruneRound estimateTokens params.budgetTokens params.normalizedParts
        (now (turns + params.messages.length + 1)) { keptMessages := params.messages } with
    | none => exact ⟨_, rfl, start, _, round⟩
    | some next =>
      obtain ⟨nextCovers, nextLed⟩ := start.round round
      have kept := congrArg List.length nextCovers.covered
      rw [List.length_append] at kept
      exact pruneLoop_ends nextCovers nextLed (by omega)
  obtain ⟨source, isSuffix, aligned⟩ := covers.aligned
  refine ⟨_, (congrArg (Option.map _) looped :), ⟨source, isSuffix, aligned.upToPairing⟩,
    pruneRound_eq_none positive ended, covers.covered⟩

/-- A turn with a call, another turn, and only then the result of the call. -/
def lateResult : List Entry :=
  [.object (turnCalling ["call"] "stop"), .object (turnCalling [] "stop"),
    .object (resultFor "call")]

end OpenClaw.Compaction
