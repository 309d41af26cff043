/-
This file says when the turn validation does what it is for: no two neighbours of the
merged role, all content in its order, and no tool call left without an answer before
the next assistant turn.

The strip goes by the ids as the results write them: a call keeps its place when its
trimmed id is among those, and the ids of `toolResult` messages are not trimmed. It also
passes over a turn none of whose calls has an id.
-/

import OpenClaw.Transcript.MergedTurns

namespace OpenClaw.Turns

open Text
open Transcript (Value)

/-! ### What a validated list has to be -/

/-- The ids a message answers, trimmed wherever they stand. -/
def answeredBy (message : Message) : List String :=
  (if message.role = .string "toolResult" then
    (normalizeOptionalString (extractToolResultId message.resultIds)).toList
  else if message.role = .string "tool" then extractToolResultIdsFromRecord message.resultIds
  else []) ++ message.content.items.flatMap ContentItem.resultIds

/-- The ids answered before the next assistant turn. -/
def answeredIds : List Entry → List String
  | [] => []
  | .other _ :: later => answeredIds later
  | .object message :: later =>
    if message.role = .string "assistant" then [] else answeredBy message ++ answeredIds later

def isAnswered (block : Block) (later : List Entry) : Bool :=
  match normalized block.id with
  | some id => (answeredIds later).contains id
  | none => false

/-- Every tool call of an assistant turn is answered before the next one. -/
def CallsAnswered : List Entry → Prop
  | [] => True
  | entry :: later =>
    (entry.hasRole "assistant" = true → ∀ block, .block block ∈ entry.content.items →
      isToolCallBlock block = true → isAnswered block later = true) ∧ CallsAnswered later

/-- What an assistant turn must not lose: all but the calls nobody answers, and values that
are no content. -/
def mustStay (later : List Entry) : ContentItem → Bool
  | .other value => isTruthy value
  | .block block => !isToolCallBlock block || isAnswered block later

/-- An entry the merge does not touch is what it was, but that an assistant turn may have lost
what need not stay. -/
def Unmerged (turn : Entry × List Entry) (out : Entry) : Prop :=
  if turn.1.hasRole "assistant" = true then
    ∃ message content, turn.1 = .object message ∧
      out = .object { message with content := content } ∧
      (message.content.pieces.filter (mustStay turn.2)).Sublist content.pieces
  else out = turn.1

structure GeminiTurns (messages out : List Entry) : Prop where
  noAdjacent : NoAdjacent "assistant" out
  content : List.Forall₂ (Replaces "assistant" fun turn out => out = turn.1)
    ((withLater messages).splitBy (bothTurns "assistant")) out

structure AnthropicTurns (messages out : List Entry) : Prop where
  noAdjacent : NoAdjacent "user" out
  answered : CallsAnswered out
  content : List.Forall₂ (Replaces "user" Unmerged)
    ((withLater messages).splitBy (bothTurns "user")) out

/-! ### When it is -/

/-- Among the tool calls of an assistant turn there is one with an id, and no call is answered
only by `toolResult` messages with blanks around the id. -/
structure StripsCleanly (messages : List Entry) : Prop where
  callsHaveIds : ∀ message, .object message ∈ messages → message.role = .string "assistant" →
    ∀ block, .block block ∈ message.content.items → isToolCallBlock block = true →
      extractToolCallsFromAssistant message ≠ []
  resultsTrimmed : ∀ before message later, messages = before ++ .object message :: later →
    message.role = .string "assistant" →
      ∀ block, .block block ∈ message.content.items → isToolCallBlock block = true →
        ∀ id, normalized block.id = some id → id ∈ answeredIds later →
          id ∈ collectFutureToolResultIds later

/-! ### The strip before the merge -/

theorem prepares_stripEntry : Prepares "user" fun turn => stripEntry turn.1 turn.2 where
  same turn ofRole := stripEntry_of_not_assistant
    (by
      cases entry : turn.1 with
      | other value => rfl
      | object message =>
        rw [entry, Entry.hasRole, decide_eq_true_iff] at ofRole
        rw [Entry.hasRole, ofRole]
        decide) turn.2
  hasRole turn := hasRole_stripEntry "user" turn.1 turn.2
  isObject turn := by
    cases turn.1 with
    | other value => rfl
    | object message => rw [stripEntry]; split <;> rfl
  roleAfter seen turn := by
    cases turn.1 with
    | other value => rfl
    | object message =>
      rw [stripEntry]
      split
      · rw [roleAfter, roleAfter, role_stripTurn]
      · rfl

theorem strip_eq_map (messages : List Entry) :
    stripDanglingAnthropicToolUses messages =
      (withLater messages).map fun turn => stripEntry turn.1 turn.2 := by
  induction messages with
  | nil => rfl
  | cons entry later inductionHypothesis =>
    rw [stripDanglingAnthropicToolUses, withLater, List.map_cons, inductionHypothesis]

/-! ### What the strip keeps -/

variable {id : String}

theorem normalized_spec {value : Value} (named : normalized value = some id) :
    ∃ text, value = .string text ∧ text ≠ "" ∧ normalizeOptionalString (some id) = some id := by
  have normal : normalizeOptionalString (some id) = some id :=
    named ▸ normalizeOptionalString_idem value.readString
  cases value with
  | string text =>
    refine ⟨text, rfl, ?_, normal⟩
    rintro rfl
    have blank : normalizeOptionalString (some "") = none := by decide
    rw [normalized, Value.readString, blank] at named
    cases named
  | _ => cases named

variable {message : Message}

/-- A call whose id is not blank is one of the calls of its turn. -/
theorem calls_ne_nil_of_id {block : Block}
    (member : .block block ∈ message.content.items) (isCall : isToolCallBlock block = true)
    (named : normalized block.id = some id) : extractToolCallsFromAssistant message ≠ [] := by
  obtain ⟨text, isText, nonempty, -⟩ := normalized_spec named
  have typed : Transcript.isToolCallType block.type = true := by
    simp only [isToolCallBlock, Bool.or_eq_true, decide_eq_true_iff] at isCall
    rcases isCall with (same | same) | same <;> rw [same] <;> decide
  have read : ContentItem.callId? (.block block) = some text := by
    rw [ContentItem.callId?, if_pos typed, isText, Value.nonEmptyString, Value.readString]
    exact (nonEmpty_eq_some_iff _ _).2 ⟨rfl, nonempty⟩
  exact List.ne_nil_of_mem (List.mem_filterMap.2 ⟨_, member, read⟩)

/-- An id in its normal form that a result has written is an answered one. -/
theorem mem_answeredIds_of_mem_future {later : List Entry}
    (normal : normalizeOptionalString (some id) = some id)
    (found : id ∈ collectFutureToolResultIds later) : id ∈ answeredIds later := by
  induction later with
  | nil => cases found
  | cons entry later inductionHypothesis =>
    cases entry with
    | other value => exact inductionHypothesis found
    | object message =>
      rw [collectFutureToolResultIds] at found
      rw [answeredIds]
      split at found
      · cases found
      · rename_i other
        rw [if_neg other]
        rw [List.mem_append] at found ⊢
        refine found.imp (fun here => ?_) inductionHypothesis
        rw [collectMatchingToolResultIds, List.mem_append] at here
        rw [answeredBy, List.mem_append]
        refine here.imp_left fun ofMessage => ?_
        split at ofMessage
        · rename_i isResult
          rw [if_pos isResult]
          rw [Option.mem_toList] at ofMessage ⊢
          rw [ofMessage, normal]
        · rename_i notResult
          rwa [if_neg notResult]

theorem answeredIds_strip (messages : List Entry) :
    answeredIds (stripDanglingAnthropicToolUses messages) = answeredIds messages := by
  induction messages with
  | nil => rfl
  | cons entry later inductionHypothesis =>
    cases entry with
    | other value =>
      rw [stripDanglingAnthropicToolUses, stripEntry, answeredIds, answeredIds, inductionHypothesis]
    | object message =>
      rw [stripDanglingAnthropicToolUses, stripEntry]
      split
      next assistant =>
        rw [answeredIds, role_stripTurn, if_pos assistant, answeredIds, if_pos assistant]
      next other => rw [answeredIds, answeredIds, inductionHypothesis]

/-- An answered call is found by its id: the results name it as it is, not only with blanks. -/
def FindsAnswers (message : Message) (later : List Entry) : Prop :=
  ∀ block, .block block ∈ message.content.items → isToolCallBlock block = true →
    ∀ id, normalized block.id = some id → id ∈ answeredIds later →
      id ∈ collectFutureToolResultIds later

theorem keepsItem_of_mustStay {later : List Entry}
    (finds : FindsAnswers message later) {item : ContentItem}
    (member : item ∈ message.content.items) (must : mustStay later item = true) :
    keepsItem (collectFutureToolResultIds later) item = true := by
  cases item with
  | other value => exact must
  | block block =>
    rw [mustStay, isAnswered] at must
    rw [keepsItem]
    cases isCall : isToolCallBlock block with
    | false => rfl
    | true =>
      rw [isCall, Bool.not_true, Bool.false_or] at must
      rw [if_neg (by decide)]
      cases named : normalized block.id with
      | none => rw [named] at must; cases must
      | some id =>
        rw [named] at must
        exact List.contains_iff_mem.2
          (finds block member isCall id named (List.contains_iff_mem.1 must))

theorem mustStay_call {block : Block} {later : List Entry}
    (named : normalized block.id = some id) (answered : id ∈ answeredIds later) :
    mustStay later (.block block) = true := by
  rw [mustStay, isAnswered, named]
  exact Bool.or_eq_true_iff.2 (Or.inr (List.contains_iff_mem.2 answered))

theorem mem_future_of_keepsItem {block : Block} {valid : List String}
    (isCall : isToolCallBlock block = true) (named : normalized block.id = some id)
    (kept : keepsItem valid (.block block) = true) : id ∈ valid := by
  rw [keepsItem, isCall, if_neg (by decide), named] at kept
  exact List.contains_iff_mem.1 kept

/-- What the strip makes of a turn: the turn as it is, for one of three reasons, or the items it
keeps, or a text when it keeps none. -/
theorem stripTurn_cases (message : Message) (later : List Entry) :
    (stripTurn message later = message ∧
      (message.content.items = [] ∨ extractToolCallsFromAssistant message = [] ∨
        ∀ item ∈ message.content.items, keepsItem (collectFutureToolResultIds later) item = true)) ∨
    (∃ placeholder, stripTurn message later = { message with content := .array placeholder } ∧
      message.content.pieces = message.content.items ∧
      extractToolCallsFromAssistant message ≠ [] ∧
      message.content.items.filter (keepsItem (collectFutureToolResultIds later)) = [] ∧
      (placeholder = [] ∨ placeholder = [omittedText])) ∨
    stripTurn message later = { message with
        content := .array
          (message.content.items.filter (keepsItem (collectFutureToolResultIds later))) } ∧
      message.content.pieces = message.content.items ∧
      extractToolCallsFromAssistant message ≠ [] := by
  have unfolded := stripTurn.eq_def message later
  dsimp only at unfolded
  by_cases empty : message.content.items.length = 0
  · rw [if_pos empty] at unfolded
    exact Or.inl ⟨unfolded, Or.inl (List.length_eq_zero_iff.1 empty)⟩
  rw [if_neg empty] at unfolded
  by_cases noCalls : (extractToolCallsFromAssistant message).length = 0
  · rw [if_pos noCalls] at unfolded
    exact Or.inl ⟨unfolded, Or.inr (Or.inl (List.length_eq_zero_iff.1 noCalls))⟩
  rw [if_neg noCalls] at unfolded
  have calls : extractToolCallsFromAssistant message ≠ [] :=
    fun none => noCalls (List.length_eq_zero_iff.2 none)
  have array : message.content.pieces = message.content.items := by
    cases content : message.content with
    | array items => rfl
    | other value => rw [content] at empty; exact absurd rfl empty
  split_ifs at unfolded with whole nothing aborted
  · exact Or.inl ⟨unfolded, Or.inr (Or.inr (List.length_filter_eq_length_iff.1 whole))⟩
  · exact Or.inr (Or.inl ⟨[], unfolded, array, calls, List.length_eq_zero_iff.1 nothing,
      Or.inl rfl⟩)
  · exact Or.inr (Or.inl ⟨[omittedText], unfolded, array, calls, List.length_eq_zero_iff.1 nothing,
      Or.inr rfl⟩)
  · exact Or.inr (Or.inr ⟨unfolded, array, calls⟩)

/-- A turn keeps what must stay exactly when its answers are found. -/
theorem sublist_stripTurn_iff (message : Message) (later : List Entry) :
    (message.content.pieces.filter (mustStay later)).Sublist
        (stripTurn message later).content.pieces ↔ FindsAnswers message later := by
  obtain ⟨same, reason⟩ | ⟨placeholder, same, array, calls, nothing, isPlaceholder⟩ |
    ⟨same, array, calls⟩ := stripTurn_cases message later
  · rw [same]
    refine iff_of_true List.filter_sublist fun block member isCall id named _ => ?_
    rcases reason with empty | noCalls | allKept
    · rw [empty] at member; cases member
    · exact absurd noCalls (calls_ne_nil_of_id member isCall named)
    · exact mem_future_of_keepsItem isCall named (allKept _ member)
  · rw [same, array]
    constructor
    · intro kept block member isCall id named answered
      have stays : .block block ∈ message.content.items.filter (mustStay later) :=
        List.mem_filter.2 ⟨member, mustStay_call named answered⟩
      rcases isPlaceholder with rfl | rfl
      · cases kept.subset stays
      · have isText : ContentItem.block block = omittedText :=
          List.mem_singleton.1 (kept.subset stays)
        obtain rfl := ContentItem.block.inj isText
        cases isCall
    · intro finds
      have none : message.content.items.filter (mustStay later) = [] := by
        refine List.filter_eq_nil_iff.2 fun item member must => ?_
        exact List.filter_eq_nil_iff.1 nothing item member (keepsItem_of_mustStay finds member must)
      rw [none]
      exact List.nil_sublist _
  · rw [same, array]
    constructor
    · intro kept block member isCall id named answered
      have stays : .block block ∈ message.content.items.filter (mustStay later) :=
        List.mem_filter.2 ⟨member, mustStay_call named answered⟩
      exact mem_future_of_keepsItem isCall named (List.mem_filter.1 (kept.subset stays)).2
    · intro finds
      have through : message.content.items.filter (mustStay later) =
          (message.content.items.filter
            (keepsItem (collectFutureToolResultIds later))).filter (mustStay later) := by
        rw [List.filter_filter]
        refine List.filter_congr fun item member => ?_
        cases must : mustStay later item with
        | false => rfl
        | true => rw [keepsItem_of_mustStay finds member must]; rfl
      rw [through]
      exact List.filter_sublist

theorem content_stripTurn (message : Message) (later : List Entry) :
    stripTurn message later = { message with content := (stripTurn message later).content } := by
  obtain ⟨same, -⟩ | ⟨_, same, -⟩ | ⟨same, -⟩ := stripTurn_cases message later <;> rw [same]

theorem unmerged_stripEntry_iff (turn : Entry × List Entry) :
    Unmerged turn (stripEntry turn.1 turn.2) ↔
      ∀ message, turn.1 = .object message → message.role = .string "assistant" →
        FindsAnswers message turn.2 := by
  obtain ⟨entry, later⟩ := turn
  rw [Unmerged]
  cases assistant : entry.hasRole "assistant" with
  | false =>
    rw [if_neg Bool.false_ne_true, stripEntry_of_not_assistant assistant]
    refine iff_of_true rfl fun message isMessage ofRole => ?_
    dsimp only at isMessage
    rw [isMessage, Entry.hasRole, ofRole] at assistant
    cases assistant
  | true =>
    rw [if_pos rfl]
    cases entry with
    | other value => cases assistant
    | object message =>
      have ofRole : message.role = .string "assistant" := of_decide_eq_true assistant
      rw [stripEntry, if_pos ofRole]
      constructor
      · rintro ⟨message, content, ⟨⟩, out, kept⟩ _ ⟨⟩ -
        refine (sublist_stripTurn_iff message later).1 ?_
        rw [Entry.object.inj out]
        exact kept
      · intro finds
        exact ⟨message, (stripTurn message later).content, rfl,
          congrArg Entry.object (content_stripTurn message later),
          (sublist_stripTurn_iff message later).2 (finds message rfl ofRole)⟩

/-- The calls a turn is left with are answered exactly when not all of its calls lack an id. -/
theorem answered_stripTurn_iff (message : Message) (later : List Entry) :
    (∀ block, .block block ∈ (stripTurn message later).content.items →
        isToolCallBlock block = true → isAnswered block later = true) ↔
      ∀ block, .block block ∈ message.content.items → isToolCallBlock block = true →
        extractToolCallsFromAssistant message ≠ [] := by
  have answered_of_kept : ∀ block, isToolCallBlock block = true →
      keepsItem (collectFutureToolResultIds later) (.block block) = true →
      isAnswered block later = true := by
    intro block isCall kept
    rw [keepsItem, isCall, if_neg (by decide)] at kept
    rw [isAnswered]
    cases named : normalized block.id with
    | none => rw [named] at kept; cases kept
    | some id =>
      rw [named] at kept
      obtain ⟨_, _, _, normal⟩ := normalized_spec named
      exact List.contains_iff_mem.2
        (mem_answeredIds_of_mem_future normal (List.contains_iff_mem.1 kept))
  obtain ⟨same, reason⟩ | ⟨placeholder, same, -, calls, -, isPlaceholder⟩ | ⟨same, -, calls⟩ :=
    stripTurn_cases message later
  · rw [same]
    constructor
    · intro answered block member isCall
      have isOne := answered block member isCall
      rw [isAnswered] at isOne
      cases named : normalized block.id with
      | none => rw [named] at isOne; cases isOne
      | some id => exact calls_ne_nil_of_id member isCall named
    · intro haveIds block member isCall
      rcases reason with empty | noCalls | allKept
      · rw [empty] at member; cases member
      · exact absurd noCalls (haveIds block member isCall)
      · exact answered_of_kept block isCall (allKept _ member)
  · rw [same]
    refine iff_of_true (fun block member isCall => ?_) fun _ _ _ => calls
    rcases isPlaceholder with rfl | rfl
    · cases member
    · obtain rfl := ContentItem.block.inj (List.mem_singleton.1 member)
      cases isCall
  · rw [same]
    exact iff_of_true (fun block member isCall =>
      answered_of_kept block isCall (List.mem_filter.1 member).2) fun _ _ _ => calls

/-! ### What the merge of user messages leaves of the answers -/

theorem answeredBy_of_plain (notResult : message.role ≠ .string "toolResult")
    (notTool : message.role ≠ .string "tool") :
    answeredBy message = message.content.items.flatMap ContentItem.resultIds := by
  rw [answeredBy, if_neg notResult, if_neg notTool, List.nil_append]

/-- The roles the merge goes by: the entry in hand has the role seen last, or none. -/
def Coherent (seen : Value) (last : Entry) : Prop :=
  ∀ role, role ≠ "" → last.hasRole role = true → seen = .string role

theorem coherent_roleAfter (seen : Value) (entry : Entry) :
    Coherent (roleAfter seen entry) entry :=
  fun _ named ofRole => roleAfter_of_hasRole named ofRole seen

theorem Coherent.role_ne
    (coherent : Coherent (.string "user") (.object message)) (role : String) (named : role ≠ "")
    (other : role ≠ "user") : message.role ≠ .string role := by
  intro same
  have := coherent role named (decide_eq_true same)
  exact other (Value.string.inj this).symm

/-- Two messages that are joined: what is merged, and what follows, answer what the two did. -/
theorem joined_user {seen : Value} {last next : Entry} (coherent : Coherent seen last)
    (joined : joins "user" seen last next = true) (rest : List Entry) :
    Coherent seen (mergeEntries mergeConsecutiveUserTurns last next) ∧
      answeredIds (mergeEntries mergeConsecutiveUserTurns last next :: rest) =
        answeredIds (last :: next :: rest) ∧
      (mergeEntries mergeConsecutiveUserTurns last next).hasRole "assistant" = false ∧
      last.hasRole "assistant" = false ∧ next.hasRole "assistant" = false := by
  obtain ⟨nextRole, rfl, object⟩ := joins_spec joined
  cases last with
  | other value => cases object
  | object last =>
    cases next with
    | other value => cases nextRole
    | object next =>
      have ofRole : next.role = .string "user" := of_decide_eq_true nextRole
      have mergedRole : (mergeConsecutiveUserTurns last next).role = .string "user" := ofRole
      have notAssistant := coherent.role_ne "assistant" (by decide) (by decide)
      have notResult := coherent.role_ne "toolResult" (by decide) (by decide)
      have notTool := coherent.role_ne "tool" (by decide) (by decide)
      have nextPlain : answeredBy next = next.content.items.flatMap ContentItem.resultIds :=
        answeredBy_of_plain (by rw [ofRole]; decide) (by rw [ofRole]; decide)
      have mergedPlain : answeredBy (mergeConsecutiveUserTurns last next) =
          (last.content.items ++ next.content.items).flatMap ContentItem.resultIds :=
        answeredBy_of_plain (by rw [mergedRole]; decide) (by rw [mergedRole]; decide)
      refine ⟨fun role _ isRole => ?_, ?_, ?_, decide_eq_false notAssistant, ?_⟩
      · rw [mergeEntries, Entry.hasRole, mergedRole, decide_eq_true_iff] at isRole
        exact isRole
      · rw [mergeEntries, answeredIds, answeredIds, answeredIds, if_neg notAssistant,
          if_neg (by rw [mergedRole]; decide), if_neg (by rw [ofRole]; decide), mergedPlain,
          nextPlain, answeredBy_of_plain notResult notTool, List.flatMap_append, List.append_assoc]
      · rw [mergeEntries, Entry.hasRole, mergedRole]
        decide
      · rw [Entry.hasRole, ofRole]
        decide

theorem answeredIds_mergeFrom {seen : Value} {last : Entry} (coherent : Coherent seen last)
    (rest : List Entry) :
    answeredIds (mergeFrom "user" mergeConsecutiveUserTurns seen last rest) =
      answeredIds (last :: rest) := by
  induction rest generalizing seen last with
  | nil => rfl
  | cons next rest inductionHypothesis =>
    rw [mergeFrom]
    split
    next joined =>
      obtain ⟨coherentMerged, answers, -⟩ := joined_user coherent joined rest
      rw [inductionHypothesis coherentMerged, answers]
    next =>
      have later := inductionHypothesis (coherent_roleAfter seen next)
      cases last with
      | other value => rw [answeredIds, later, answeredIds]
      | object message => rw [answeredIds, later, answeredIds]

theorem callsAnswered_mergeFrom {seen : Value} {last : Entry} (coherent : Coherent seen last)
    (rest : List Entry) :
    CallsAnswered (mergeFrom "user" mergeConsecutiveUserTurns seen last rest) ↔
      CallsAnswered (last :: rest) := by
  induction rest generalizing seen last with
  | nil => rfl
  | cons next rest inductionHypothesis =>
    rw [mergeFrom]
    split
    next joined =>
      obtain ⟨coherentMerged, -, mergedOther, lastOther, nextOther⟩ :=
        joined_user coherent joined rest
      rw [inductionHypothesis coherentMerged, CallsAnswered, CallsAnswered, CallsAnswered,
        mergedOther, lastOther, nextOther]
      simp
    next =>
      have coherentNext := coherent_roleAfter seen next
      have unfolded : CallsAnswered (last :: next :: rest) ↔
          (last.hasRole "assistant" = true → ∀ block, .block block ∈ last.content.items →
            isToolCallBlock block = true → isAnswered block (next :: rest) = true) ∧
            CallsAnswered (next :: rest) := Iff.rfl
      rw [CallsAnswered, inductionHypothesis coherentNext, unfolded]
      simp only [isAnswered, answeredIds_mergeFrom coherentNext]

theorem callsAnswered_strip_iff (messages : List Entry) :
    CallsAnswered (stripDanglingAnthropicToolUses messages) ↔
      ∀ message, .object message ∈ messages → message.role = .string "assistant" →
        ∀ block, .block block ∈ message.content.items → isToolCallBlock block = true →
          extractToolCallsFromAssistant message ≠ [] := by
  induction messages with
  | nil => exact iff_of_true trivial fun _ absent => absurd absent List.not_mem_nil
  | cons entry later inductionHypothesis =>
    have answersKept : ∀ block, isAnswered block (stripDanglingAnthropicToolUses later) =
        isAnswered block later := fun block => by rw [isAnswered, isAnswered, answeredIds_strip]
    rw [stripDanglingAnthropicToolUses, CallsAnswered, hasRole_stripEntry, inductionHypothesis]
    simp only [answersKept]
    constructor
    · rintro ⟨here, inLater⟩ message member assistant
      rcases List.mem_cons.1 member with rfl | member
      · have answered := here (decide_eq_true assistant)
        rw [stripEntry, if_pos assistant] at answered
        exact (answered_stripTurn_iff message later).1 answered
      · exact inLater message member assistant
    · intro haveIds
      refine ⟨fun assistant => ?_, fun message member =>
        haveIds message (List.mem_cons_of_mem _ member)⟩
      cases entry with
      | other value => cases assistant
      | object message =>
        have ofRole : message.role = .string "assistant" := of_decide_eq_true assistant
        rw [stripEntry, if_pos ofRole]
        exact (answered_stripTurn_iff message later).2 (haveIds message List.mem_cons_self ofRole)

/-! ### The two validations -/

theorem geminiTurns_iff (messages : List Entry) :
    GeminiTurns messages (validateGeminiTurns messages) ↔ MergesCleanly "assistant" messages := by
  have named : "assistant" ≠ "" := by decide
  have replaced := forall₂_replaces_iff named mergesArrays_assistant
    (prepares_fst "assistant") (fun turn out => out = turn.1) (withLater messages)
  rw [map_fst_withLater, and_iff_left fun turn _ => rfl] at replaced
  constructor
  · exact fun turns => replaced.1 turns.content
  · intro clean
    refine ⟨?_, replaced.2 clean⟩
    exact noAdjacent_of_clean named _ ((swallowedIn_eq_zero_iff _ _).2 clean.noRoleless)

theorem callsAnswered_validateAnthropic_iff (messages : List Entry) :
    CallsAnswered (validateAnthropicTurns messages) ↔
      CallsAnswered (stripDanglingAnthropicToolUses messages) := by
  rw [validateAnthropicTurns]
  cases stripDanglingAnthropicToolUses messages with
  | nil => rfl
  | cons first rest =>
    rw [validateTurns_cons (by decide)]
    exact callsAnswered_mergeFrom (coherent_roleAfter _ first) rest

theorem anthropicContent_iff (messages : List Entry) :
    List.Forall₂ (Replaces "user" Unmerged) ((withLater messages).splitBy (bothTurns "user"))
        (validateAnthropicTurns messages) ↔
      MergesCleanly "user" messages ∧
        ∀ before message later, messages = before ++ .object message :: later →
          message.role = .string "assistant" → FindsAnswers message later := by
  rw [validateAnthropicTurns, strip_eq_map,
    forall₂_replaces_iff (by decide) mergesArrays_user prepares_stripEntry, map_fst_withLater]
  refine and_congr_right fun _ => ⟨fun singles before message later split assistant => ?_,
    fun finds turn isRun => (unmerged_stripEntry_iff turn).2 fun message isMessage assistant => ?_⟩
  · have member : (Entry.object message, later) ∈ withLater messages :=
      mem_withLater.2 ⟨before, split⟩
    have apart : (Entry.object message).hasRole "user" = false := by
      rw [Entry.hasRole, assistant]
      decide
    exact (unmerged_stripEntry_iff (.object message, later)).1
      (singles _ (singleton_mem_runs member apart)) message rfl assistant
  · have member : turn ∈ withLater messages := by
      rw [← List.flatten_splitBy (bothTurns "user") (withLater messages)]
      exact List.mem_flatten.2 ⟨[turn], isRun, List.mem_singleton_self turn⟩
    obtain ⟨before, split⟩ := mem_withLater.1 member
    exact finds before message turn.2 (isMessage ▸ split) assistant

theorem anthropicTurns_iff (messages : List Entry) :
    AnthropicTurns messages (validateAnthropicTurns messages) ↔
      MergesCleanly "user" messages ∧ StripsCleanly messages := by
  have answered := (callsAnswered_validateAnthropic_iff messages).trans
    (callsAnswered_strip_iff messages)
  have content := anthropicContent_iff messages
  constructor
  · intro turns
    obtain ⟨clean, finds⟩ := content.1 turns.content
    exact ⟨clean, answered.1 turns.answered, finds⟩
  · rintro ⟨clean, strips⟩
    refine ⟨?_, answered.2 strips.callsHaveIds, content.2 ⟨clean, strips.resultsTrimmed⟩⟩
    rw [validateAnthropicTurns, strip_eq_map]
    refine noAdjacent_of_clean (by decide) _ ?_
    rw [prepares_stripEntry.swallowedIn_map, map_fst_withLater]
    exact (swallowedIn_eq_zero_iff _ _).2 clean.noRoleless

/-- Both validations do what they are for exactly on the lists in which nothing that is merged is
plain text or without a role, and, for the strip, calls have ids and results have them
trimmed. -/
theorem turns_are_valid_iff (messages : List Entry) :
    (GeminiTurns messages (validateGeminiTurns messages) ↔ MergesCleanly "assistant" messages) ∧
      (AnthropicTurns messages (validateAnthropicTurns messages) ↔
        MergesCleanly "user" messages ∧ StripsCleanly messages) :=
  ⟨geminiTurns_iff messages, anthropicTurns_iff messages⟩

/-- Two user messages in a row, both plain text. -/
def plainTexts : List Entry :=
  [.object { role := .string "user", content := .other (.string "first") },
    .object { role := .string "user", content := .other (.string "second") }]

theorem plain_text_is_lost :
    validateAnthropicTurns plainTexts =
        [.object { role := .string "user", content := .array [] }] ∧
      ¬ AnthropicTurns plainTexts (validateAnthropicTurns plainTexts) := by
  refine ⟨by decide, fun turns => ?_⟩
  have clean := ((anthropicTurns_iff plainTexts).1 turns).1.noPlainText
  exact absurd (clean plainTexts (by decide) (by decide) _ List.mem_cons_self) (by decide)

end OpenClaw.Turns
