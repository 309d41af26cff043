/-
This file says when a message list sent to a provider keeps calls and results paired.

Both lists are cut at everything that is not a tool result. A section of the output is paired
when each of its results carries an id that the turn at its head calls, and each call of that
turn is answered once. Whether all sections are depends on the sections of the input: a
dropped turn leaves its results to the turn before, a result behind another message comes too
late for its turn, the last turn is not completed, and the id map may have a newer or older
id for a call than the turn carries.
-/

import OpenClaw.Base.Sections
import OpenClaw.Transcript.TransportMessages

namespace OpenClaw.Transport

/-! ### The property -/

/-- The id a tool result carries. -/
def Message.resultId? : Message → Option String
  | .toolResult toolCallId .. => some toolCallId
  | _ => none

/-- The calls of a turn that is kept. -/
def Message.keptCalls : Message → List PendingToolCall
  | .assistant _ stopReason content _ =>
    if isCutShort stopReason then [] else content.filterMap Block.toolCall?
  | _ => []

/-- A turn that is kept. -/
def Message.isKeptTurn : Message → Bool
  | .assistant _ stopReason _ _ => !isCutShort stopReason
  | _ => false

/-- A message that is neither a turn nor a tool result. -/
def Message.isPlain (message : Message) : Bool := !message.isAssistant && !message.isToolResult

/-- The sections of a list: each message that is not a tool result, with the results behind it. -/
def sections (messages : List Message) : List Message × List (Message × List Message) :=
  Sections.cut (fun message => !message.isToolResult) messages

/-- Every result of a section answers a call of its turn, and every call is answered once. -/
def PairedSection (part : Message × List Message) : Prop :=
  let ids := part.2.filterMap Message.resultId?
  let calls := part.1.keptCalls.map PendingToolCall.id
  (∀ id ∈ ids, id ∈ calls) ∧ ∀ id ∈ calls, ids.count id = 1

/-- No result stands in front of everything else, and all sections are paired. -/
def Paired (messages : List Message) : Prop :=
  (sections messages).1 = [] ∧ ∀ part ∈ (sections messages).2, PairedSection part

/-- What a provider should get: the kept turns as the first pass has rewritten them, the other
messages as they are, and calls and results in pairs. -/
structure Delivers (target : Target) (messages output : List Message) : Prop where
  paired : Paired output
  turns : output.filter Message.isAssistant =
    (transformFrom target ∅ messages).filter Message.isKeptTurn
  plain : output.filter Message.isPlain = messages.filter Message.isPlain

/-! ### The condition -/

/-- The sections of a list can be answered from the id map on: the results directly behind a kept
turn carry, as the map gives them out there, ids of its calls; each call has one of them, or none,
when another message follows and no other call of the turn has its id. Behind any other message
stands no result. -/
def Answerable (target : Target) : ToolCallIdMap → List (Message × List Message) → Prop
  | _, [] => True
  | idMap, (head, results) :: rest =>
    let transformed := transformMessage target idMap head
    let ids := (results.filterMap Message.resultId?).map (carriedId transformed.1)
    let calls := transformed.2.keptCalls.map PendingToolCall.id
    ((∀ id ∈ ids, id ∈ calls) ∧ ∀ id ∈ calls,
      ids.count id = 1 ∨ ids.count id = 0 ∧ calls.count id = 1 ∧ rest ≠ []) ∧
      Answerable target transformed.1 rest

/-! ### The second pass by sections -/

/-- What the second pass makes of sections. -/
def pieces (now : Int) : List (Message × List Message) → List Message
  | [] => []
  | (head, results) :: rest =>
    (if head.isAssistant && !head.isKeptTurn then [] else [head]) ++ results ++
      (if rest = [] then [] else
        missingToolResults now head.keptCalls (results.filterMap Message.resultId?)) ++
      pieces now rest

variable (now : Int) {parts : List (Message × List Message)} {results : List Message}

theorem flush_eq (pass : SecondPass) : (pass.flush now).result = pass.result ++
    missingToolResults now pass.pendingToolCalls pass.existingToolResultIds ∧
      (pass.flush now).pendingToolCalls = [] := by
  unfold SecondPass.flush
  split
  next none => simp [missingToolResults, none]
  next => exact ⟨rfl, rfl⟩

/-- Results are passed on, and their ids are taken note of. -/
theorem foldl_results (areResults : ∀ message ∈ results,
    (!message.isToolResult) = false) (pass : SecondPass) :
    let final := results.foldl (SecondPass.next now) pass
    final.result = pass.result ++ results ∧ final.pendingToolCalls = pass.pendingToolCalls ∧
      ∀ id, id ∈ final.existingToolResultIds ↔
        id ∈ results.filterMap Message.resultId? ∨ id ∈ pass.existingToolResultIds := by
  induction results generalizing pass with
  | nil => simp
  | cons message rest inductionHypothesis =>
    have later := inductionHypothesis
      (fun other member => areResults other (List.mem_cons_of_mem _ member))
      (pass.next now message)
    have isResult := areResults message List.mem_cons_self
    cases message with
    | toolResult toolCallId toolName content isError timestamp extra =>
      refine ⟨by simpa [SecondPass.next] using later.1, later.2.1, fun id => ?_⟩
      rw [List.foldl_cons, later.2.2 id]
      simp only [SecondPass.next, List.mem_cons, Message.resultId?, List.filterMap_cons]
      tauto
    | user _ => exact absurd isResult (by simp [Message.isToolResult])
    | assistant _ _ _ _ => exact absurd isResult (by simp [Message.isToolResult])
    | other _ _ => exact absurd isResult (by simp [Message.isToolResult])

theorem missingToolResults_congr {calls : List PendingToolCall} {first second : List String}
    (same : ∀ id, id ∈ first ↔ id ∈ second) :
    missingToolResults now calls first = missingToolResults now calls second := by
  simp only [missingToolResults, same]

/-- The head of a section: what was pending is completed, and its own calls are pending. -/
theorem next_head {head : Message} (isHead : (!head.isToolResult) = true) (pass : SecondPass) :
    (pass.next now head).result = pass.result ++
        missingToolResults now pass.pendingToolCalls pass.existingToolResultIds ++
        (if head.isAssistant && !head.isKeptTurn then [] else [head]) ∧
      (pass.next now head).pendingToolCalls = head.keptCalls ∧
      (head.keptCalls ≠ [] → (pass.next now head).existingToolResultIds = []) := by
  obtain ⟨flushed, none⟩ := flush_eq now pass
  cases head with
  | toolResult _ _ _ _ _ _ => exact absurd isHead (by simp [Message.isToolResult])
  | user extra => simp [SecondPass.next, Message.isAssistant, Message.keptCalls, flushed, none]
  | other role extra =>
    simp [SecondPass.next, Message.isAssistant, Message.keptCalls, flushed, none]
  | assistant source stopReason content extra =>
    cases cutShort : isCutShort stopReason with
    | true =>
      simp [SecondPass.next, Message.isAssistant, Message.isKeptTurn, Message.keptCalls, cutShort,
        flushed, none]
    | false =>
      by_cases silent : content.filterMap Block.toolCall? = []
      · simp [SecondPass.next, Message.isAssistant, Message.isKeptTurn, Message.keptCalls, cutShort,
          silent, flushed, none]
      · simp [SecondPass.next, Message.isAssistant, Message.isKeptTurn, Message.keptCalls, cutShort,
          silent, flushed]

open Sections in
/-- The second pass goes through sections one by one. -/
theorem foldl_sections {preamble : List Message}
    (shaped : Shaped (fun message : Message => !message.isToolResult) preamble parts)
    (pass : SecondPass) :
    ((join preamble parts).foldl (SecondPass.next now) pass).result =
      pass.result ++ preamble ++
        (if parts = [] then [] else missingToolResults now pass.pendingToolCalls
          (preamble.filterMap Message.resultId? ++ pass.existingToolResultIds)) ++
        pieces now parts := by
  induction parts generalizing preamble pass with
  | nil =>
    have passed := (foldl_results now shaped.preamble pass).1
    simpa [join, pieces] using passed
  | cons part rest inductionHypothesis =>
    obtain ⟨head, results⟩ := part
    have passed := foldl_results now shaped.preamble pass
    have entered := next_head now (shaped.heads (head, results) List.mem_cons_self)
      (preamble.foldl (SecondPass.next now) pass)
    have completed : missingToolResults now pass.pendingToolCalls
        (preamble.foldl (SecondPass.next now) pass).existingToolResultIds =
        missingToolResults now pass.pendingToolCalls
          (preamble.filterMap Message.resultId? ++ pass.existingToolResultIds) :=
      missingToolResults_congr now fun id => by rw [passed.2.2 id, List.mem_append]
    have own : missingToolResults now head.keptCalls (results.filterMap Message.resultId? ++
        ((preamble.foldl (SecondPass.next now) pass).next now head).existingToolResultIds) =
        missingToolResults now head.keptCalls (results.filterMap Message.resultId?) := by
      by_cases silent : head.keptCalls = []
      · rw [silent]
        rfl
      · rw [entered.2.2 silent, List.append_nil]
    rw [join_cons, List.foldl_append, List.foldl_cons, inductionHypothesis shaped.tail, entered.1,
      entered.2.1, passed.1, passed.2.1, completed, own, pieces]
    simp

open Sections in
theorem secondPass_eq (messages : List Message) :
    secondPass now messages = (sections messages).1 ++ pieces now (sections messages).2 := by
  have shaped : Shaped (fun message : Message => !message.isToolResult) _ _ := shaped_cut messages
  have passed := foldl_sections now shaped {}
  rw [join_cut] at passed
  rw [secondPass, passed]
  simp [sections, missingToolResults]

/-! ### The first pass by sections -/

variable (target : Target)

/-- The first pass, section by section. -/
def transformSections : ToolCallIdMap → List (Message × List Message) →
    List (Message × List Message)
  | _, [] => []
  | idMap, (head, results) :: rest =>
    let transformed := transformMessage target idMap head
    (transformed.2, results.map fun result => (transformMessage target transformed.1 result).2) ::
      transformSections transformed.1 rest

theorem isToolResult_transformMessage (idMap : ToolCallIdMap) (message : Message) :
    (transformMessage target idMap message).2.isToolResult = message.isToolResult := by
  cases message <;> rfl

theorem transformFrom_results (areResults : ∀ message ∈ results,
    (!message.isToolResult) = false) (idMap : ToolCallIdMap) (rest : List Message) :
    transformFrom target idMap (results ++ rest) =
      (results.map fun result => (transformMessage target idMap result).2) ++
        transformFrom target idMap rest := by
  induction results with
  | nil => rfl
  | cons message others inductionHypothesis =>
    have later := inductionHypothesis
      fun other member => areResults other (List.mem_cons_of_mem _ member)
    have isResult := areResults message List.mem_cons_self
    have unchanged : (transformMessage target idMap message).1 = idMap := by
      cases message with
      | toolResult _ _ _ _ _ _ => rfl
      | user _ => rfl
      | other _ _ => rfl
      | assistant _ _ _ _ => exact absurd isResult (by simp [Message.isToolResult])
    rw [List.cons_append, transformFrom, unchanged, later]
    rfl

open Sections in
theorem sections_transformFrom (idMap : ToolCallIdMap) (messages : List Message) :
    sections (transformFrom target idMap messages) =
      ((sections messages).1.map fun result => (transformMessage target idMap result).2,
        transformSections target idMap (sections messages).2) := by
  have shaped : Shaped (fun message : Message => !message.isToolResult) _ _ := shaped_cut messages
  have joined : ∀ (parts : List (Message × List Message)) (preamble : List Message)
      (idMap : ToolCallIdMap),
      Shaped (fun message : Message => !message.isToolResult) preamble parts →
      transformFrom target idMap (join preamble parts) =
        join (preamble.map fun result => (transformMessage target idMap result).2)
          (transformSections target idMap parts) ∧
      Shaped (fun message : Message => !message.isToolResult)
        (preamble.map fun result => (transformMessage target idMap result).2)
        (transformSections target idMap parts) := by
    intro parts
    induction parts with
    | nil =>
      intro preamble idMap shaped
      have passed := transformFrom_results target shaped.preamble idMap []
      refine ⟨by simpa [join, transformSections, transformFrom] using passed, ?_, nofun, nofun⟩
      simpa [isToolResult_transformMessage] using shaped.preamble
    | cons part rest inductionHypothesis =>
      intro preamble idMap shaped
      obtain ⟨head, results⟩ := part
      obtain ⟨passes, keeps⟩ := inductionHypothesis results (transformMessage target idMap head).1
        shaped.tail
      constructor
      · rw [join_cons, transformFrom_results target shaped.preamble, transformFrom, passes,
          transformSections, join_cons]
      · refine ⟨by simpa [isToolResult_transformMessage] using shaped.preamble, ?_, ?_⟩
        · have isHead : head.isToolResult = false := by
            simpa using shaped.heads (head, results) List.mem_cons_self
          simpa [transformSections, isToolResult_transformMessage, isHead] using keeps.heads
        · simpa [transformSections] using And.intro keeps.preamble keeps.bodies
  obtain ⟨passes, keeps⟩ := joined _ _ idMap shaped
  rw [join_cut] at passes
  rw [passes]
  exact cut_join keeps

/-! ### Pairs in the output -/

/-- The condition on one section of the first pass. -/
def SectionComplete (head : Message) (results : List Message) (isLast : Prop) : Prop :=
  let ids := results.filterMap Message.resultId?
  let calls := head.keptCalls.map PendingToolCall.id
  (∀ id ∈ ids, id ∈ calls) ∧
    ∀ id ∈ calls, ids.count id = 1 ∨ ids.count id = 0 ∧ calls.count id = 1 ∧ ¬isLast

/-- The condition on the sections of the first pass. -/
def Completed : List (Message × List Message) → Prop
  | [] => True
  | (head, results) :: rest => SectionComplete head results (rest = []) ∧ Completed rest

theorem resultIds_eq_nil_iff (areResults : ∀ message ∈ results, (!message.isToolResult) = false) :
    results.filterMap Message.resultId? = [] ↔ results = [] := by
  refine ⟨fun none => ?_, fun none => none ▸ rfl⟩
  cases results with
  | nil => rfl
  | cons message rest =>
    have isResult := areResults message List.mem_cons_self
    cases message with
    | toolResult _ _ _ _ _ _ => exact nomatch none
    | user _ => exact absurd isResult (by simp [Message.isToolResult])
    | assistant _ _ _ _ => exact absurd isResult (by simp [Message.isToolResult])
    | other _ _ => exact absurd isResult (by simp [Message.isToolResult])

/-- The ids of the results that are appended: those of the calls without a result. -/
theorem resultIds_missingToolResults (calls : List PendingToolCall) (existing : List String) :
    (missingToolResults now calls existing).filterMap Message.resultId? =
      (calls.map PendingToolCall.id).filter fun id => id ∉ existing := by
  induction calls with
  | nil => rfl
  | cons call rest inductionHypothesis =>
    have later : (List.map (missingResult now)
        (rest.filter fun toolCall => toolCall.id ∉ existing)).filterMap Message.resultId? =
        (rest.map PendingToolCall.id).filter fun id => id ∉ existing := inductionHypothesis
    by_cases has : call.id ∈ existing
    · simpa [missingToolResults, has] using later
    · simpa [missingToolResults, has, missingResult, Message.resultId?] using later

/-- How often an id of a call is carried once the calls without a result have been completed. -/
theorem count_append_missing {ids calls : List String} {id : String} (called : id ∈ calls) :
    0 < ids.count id + (calls.filter fun other => other ∉ ids).count id ∧
      (ids.count id + (calls.filter fun other => other ∉ ids).count id = 1 ↔
        ids.count id = 1 ∨ ids.count id = 0 ∧ calls.count id = 1) := by
  by_cases has : id ∈ ids
  · have none : (calls.filter fun other => other ∉ ids).count id = 0 :=
      List.count_eq_zero.2 fun member => by simp [has] at member
    have some := List.count_pos_iff.2 has
    omega
  · have all : (calls.filter fun other => other ∉ ids).count id = calls.count id :=
      List.count_filter (by simpa using has)
    have zero := List.count_eq_zero.2 has
    have some := List.count_pos_iff.2 called
    omega

/-- A section of the output is paired exactly when the section it comes from is complete and it has
not got the results of a dropped turn. -/
theorem pairedSection_iff {head : Message} {results displaced : List Message} {isLast : Prop}
    [Decidable isLast]
    (areResults : ∀ message ∈ displaced, (!message.isToolResult) = false)
    (ends : isLast → displaced = []) :
    PairedSection (head, results ++ (if isLast then [] else
        missingToolResults now head.keptCalls (results.filterMap Message.resultId?)) ++ displaced) ↔
      SectionComplete head results isLast ∧ displaced = [] := by
  unfold PairedSection SectionComplete
  dsimp only
  rw [← resultIds_eq_nil_iff areResults]
  by_cases last : isLast
  · have none := ends last
    subst none
    simp [last]
  · simp only [if_neg last, List.filterMap_append, resultIds_missingToolResults]
    generalize results.filterMap Message.resultId? = ids
    generalize head.keptCalls.map PendingToolCall.id = calls
    generalize displaced.filterMap Message.resultId? = others
    constructor
    · rintro ⟨called, once⟩
      have none : others = [] := by
        refine List.eq_nil_iff_forall_not_mem.2 fun id member => ?_
        have isCalled := called id (by simp [member])
        have counted := once id isCalled
        have positive : 0 < ids.count id + (calls.filter fun other => other ∉ ids).count id :=
          (count_append_missing isCalled).1
        have another := List.count_pos_iff.2 member
        simp only [List.count_append] at counted
        omega
      subst none
      refine ⟨⟨fun id member => called id (by simp [member]), fun id isCalled => ?_⟩, rfl⟩
      have counted := once id isCalled
      simp only [List.append_nil, List.count_append] at counted
      have split := (count_append_missing isCalled).2.1 counted
      tauto
    · rintro ⟨⟨called, once⟩, rfl⟩
      simp only [List.append_nil, List.mem_append, List.count_append]
      refine ⟨fun id member => ?_, fun id isCalled => ?_⟩
      · exact member.elim (called id) fun added => (List.mem_filter.1 added).1
      · exact (count_append_missing isCalled).2.2 ((once id isCalled).imp_right fun none =>
          ⟨none.1, none.2.1⟩)

theorem areResults_missingToolResults (calls : List PendingToolCall) (existing : List String) :
    ∀ message ∈ missingToolResults now calls existing, (!message.isToolResult) = false := by
  intro message member
  obtain ⟨call, -, rfl⟩ := List.mem_map.1 member
  rfl

theorem keptCalls_of_dropped {head : Message}
    (dropped : (head.isAssistant && !head.isKeptTurn) = true) : head.keptCalls = [] := by
  cases head with
  | assistant source stopReason content rest =>
    have cutShort : isCutShort stopReason = true := by
      simpa [Message.isAssistant, Message.isKeptTurn] using dropped
    simp [Message.keptCalls, cutShort]
  | user _ => rfl
  | toolResult _ _ _ _ _ _ => rfl
  | other _ _ => rfl

open Sections in
/-- The output of the second pass is paired exactly when the sections of the first are complete. -/
theorem paired_pieces_iff
    (shaped : Shaped (fun message : Message => !message.isToolResult) [] parts) :
    Paired (pieces now parts) ↔ Completed parts := by
  induction parts with
  | nil => simp [Paired, pieces, sections, Completed]
  | cons part rest inductionHypothesis =>
    obtain ⟨head, results⟩ := part
    have bodies := shaped.bodies (head, results) List.mem_cons_self
    have others := inductionHypothesis ⟨nofun, fun other member =>
      shaped.heads other (List.mem_cons_of_mem _ member), fun other member =>
      shaped.bodies other (List.mem_cons_of_mem _ member)⟩
    have later : ∀ message ∈ (sections (pieces now rest)).1, (!message.isToolResult) = false :=
      (shaped_cut (pieces now rest)).preamble
    have ends : rest = [] → (sections (pieces now rest)).1 = [] := by
      rintro rfl
      rfl
    have behind : ∀ message ∈ results ++ (if rest = [] then [] else
        missingToolResults now head.keptCalls (results.filterMap Message.resultId?)),
        (!message.isToolResult) = false := by
      intro message member
      split at member
      · exact bodies message (by simpa using member)
      · rcases List.mem_append.1 member with own | added
        · exact bodies message own
        · exact areResults_missingToolResults now _ _ message added
    have isHead := shaped.heads (head, results) List.mem_cons_self
    cases dropped : (head.isAssistant && !head.isKeptTurn) with
    | true =>
      -- the results of the turn go to the section before
      have silent := keptCalls_of_dropped dropped
      have cutPieces : sections (pieces now ((head, results) :: rest)) =
          (results ++ (sections (pieces now rest)).1, (sections (pieces now rest)).2) := by
        rw [pieces, dropped, if_pos rfl, silent, List.nil_append]
        simpa [sections, missingToolResults] using cut_append_of_unmarked bodies (pieces now rest)
      have complete : SectionComplete head results (rest = []) ↔ results = [] := by
        rw [← resultIds_eq_nil_iff bodies]
        simp [SectionComplete, silent, List.eq_nil_iff_forall_not_mem]
      rw [Paired, cutPieces, Completed, complete, ← others, Paired, List.append_eq_nil_iff]
      exact and_assoc
    | false =>
      have cutPieces : sections (pieces now ((head, results) :: rest)) =
          ([], (head, results ++ (if rest = [] then [] else
            missingToolResults now head.keptCalls (results.filterMap Message.resultId?)) ++
            (sections (pieces now rest)).1) :: (sections (pieces now rest)).2) := by
        rw [pieces, dropped, if_neg Bool.false_ne_true, List.singleton_append, List.cons_append,
          List.cons_append]
        refine (@cut_cons_marked Message (fun message => !message.isToolResult) head isHead _).trans ?_
        rw [cut_append_of_unmarked behind]
        rfl
      rw [Paired, cutPieces, Completed, ← others, Paired, List.forall_mem_cons,
        pairedSection_iff now later ends]
      tauto

/-! ### The condition on the input -/

theorem resultIds_transformMessage (idMap : ToolCallIdMap)
    (areResults : ∀ message ∈ results, (!message.isToolResult) = false) :
    (results.map fun result => (transformMessage target idMap result).2).filterMap
        Message.resultId? =
      (results.filterMap Message.resultId?).map (carriedId idMap) := by
  induction results with
  | nil => rfl
  | cons message rest inductionHypothesis =>
    have later := inductionHypothesis
      fun other member => areResults other (List.mem_cons_of_mem _ member)
    have isResult := areResults message List.mem_cons_self
    cases message with
    | toolResult toolCallId _ _ _ _ _ => exact congrArg (carriedId idMap toolCallId :: ·) later
    | user _ => exact absurd isResult (by simp [Message.isToolResult])
    | assistant _ _ _ _ => exact absurd isResult (by simp [Message.isToolResult])
    | other _ _ => exact absurd isResult (by simp [Message.isToolResult])

theorem transformSections_eq_nil_iff (idMap : ToolCallIdMap)
    (parts : List (Message × List Message)) :
    transformSections target idMap parts = [] ↔ parts = [] := by
  cases parts <;> simp [transformSections]

theorem completed_transformSections_iff (idMap : ToolCallIdMap)
    (bodies : ∀ part ∈ parts, ∀ message ∈ part.2, (!message.isToolResult) = false) :
    Completed (transformSections target idMap parts) ↔ Answerable target idMap parts := by
  induction parts generalizing idMap with
  | nil => exact Iff.rfl
  | cons part rest inductionHypothesis =>
    obtain ⟨head, results⟩ := part
    have ids := resultIds_transformMessage target (transformMessage target idMap head).1
      (bodies (head, results) List.mem_cons_self)
    rw [transformSections, Completed, SectionComplete, ids, transformSections_eq_nil_iff,
      inductionHypothesis _ fun other member => bodies other (List.mem_cons_of_mem _ member)]
    exact Iff.rfl

/-! ### Turns and plain messages -/

/-- A turn that the second pass drops. -/
def Message.isDropped (message : Message) : Bool := message.isAssistant && !message.isKeptTurn

theorem filter_missingToolResults {keeps : Message → Bool}
    (results : ∀ message : Message, message.isToolResult = true → keeps message = false)
    (calls : List PendingToolCall) (existing : List String) :
    (missingToolResults now calls existing).filter keeps = [] := by
  refine List.filter_eq_nil_iff.2 fun message member => ?_
  obtain ⟨call, -, rfl⟩ := List.mem_map.1 member
  simp [results (missingResult now call) rfl]

/-- What is not a tool result comes through the second pass unless it is a dropped turn. -/
theorem filter_secondPass {keeps : Message → Bool}
    (results : ∀ message : Message, message.isToolResult = true → keeps message = false)
    (messages : List Message) :
    (secondPass now messages).filter keeps =
      messages.filter fun message => keeps message && !message.isDropped := by
  have passes : ∀ pass : SecondPass,
      (messages.foldl (SecondPass.next now) pass).result.filter keeps = pass.result.filter keeps ++
        messages.filter fun message => keeps message && !message.isDropped := by
    induction messages with
    | nil => simp
    | cons message rest inductionHypothesis =>
      intro pass
      rw [List.foldl_cons, inductionHypothesis]
      cases isResult : message.isToolResult with
      | true =>
        have left := results message isResult
        cases message with
        | toolResult _ _ _ _ _ _ => simp [SecondPass.next, left]
        | user _ => exact nomatch isResult
        | assistant _ _ _ _ => exact nomatch isResult
        | other _ _ => exact nomatch isResult
      | false =>
        have isHead : (!message.isToolResult) = true := by
          rw [isResult]
          rfl
        have entered := (next_head now isHead pass).1
        rw [entered, List.filter_append, List.filter_append, filter_missingToolResults now results,
          List.append_nil, List.append_assoc, List.filter_cons]
        have dropped : (message.isAssistant && !message.isKeptTurn) = message.isDropped := rfl
        rw [dropped]
        cases message.isDropped <;> cases kept : keeps message <;> simp [kept]
  simpa [secondPass] using passes {}

theorem filter_isPlain_transformFrom (idMap : ToolCallIdMap) (messages : List Message) :
    (transformFrom target idMap messages).filter Message.isPlain =
      messages.filter Message.isPlain := by
  induction messages generalizing idMap with
  | nil => rfl
  | cons message rest inductionHypothesis =>
    rw [transformFrom, List.filter_cons, List.filter_cons, inductionHypothesis]
    cases message <;> rfl

/-! ### The theorem -/

open Sections in
theorem paired_secondPass_iff (messages : List Message) :
    Paired (secondPass now messages) ↔
      (sections messages).1 = [] ∧ Completed (sections messages).2 := by
  have shaped : Shaped (fun message : Message => !message.isToolResult) (sections messages).1
    (sections messages).2 := shaped_cut messages
  have cutOutput : sections (secondPass now messages) = ((sections messages).1 ++
      (sections (pieces now (sections messages).2)).1,
      (sections (pieces now (sections messages).2)).2) := by
    rw [secondPass_eq]
    exact cut_append_of_unmarked shaped.preamble _
  rw [← paired_pieces_iff now ⟨nofun, shaped.heads, shaped.bodies⟩, Paired, cutOutput, Paired,
    List.append_eq_nil_iff]
  exact and_assoc

theorem turns_transform (messages : List Message) :
    (transformTransportMessages target now messages).filter Message.isAssistant =
      (transformFrom target ∅ messages).filter Message.isKeptTurn := by
  have turnsOnly : ∀ message : Message, message.isToolResult = true →
      message.isAssistant = false := by
    intro message isResult
    cases message <;> simp_all [Message.isToolResult, Message.isAssistant]
  rw [transformTransportMessages, filter_secondPass now turnsOnly]
  refine List.filter_congr fun message _ => ?_
  cases message <;> simp [Message.isAssistant, Message.isKeptTurn, Message.isDropped]

theorem plain_transform (messages : List Message) :
    (transformTransportMessages target now messages).filter Message.isPlain =
      messages.filter Message.isPlain := by
  have plainOnly : ∀ message : Message, message.isToolResult = true →
      message.isPlain = false := by
    intro message isResult
    simp [Message.isPlain, isResult]
  rw [transformTransportMessages, filter_secondPass now plainOnly,
    ← filter_isPlain_transformFrom target ∅]
  refine List.filter_congr fun message _ => ?_
  cases message <;> simp [Message.isPlain, Message.isAssistant, Message.isDropped]

open Sections in
/-- A provider gets kept turns, plain messages and pairs exactly when no result stands in front of
all other messages and the sections can be answered. -/
theorem transport_delivers_iff (messages : List Message) :
    Delivers target messages (transformTransportMessages target now messages) ↔
      (sections messages).1 = [] ∧ Answerable target ∅ (sections messages).2 := by
  have shaped : Shaped (fun message : Message => !message.isToolResult) (sections messages).1
    (sections messages).2 := shaped_cut messages
  have paired : Paired (transformTransportMessages target now messages) ↔
      (sections messages).1 = [] ∧ Answerable target ∅ (sections messages).2 := by
    rw [transformTransportMessages, paired_secondPass_iff, sections_transformFrom,
      completed_transformSections_iff target ∅ shaped.bodies, List.map_eq_nil_iff]
  exact ⟨fun delivers => paired.1 delivers.paired, fun answerable =>
    ⟨paired.2 answerable, turns_transform now target messages, plain_transform now target messages⟩⟩

/-! ### A turn that is not completed -/

/-- Every call of a turn, kept or not. -/
def Message.calls : Message → List PendingToolCall
  | .assistant _ _ content _ => content.filterMap Block.toolCall?
  | _ => []

/-- Every tool result stands, before the next turn, behind a turn with a call of its id. -/
def ResultsFollowCalls (messages : List Message) : Prop :=
  (∀ message ∈ (Sections.cut Message.isAssistant messages).1, message.isToolResult = false) ∧
    ∀ turn ∈ (Sections.cut Message.isAssistant messages).2, ∀ message ∈ turn.2,
      ∀ id ∈ message.resultId?, id ∈ turn.1.calls.map PendingToolCall.id

/-- A target of another provider, with a normaliser that marks ids. -/
def otherProvider : Target where
  model := ⟨"google", "google-generative-ai", "gemini"⟩
  normalizeToolCallId := some fun id _ => "call_" ++ id

/-- A last turn with two calls, one of them answered. -/
def halfAnswered : List Message :=
  [.user "hi", .assistant ⟨"openai", "openai-responses", "gpt"⟩ "toolUse"
    [.toolCall "a" "read" none "", .toolCall "b" "write" none ""] "",
    .toolResult "a" "read" "text" false 0 ""]

instance (part : Message × List Message) : Decidable (PairedSection part) :=
  inferInstanceAs (Decidable (_ ∧ _))

instance (messages : List Message) : Decidable (Paired messages) :=
  inferInstanceAs (Decidable (_ ∧ _))

/-- The second call of the last turn gets no result. -/
theorem last_turn_is_not_completed : ¬ ∀ (target : Target) (now : Int) (messages : List Message),
    (∀ normalize ∈ target.normalizeToolCallId, ∀ source, Function.Injective (normalize · source)) →
      ResultsFollowCalls messages →
        Delivers target messages (transformTransportMessages target now messages) := by
  intro delivers
  have injective : ∀ normalize ∈ otherProvider.normalizeToolCallId, ∀ source,
      Function.Injective (normalize · source) := by
    rintro _ ⟨⟩ source first second same
    exact String.append_right_inj "call_" |>.1 same
  have follow : ResultsFollowCalls halfAnswered := by
    refine ⟨by decide, ?_⟩
    decide
  have paired := (delivers otherProvider 0 halfAnswered injective follow).paired
  revert paired
  decide

end OpenClaw.Transport
