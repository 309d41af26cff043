/-
This file is `repairToolUseResultPairing` of `session-transcript-repair.ts`: one
pass over a message list that puts the result of each tool call right behind its
turn, makes up the missing ones and drops the rest.

The pass is written as the source has it, with its counters and its `changed`
flag, and then described turn by turn: cut at its assistant turns, the list
becomes the same turns, each followed by its answers and then by the other
messages of its span (`repairFrom_eq`). Which results a turn is answered with
depends on what came before only through the set of ids already answered.
-/

import OpenClaw.Base.OrderedMap
import OpenClaw.Base.Sections
import OpenClaw.Transcript.Messages

namespace OpenClaw.Transcript

/-! ### The pass -/

inductive ErroredAssistantResultPolicy
  | preserve | drop
  deriving DecidableEq, Repr

structure PairingState where
  out : List Entry := []
  added : List Message := []
  seenToolResultIds : Finset String := ∅
  droppedDuplicateCount : Nat := 0
  droppedOrphanCount : Nat := 0
  moved : Bool := false
  changed : Bool := false

namespace PairingState

def push (state : PairingState) (entry : Entry) : PairingState :=
  { state with out := state.out ++ [entry] }

def dropDuplicate (state : PairingState) : PairingState :=
  { state with droppedDuplicateCount := state.droppedDuplicateCount + 1, changed := true }

def dropOrphan (state : PairingState) : PairingState :=
  { state with droppedOrphanCount := state.droppedOrphanCount + 1, changed := true }

def pushToolResult (state : PairingState) (message : Message) : PairingState :=
  match extractToolResultId message with
  | some id =>
    if id ∈ state.seenToolResultIds then state.dropDuplicate
    else { state with
      seenToolResultIds := insert id state.seenToolResultIds
      out := state.out ++ [.object message] }
  | none => state.push (.object message)

end PairingState

/-- The names of the calls by id; of two calls with one id the later name stands. -/
def toolCallNamesById (calls : List ToolCallLike) : OrderedMap String (Option String) :=
  calls.foldl (fun names call => names.set call.id call.name) ∅

def toolCallName (calls : List ToolCallLike) (id : String) : Option String :=
  ((toolCallNamesById calls).get id).join

/-- What the look-ahead has collected of a span. -/
structure SpanScan where
  state : PairingState
  spanResultsById : OrderedMap String Message := ∅
  remainder : List Entry := []

/-- One step of the look-ahead: a result of one of the calls is kept if it is the first. -/
def scanNext (calls : List ToolCallLike) (scan : SpanScan) (next : Entry) : SpanScan :=
  match next with
  | .other value => { scan with remainder := scan.remainder ++ [.other value] }
  | .object message =>
    if message.isToolResult then
      match extractToolResultId message with
      | some id =>
        if id ∈ calls.map ToolCallLike.id then
          if id ∈ scan.state.seenToolResultIds then { scan with state := scan.state.dropDuplicate }
          else
            let normalized := normalizeToolResultName message (toolCallName calls id)
            { scan with
              state := { scan.state with
                changed := scan.state.changed || decide (normalized ≠ message) }
              spanResultsById := if scan.spanResultsById.has id then scan.spanResultsById
                else scan.spanResultsById.set id normalized }
        else { scan with state := scan.state.dropOrphan }
      | none => { scan with state := scan.state.dropOrphan }
    else { scan with remainder := scan.remainder ++ [.object message] }

/-- An errored turn only keeps the results it has. -/
def keepResult (results : OrderedMap String Message) (state : PairingState) (call : ToolCallLike) :
    PairingState :=
  match results.get call.id with
  | some result => state.pushToolResult result
  | none => state

/-- Any other turn has a result made for a call without one; `now i` is what `Date.now()` reads
when the `i`-th result is made. -/
def answerCall (now : Nat → Int) (results : OrderedMap String Message) (state : PairingState)
    (call : ToolCallLike) : PairingState :=
  match results.get call.id with
  | some result => state.pushToolResult result
  | none =>
    let missing := makeMissingToolResult call.id call.name (now state.added.length)
    { state with added := state.added ++ [missing], changed := true }.pushToolResult missing

/-- An assistant turn with tool calls and the entries up to the next assistant turn. -/
def repairTurn (policy : ErroredAssistantResultPolicy) (now : Nat → Int) (assistant : Message)
    (span : List Entry) (state : PairingState) : PairingState :=
  let calls := extractToolCallsFromAssistant assistant
  let scan := span.foldl (scanNext calls) { state }
  let opened := scan.state.push (.object assistant)
  let answered :=
    if assistant.isErrored then
      match policy with
      | .preserve => calls.foldl (keepResult scan.spanResultsById) opened
      | .drop => { opened with
          changed := opened.changed || !scan.spanResultsById.entries.isEmpty }
    else
      let displaced := !scan.spanResultsById.entries.isEmpty && !scan.remainder.isEmpty
      calls.foldl (answerCall now scan.spanResultsById)
        { opened with moved := opened.moved || displaced, changed := opened.changed || displaced }
  { answered with out := answered.out ++ scan.remainder }

/-- The loop; `skip` entries belong to a span that has been dealt with. -/
def repairFrom (policy : ErroredAssistantResultPolicy) (now : Nat → Int) :
    List Entry → Nat → PairingState → PairingState
  | [], _, state => state
  | _ :: rest, skip + 1, state => repairFrom policy now rest skip state
  | .other value :: rest, 0, state => repairFrom policy now rest 0 (state.push (.other value))
  | .object message :: rest, 0, state =>
    if message.isAssistant then
      if extractToolCallsFromAssistant message = [] then
        repairFrom policy now rest 0 (state.push (.object message))
      else
        let span := rest.takeWhile (!·.isAssistant)
        repairFrom policy now rest span.length (repairTurn policy now message span state)
    else if message.isToolResult then repairFrom policy now rest 0 state.dropOrphan
    else repairFrom policy now rest 0 (state.push (.object message))

structure ToolUseRepairReport where
  messages : List Entry
  added : List Message
  droppedDuplicateCount : Nat
  droppedOrphanCount : Nat
  moved : Bool

def repairToolUseResultPairing (policy : ErroredAssistantResultPolicy) (now : Nat → Int)
    (messages : List Entry) : ToolUseRepairReport :=
  let final := repairFrom policy now messages 0 {}
  let changedOrMoved := final.changed || final.moved
  { messages := if changedOrMoved then final.out else messages
    added := final.added
    droppedDuplicateCount := final.droppedDuplicateCount
    droppedOrphanCount := final.droppedOrphanCount
    moved := changedOrMoved }

/-! ### The look-ahead -/

/-- The first result for a call id in a span. -/
def spanResult (span : List Entry) (id : String) : Option Message :=
  span.findSome? fun
    | .object message => if message.answers id then some message else none
    | .other _ => none

/-- The result the look-ahead keeps for a call id, with its name normalised. -/
def keptResult (calls : List ToolCallLike) (seen : Finset String) (span : List Entry) (id : String) :
    Option Message :=
  if id ∈ calls.map ToolCallLike.id ∧ id ∉ seen then
    (spanResult span id).map (normalizeToolResultName · (toolCallName calls id))
  else none

/-- A result the look-ahead drops or renames. -/
def Message.unsettled (calls : List ToolCallLike) (seen : Finset String) (message : Message) : Prop :=
  message.isToolResult ∧ ∀ id, extractToolResultId message = some id →
    id ∉ calls.map ToolCallLike.id ∨ id ∈ seen ∨
      normalizeToolResultName message (toolCallName calls id) ≠ message

def Entry.unsettled (calls : List ToolCallLike) (seen : Finset String) : Entry → Prop
  | .object message => message.unsettled calls seen
  | .other _ => False

/-- Whether the state records a change: what decides which list is returned. -/
def PairingState.touched (state : PairingState) : Prop := state.changed ∨ state.moved

/-- The parts of a state the look-ahead leaves alone. -/
structure PairingState.SameOutput (state other : PairingState) : Prop where
  out : other.out = state.out
  seen : other.seenToolResultIds = state.seenToolResultIds
  moved : other.moved = state.moved

theorem scanNext_sameOutput (calls : List ToolCallLike) (scan : SpanScan) (next : Entry) :
    scan.state.SameOutput (scanNext calls scan next).state := by
  unfold scanNext
  repeat' split
  all_goals exact ⟨rfl, rfl, rfl⟩

theorem scanNext_remainder (calls : List ToolCallLike) (scan : SpanScan) (next : Entry) :
    (scanNext calls scan next).remainder =
      scan.remainder ++ [next].filter (!·.isToolResult) := by
  cases next with
  | other value => rfl
  | object message =>
    cases isResult : message.isToolResult with
    | false => simp [scanNext, isResult, Entry.isToolResult]
    | true =>
      simp only [scanNext, isResult, Entry.isToolResult, if_true, Bool.not_true, List.filter_cons,
        List.filter_nil, Bool.false_eq_true, if_false, List.append_nil]
      repeat' split
      all_goals rfl

theorem scanNext_changed (calls : List ToolCallLike) (scan : SpanScan) (next : Entry) :
    (scanNext calls scan next).state.changed = true ↔
      scan.state.changed = true ∨ next.unsettled calls scan.state.seenToolResultIds := by
  cases next with
  | other value => simp [scanNext, Entry.unsettled]
  | object message =>
    cases isResult : message.isToolResult with
    | false => simp [scanNext, isResult, Entry.unsettled, Message.unsettled]
    | true =>
      cases answered : extractToolResultId message with
      | none =>
        simp [scanNext, isResult, answered, Entry.unsettled, Message.unsettled,
          PairingState.dropOrphan]
      | some id =>
        by_cases own : id ∈ calls.map ToolCallLike.id <;>
          by_cases seen : id ∈ scan.state.seenToolResultIds <;>
          simp [scanNext, isResult, answered, own, seen, Entry.unsettled, Message.unsettled,
            PairingState.dropOrphan, PairingState.dropDuplicate, -List.mem_map]

theorem scanNext_get (calls : List ToolCallLike) (scan : SpanScan) (next : Entry) (id : String) :
    (scanNext calls scan next).spanResultsById.get id =
      (scan.spanResultsById.get id).or
        (keptResult calls scan.state.seenToolResultIds [next] id) := by
  cases next with
  | other value => simp [scanNext, keptResult, spanResult]
  | object message =>
    by_cases answers : message.answers id
    · obtain ⟨isResult, answered⟩ := answers
      by_cases own : id ∈ calls.map ToolCallLike.id <;>
        by_cases seen : id ∈ scan.state.seenToolResultIds
      · simp [scanNext, keptResult, isResult, answered, own, seen]
      · simp only [scanNext, keptResult, spanResult, isResult, answered, own, seen, if_true, if_false,
          Message.answers, and_self, not_false_eq_true, List.findSome?_cons, Option.map_some]
        cases stored : scan.spanResultsById.get id with
        | none => simp [OrderedMap.has, stored]
        | some result => simp [OrderedMap.has, stored]
      · simp [scanNext, keptResult, isResult, answered, own, seen]
      · simp [scanNext, keptResult, isResult, answered, own, seen]
    · have silent : keptResult calls scan.state.seenToolResultIds [.object message] id = none := by
        simp [keptResult, spanResult, answers]
      rw [silent, Option.or_none]
      simp only [scanNext]
      split
      · split
        · rename_i isResult _ other answered
          have different : id ≠ other := by
            rintro rfl
            exact answers ⟨isResult, answered⟩
          repeat' split
          all_goals first
            | rfl
            | exact OrderedMap.get_set_of_ne _ _ different
        · rfl
      · rfl

theorem keptResult_cons (calls : List ToolCallLike) (seen : Finset String) (entry : Entry)
    (span : List Entry) (id : String) :
    keptResult calls seen (entry :: span) id =
      (keptResult calls seen [entry] id).or (keptResult calls seen span id) := by
  unfold keptResult
  split
  · cases entry with
    | other value => rfl
    | object message => by_cases answers : message.answers id <;> simp [spanResult, answers]
  · rfl

/-- What the look-ahead has collected at the end of a span. -/
structure SpanScan.Collects (calls : List ToolCallLike) (scan final : SpanScan) (span : List Entry) :
    Prop where
  sameOutput : scan.state.SameOutput final.state
  remainder : final.remainder = scan.remainder ++ span.filter (!·.isToolResult)
  changed : final.state.changed = true ↔ scan.state.changed = true ∨
    ∃ entry ∈ span, entry.unsettled calls scan.state.seenToolResultIds
  get : ∀ id, final.spanResultsById.get id = (scan.spanResultsById.get id).or
    (keptResult calls scan.state.seenToolResultIds span id)

theorem scanSpan_collects (calls : List ToolCallLike) (span : List Entry) :
    ∀ scan : SpanScan, scan.Collects calls (span.foldl (scanNext calls) scan) span := by
  induction span with
  | nil =>
    intro scan
    exact ⟨⟨rfl, rfl, rfl⟩, by simp, by simp, by simp [keptResult, spanResult]⟩
  | cons entry span inductionHypothesis =>
    intro scan
    have first := scanNext_sameOutput calls scan entry
    have rest := inductionHypothesis (scanNext calls scan entry)
    refine ⟨⟨rest.sameOutput.out.trans first.out, rest.sameOutput.seen.trans first.seen,
      rest.sameOutput.moved.trans first.moved⟩, ?_, ?_, fun id => ?_⟩
    · rw [List.foldl_cons, rest.remainder, scanNext_remainder, List.append_assoc,
        ← List.filter_append, List.singleton_append]
    · rw [List.foldl_cons, rest.changed, scanNext_changed, first.seen, or_assoc]
      simp only [List.mem_cons, exists_eq_or_imp]
    · rw [List.foldl_cons, rest.get, scanNext_get, first.seen, Option.or_assoc, ← keptResult_cons]

/-! ### Answering the calls of a turn -/

/-- One answer for each call whose id has not been answered, out of those there are. -/
def answersTo (answer : ToolCallLike → Option Message) :
    List ToolCallLike → Finset String → List Message
  | [], _ => []
  | call :: rest, seen =>
    match answer call with
    | none => answersTo answer rest seen
    | some result =>
      if call.id ∈ seen then answersTo answer rest seen
      else result :: answersTo answer rest (insert call.id seen)

/-- The ids of the calls that have an answer. -/
def answeredIds (has : ToolCallLike → Bool) (calls : List ToolCallLike) : Finset String :=
  ((calls.filter has).map ToolCallLike.id).toFinset

/-- Whether an answer comes for an id that already has one. -/
def answersAgain (has : ToolCallLike → Bool) : List ToolCallLike → Finset String → Prop
  | [], _ => False
  | call :: rest, seen =>
    if has call then call.id ∈ seen ∨ answersAgain has rest (insert call.id seen)
    else answersAgain has rest seen

/-- Only the answers to the calls whose id is still open matter. -/
theorem answersTo_congr {first second : ToolCallLike → Option Message} {calls : List ToolCallLike} :
    ∀ {seen : Finset String}, (∀ call ∈ calls, call.id ∉ seen → first call = second call) →
      answersTo first calls seen = answersTo second calls seen := by
  induction calls with
  | nil => exact fun _ => rfl
  | cons call rest inductionHypothesis =>
    intro seen same
    have restSame : ∀ {more : Finset String}, seen ⊆ more →
        answersTo first rest more = answersTo second rest more := fun {more} grown =>
      inductionHypothesis fun other member open' =>
        same other (List.mem_cons_of_mem _ member) fun old => open' (grown old)
    by_cases old : call.id ∈ seen
    · simp only [answersTo, old, if_true]
      cases first call <;> cases second call <;> exact restSame (Finset.Subset.refl seen)
    · simp only [answersTo, old, if_false, same call List.mem_cons_self old]
      cases second call with
      | none => exact restSame (Finset.Subset.refl seen)
      | some result => exact congrArg (result :: ·) (restSame (Finset.subset_insert _ _))

theorem answeredIds_cons (has : ToolCallLike → Bool) (call : ToolCallLike)
    (rest : List ToolCallLike) : answeredIds has (call :: rest) =
      if has call then insert call.id (answeredIds has rest) else answeredIds has rest := by
  by_cases answered : has call <;> simp [answeredIds, answered]

/-- What answering calls does to a state. -/
structure PairingState.Answers (answer : ToolCallLike → Option Message) (calls : List ToolCallLike)
    (state final : PairingState) : Prop where
  out : final.out = state.out ++ (answersTo answer calls state.seenToolResultIds).map .object
  seen : final.seenToolResultIds =
    state.seenToolResultIds ∪ answeredIds (fun call => (answer call).isSome) calls
  moved : final.moved = state.moved

variable {answer : ToolCallLike → Option Message} {result : Message} {id : String}
variable {rest : List ToolCallLike} {call : ToolCallLike}

/-- A call without an answer changes nothing. -/
theorem PairingState.Answers.skip {state final : PairingState} (none : answer call = none)
    (answers : state.Answers answer rest final) : state.Answers answer (call :: rest) final where
  out := by rw [answersTo, none]; exact answers.out
  seen := by rw [answeredIds_cons, if_neg (by simp [none])]; exact answers.seen
  moved := answers.moved

/-- A second answer to an id is dropped. -/
theorem PairingState.Answers.drop {state final : PairingState}
    (some : answer call = some result) (old : call.id ∈ state.seenToolResultIds)
    (answers : state.Answers answer rest final) : state.Answers answer (call :: rest) final where
  out := by simp only [answersTo, some, old, if_true]; exact answers.out
  seen := by
    rw [answeredIds_cons, if_pos (by simp [some]), answers.seen, Finset.union_insert,
      Finset.insert_eq_of_mem (Finset.mem_union_left _ old)]
  moved := answers.moved

/-- The first answer to an id is written behind what there is. -/
theorem PairingState.Answers.push {state middle final : PairingState}
    (answers : middle.Answers answer rest final)
    (some : answer call = some result) (open' : call.id ∉ state.seenToolResultIds)
    (out : middle.out = state.out ++ [.object result])
    (seen : middle.seenToolResultIds = insert call.id state.seenToolResultIds)
    (moved : middle.moved = state.moved) : state.Answers answer (call :: rest) final where
  out := by
    rw [answers.out, out, seen]
    simp only [answersTo, some, open', if_false, List.map_cons, List.append_assoc,
      List.singleton_append]
  seen := by
    rw [answers.seen, seen, answeredIds_cons, if_pos (by simp [some]), Finset.insert_union,
      Finset.union_insert]
  moved := answers.moved.trans moved

theorem pushToolResult_of_id {message : Message}
    (answered : extractToolResultId message = some id) (state : PairingState) :
    state.pushToolResult message =
      if id ∈ state.seenToolResultIds then state.dropDuplicate
      else { state with
        seenToolResultIds := insert id state.seenToolResultIds
        out := state.out ++ [.object message] } := by
  rw [PairingState.pushToolResult, answered]

/-- The results a turn has been found answer the calls of their ids. -/
def FiledById (results : OrderedMap String Message) : Prop :=
  ∀ id result, results.get id = some result → extractToolResultId result = some id

theorem keepResults_answers {results : OrderedMap String Message} (filed : FiledById results)
    (calls : List ToolCallLike) : ∀ state : PairingState,
      state.Answers (fun call => results.get call.id) calls
          (calls.foldl (keepResult results) state) ∧
        ((calls.foldl (keepResult results) state).changed = true ↔ state.changed = true ∨
          answersAgain (fun call => (results.get call.id).isSome) calls
            state.seenToolResultIds) := by
  induction calls with
  | nil => exact fun state => ⟨⟨by simp [answersTo], by simp [answeredIds], rfl⟩, by simp [answersAgain]⟩
  | cons call rest inductionHypothesis =>
    intro state
    rw [List.foldl_cons]
    cases found : results.get call.id with
    | none =>
      have unchanged : keepResult results state call = state := by rw [keepResult, found]
      obtain ⟨answers, changed⟩ := inductionHypothesis state
      rw [unchanged]
      exact ⟨answers.skip found, by simpa [answersAgain, found] using changed⟩
    | some result =>
      have pushed : keepResult results state call = state.pushToolResult result := by
        rw [keepResult, found]
      rw [pushed, pushToolResult_of_id (filed _ _ found)]
      by_cases old : call.id ∈ state.seenToolResultIds
      · obtain ⟨answers, changed⟩ := inductionHypothesis state.dropDuplicate
        rw [if_pos old]
        refine ⟨PairingState.Answers.drop found old ⟨answers.out, answers.seen, answers.moved⟩, ?_⟩
        exact iff_of_true (changed.2 (Or.inl rfl)) (Or.inr (by simp [answersAgain, found, old]))
      · rw [if_neg old]
        obtain ⟨answers, changed⟩ := inductionHypothesis { state with
          seenToolResultIds := insert call.id state.seenToolResultIds
          out := state.out ++ [.object result] }
        refine ⟨answers.push found old rfl rfl rfl, changed.trans ?_⟩
        simp [answersAgain, found, old]

/-- The answer to a call of a turn that was not cut short: the result found, or one made at the
time given for its id. -/
def answerOf (results : String → Option Message) (times : String → Int) (call : ToolCallLike) : Message :=
  (results call.id).getD (makeMissingToolResult call.id call.name (times call.id))

/-- Making a result later does not change the answers to the other ids. -/
theorem answersTo_update {results : String → Option Message} {times : String → Int}
    (time : Int) {calls : List ToolCallLike} {seen : Finset String} (old : id ∈ seen) :
    answersTo (fun call => some (answerOf results (Function.update times id time) call)) calls seen =
      answersTo (fun call => some (answerOf results times call)) calls seen := by
  refine answersTo_congr fun call _ open' => ?_
  have different : call.id ≠ id := fun same => open' (same ▸ old)
  simp only [answerOf, Function.update_of_ne different]

theorem answerCalls_answers {results : OrderedMap String Message} (filed : FiledById results)
    (now : Nat → Int) (calls : List ToolCallLike) : (∀ call ∈ calls, call.id ≠ "") →
    ∀ state : PairingState, ∃ times,
      state.Answers (fun call => some (answerOf results.get times call)) calls
          (calls.foldl (answerCall now results) state) ∧
        ((calls.foldl (answerCall now results) state).changed = true ↔ state.changed = true ∨
          (∃ call ∈ calls, results.get call.id = none) ∨
          answersAgain (fun _ => true) calls state.seenToolResultIds) := by
  induction calls with
  | nil =>
    refine fun _ state => ⟨fun _ => 0, ⟨by simp [answersTo], by simp [answeredIds], rfl⟩, ?_⟩
    simp [answersAgain]
  | cons call rest inductionHypothesis =>
    intro named state
    have restNamed : ∀ other ∈ rest, other.id ≠ "" := fun other member =>
      named other (List.mem_cons_of_mem _ member)
    rw [List.foldl_cons]
    cases found : results.get call.id with
    | some result =>
      have answer : ∀ times, answerOf results.get times call = result := fun times => by
        rw [answerOf, found, Option.getD_some]
      have pushed : answerCall now results state call = state.pushToolResult result := by
        rw [answerCall, found]
      rw [pushed, pushToolResult_of_id (filed _ _ found)]
      by_cases old : call.id ∈ state.seenToolResultIds
      · rw [if_pos old]
        obtain ⟨times, answers, changed⟩ := inductionHypothesis restNamed state.dropDuplicate
        refine ⟨times, PairingState.Answers.drop (congrArg some (answer times)) old
          ⟨answers.out, answers.seen, answers.moved⟩, ?_⟩
        exact iff_of_true (changed.2 (Or.inl rfl)) (Or.inr (Or.inr (by simp [answersAgain, old])))
      · rw [if_neg old]
        obtain ⟨times, answers, changed⟩ := inductionHypothesis restNamed { state with
          seenToolResultIds := insert call.id state.seenToolResultIds
          out := state.out ++ [.object result] }
        refine ⟨times, answers.push (congrArg some (answer times)) old rfl rfl rfl, changed.trans ?_⟩
        simp [answersAgain, found, old]
    | none =>
      have answer : ∀ times, answerOf results.get times call =
          makeMissingToolResult call.id call.name (times call.id) := fun times => by
        rw [answerOf, found, Option.getD_none]
      have pushed : answerCall now results state call =
          { state with
            added := state.added ++ [makeMissingToolResult call.id call.name (now state.added.length)]
            changed := true }.pushToolResult
              (makeMissingToolResult call.id call.name (now state.added.length)) := by
        rw [answerCall, found]
      rw [pushed, pushToolResult_of_id (extractToolResultId_makeMissingToolResult
        (named call List.mem_cons_self) call.name (now state.added.length))]
      by_cases old : call.id ∈ state.seenToolResultIds
      · rw [if_pos old]
        obtain ⟨times, answers, changed⟩ := inductionHypothesis restNamed (PairingState.dropDuplicate
          { state with
            added := state.added ++ [makeMissingToolResult call.id call.name (now state.added.length)]
            changed := true })
        refine ⟨times, PairingState.Answers.drop (congrArg some (answer times)) old
          ⟨answers.out, answers.seen, answers.moved⟩, ?_⟩
        exact iff_of_true (changed.2 (Or.inl rfl)) (Or.inr (Or.inl ⟨call, List.mem_cons_self, found⟩))
      · rw [if_neg old]
        obtain ⟨times, answers, changed⟩ := inductionHypothesis restNamed { state with
          added := state.added ++ [makeMissingToolResult call.id call.name (now state.added.length)]
          changed := true
          seenToolResultIds := insert call.id state.seenToolResultIds
          out := state.out ++
            [.object (makeMissingToolResult call.id call.name (now state.added.length))] }
        have later : PairingState.Answers (fun other => some (answerOf results.get
            (Function.update times call.id (now state.added.length)) other)) rest _ _ :=
          ⟨by rw [answersTo_update _ (Finset.mem_insert_self _ _)]; exact answers.out,
            answers.seen, answers.moved⟩
        refine ⟨_, later.push (congrArg some (answer _)) old (by simp) rfl rfl, ?_⟩
        exact iff_of_true (changed.2 (Or.inl rfl)) (Or.inr (Or.inl ⟨call, List.mem_cons_self, found⟩))

/-! ### Turn by turn -/

/-- An assistant turn with the entries up to the next one. -/
abbrev Turn := Entry × List Entry

def Entry.calls : Entry → List ToolCallLike
  | .object message => extractToolCallsFromAssistant message
  | .other _ => []

def Entry.isErrored : Entry → Bool
  | .object message => message.isErrored
  | .other _ => false

/-- The answer a call gets, out of the results kept of the span. -/
def turnAnswer (policy : ErroredAssistantResultPolicy) (times : String → Int) (seen : Finset String)
    (turn : Turn) (call : ToolCallLike) : Option Message :=
  if turn.1.isErrored then
    match policy with
    | .preserve => keptResult turn.1.calls seen turn.2 call.id
    | .drop => none
  else some (answerOf (keptResult turn.1.calls seen turn.2) times call)

/-- Whether a call gets an answer. -/
def turnHasAnswer (policy : ErroredAssistantResultPolicy) (seen : Finset String) (turn : Turn)
    (call : ToolCallLike) : Bool :=
  if turn.1.isErrored then
    match policy with
    | .preserve => (keptResult turn.1.calls seen turn.2 call.id).isSome
    | .drop => false
  else true

theorem isSome_turnAnswer (policy : ErroredAssistantResultPolicy) (times : String → Int)
    (seen : Finset String) (turn : Turn) :
    (fun call => (turnAnswer policy times seen turn call).isSome) = turnHasAnswer policy seen turn := by
  funext call
  unfold turnAnswer turnHasAnswer
  cases turn.1.isErrored <;> cases policy <;> rfl

/-- The answers that follow a turn. -/
def turnAnswers (policy : ErroredAssistantResultPolicy) (times : String → Int) (seen : Finset String)
    (turn : Turn) : List Message :=
  answersTo (turnAnswer policy times seen turn) turn.1.calls seen

/-- The ids answered once a turn has been dealt with. -/
def seenAfter (policy : ErroredAssistantResultPolicy) (seen : Finset String) (turn : Turn) :
    Finset String := seen ∪ answeredIds (turnHasAnswer policy seen turn) turn.1.calls

/-- The turn with its answers right behind it. -/
def repairedTurn (policy : ErroredAssistantResultPolicy) (times : String → Int) (seen : Finset String)
    (turn : Turn) : Turn :=
  (turn.1, (turnAnswers policy times seen turn).map .object ++ turn.2.filter (!·.isToolResult))

/-- Whether the pass records a change at a turn. -/
def TurnTouched (policy : ErroredAssistantResultPolicy) (seen : Finset String) (turn : Turn) : Prop :=
  (∃ entry ∈ turn.2, entry.unsettled turn.1.calls seen) ∨
  if turn.1.isErrored then
    match policy with
    | .preserve => answersAgain (turnHasAnswer policy seen turn) turn.1.calls seen
    | .drop => ∃ id, (keptResult turn.1.calls seen turn.2 id).isSome
  else
    ((∃ id, (keptResult turn.1.calls seen turn.2 id).isSome) ∧
      ∃ entry ∈ turn.2, ¬ entry.isToolResult) ∨
    (∃ call ∈ turn.1.calls, keptResult turn.1.calls seen turn.2 call.id = none) ∨
    answersAgain (turnHasAnswer policy seen turn) turn.1.calls seen

/-- What dealing with a turn does to a state. -/
structure PairingState.Repairs (policy : ErroredAssistantResultPolicy) (turn : Turn)
    (state final : PairingState) : Prop where
  out : ∃ times, final.out = state.out ++
    (repairedTurn policy times state.seenToolResultIds turn).1 ::
      (repairedTurn policy times state.seenToolResultIds turn).2
  seen : final.seenToolResultIds = seenAfter policy state.seenToolResultIds turn
  touched : final.touched ↔ state.touched ∨ TurnTouched policy state.seenToolResultIds turn

theorem answers_of_spanResult {span : List Entry}
    (found : spanResult span id = some result) : .object result ∈ span ∧ result.answers id := by
  obtain ⟨entry, member, read⟩ := List.exists_of_findSome?_eq_some found
  cases entry with
  | other value => cases read
  | object message =>
    by_cases answers : message.answers id
    · simp only [answers, if_true, Option.some.injEq] at read
      exact read ▸ ⟨member, answers⟩
    · simp [answers] at read

theorem spanResult_isSome {span : List Entry} :
    (spanResult span id).isSome ↔ ∃ entry ∈ span, entry.answers id := by
  rw [spanResult, List.isSome_findSome?, List.any_eq_true]
  refine exists_congr fun entry => and_congr_right fun _ => ?_
  cases entry with
  | other value => simp [Entry.answers]
  | object message => by_cases answers : message.answers id <;> simp [Entry.answers, answers]

/-- A kept result is a result in the span for the id, with its name normalised. -/
theorem keptResult_eq_some {calls : List ToolCallLike} {seen : Finset String} {span : List Entry}
    (kept : keptResult calls seen span id = some result) :
    id ∈ calls.map ToolCallLike.id ∧ id ∉ seen ∧ ∃ message, .object message ∈ span ∧
      message.answers id ∧ result = normalizeToolResultName message (toolCallName calls id) := by
  unfold keptResult at kept
  split at kept
  · rename_i wanted
    obtain ⟨message, found, named⟩ := Option.map_eq_some_iff.1 kept
    obtain ⟨member, answers⟩ := answers_of_spanResult found
    exact ⟨wanted.1, wanted.2, message, member, answers, named.symm⟩
  · cases kept

/-- What the look-ahead over the whole span of a turn leaves: the state but for its counters and
flag, the other entries of the span, and the results kept. -/
structure SpanScan.Holds (turn : Turn) (state : PairingState) (scan : SpanScan) : Prop where
  same : state.SameOutput scan.state
  remainder : scan.remainder = turn.2.filter (!·.isToolResult)
  touched : scan.state.touched ↔
    state.touched ∨ ∃ entry ∈ turn.2, entry.unsettled turn.1.calls state.seenToolResultIds
  get : ∀ id, scan.spanResultsById.get id = keptResult turn.1.calls state.seenToolResultIds turn.2 id
  filed : FiledById scan.spanResultsById

theorem scanSpan_holds (turn : Turn) (state : PairingState) :
    SpanScan.Holds turn state (turn.2.foldl (scanNext turn.1.calls) { state }) := by
  have collected := scanSpan_collects turn.1.calls turn.2 { state }
  have get : ∀ id, (turn.2.foldl (scanNext turn.1.calls) { state }).spanResultsById.get id =
      keptResult turn.1.calls state.seenToolResultIds turn.2 id := fun id => by
    rw [collected.get, OrderedMap.get_empty, Option.none_or]
  refine ⟨collected.sameOutput, by simpa using collected.remainder, ?_, get, ?_⟩
  · simp only [PairingState.touched, collected.changed, collected.sameOutput.moved]
    exact or_right_comm
  · intro id result stored
    rw [get] at stored
    obtain ⟨-, -, message, -, answers, rfl⟩ := keptResult_eq_some stored
    rw [extractToolResultId_normalizeToolResultName]
    exact answers.2

variable {state : PairingState} {turn : Turn} {scan : SpanScan}

theorem SpanScan.Holds.hasResults
    (holds : scan.Holds turn state) : scan.spanResultsById.entries.isEmpty = false ↔
      ∃ id, (keptResult turn.1.calls state.seenToolResultIds turn.2 id).isSome := by
  rw [OrderedMap.isEmpty_entries_eq_false_iff]
  simp only [holds.get]

theorem SpanScan.Holds.openedOut
    (holds : scan.Holds turn state) : (scan.state.push turn.1).out = state.out ++ [turn.1] := by
  simp only [PairingState.push, holds.same.out]

theorem exists_not_toolResult_iff (span : List Entry) :
    (span.filter (!·.isToolResult)).isEmpty = false ↔ ∃ entry ∈ span, ¬ entry.isToolResult := by
  rw [List.isEmpty_eq_false_iff_exists_mem]
  simp

/-- Answering the calls behind the turn and adding the rest of the span is the repair. -/
theorem PairingState.Answers.repairs {policy : ErroredAssistantResultPolicy}
    {state opened answered : PairingState} {times : String → Int}
    (answers : opened.Answers (turnAnswer policy times state.seenToolResultIds turn) turn.1.calls answered)
    (out : opened.out = state.out ++ [turn.1])
    (seen : opened.seenToolResultIds = state.seenToolResultIds)
    (touched : answered.touched ↔ state.touched ∨ TurnTouched policy state.seenToolResultIds turn) :
    state.Repairs policy turn
      { answered with out := answered.out ++ turn.2.filter (!·.isToolResult) } where
  out := by
    refine ⟨times, ?_⟩
    rw [answers.out, out, seen]
    simp [repairedTurn, turnAnswers]
  seen := by
    rw [answers.seen, seen, isSome_turnAnswer]
    rfl
  touched := touched

theorem answers_none (calls : List ToolCallLike) (state : PairingState) :
    state.Answers (fun _ => none) calls state := by
  induction calls with
  | nil => exact ⟨by simp [answersTo], by simp [answeredIds], rfl⟩
  | cons call rest inductionHypothesis => exact inductionHypothesis.skip rfl

/-- An errored turn under the policy that keeps its results. -/
theorem SpanScan.Holds.preserve
    (holds : scan.Holds turn state) (errored : turn.1.isErrored = true) :
    state.Repairs .preserve turn
      (let answered := turn.1.calls.foldl (keepResult scan.spanResultsById) (scan.state.push turn.1)
      { answered with out := answered.out ++ turn.2.filter (!·.isToolResult) }) := by
  obtain ⟨answers, again⟩ := keepResults_answers holds.filed turn.1.calls (scan.state.push turn.1)
  have answer_eq : (fun call : ToolCallLike => scan.spanResultsById.get call.id) =
      turnAnswer .preserve (fun _ => 0) state.seenToolResultIds turn := by
    funext call
    simp [turnAnswer, errored, holds.get]
  have has_eq : (fun call : ToolCallLike => (scan.spanResultsById.get call.id).isSome) =
      turnHasAnswer .preserve state.seenToolResultIds turn := by
    funext call
    simp [turnHasAnswer, errored, holds.get]
  have sameSeen : (scan.state.push turn.1).seenToolResultIds = state.seenToolResultIds :=
    holds.same.seen
  have moved := answers.moved
  rw [answer_eq] at answers
  rw [has_eq, sameSeen] at again
  refine answers.repairs holds.openedOut sameSeen ?_
  rw [TurnTouched, if_pos errored, ← or_assoc, ← holds.touched]
  simp only [PairingState.touched, moved, again]
  exact or_right_comm

/-- An errored turn under the policy that drops its results. -/
theorem SpanScan.Holds.drop (holds : scan.Holds turn state) (errored : turn.1.isErrored = true) :
    state.Repairs .drop turn
      (let opened := scan.state.push turn.1
      { opened with
        changed := opened.changed || !scan.spanResultsById.entries.isEmpty
        out := opened.out ++ turn.2.filter (!·.isToolResult) }) := by
  have answer_eq : turnAnswer .drop (fun _ => 0) state.seenToolResultIds turn = fun _ => none := by
    funext call
    simp [turnAnswer, errored]
  have answers := answers_none turn.1.calls { scan.state.push turn.1 with
    changed := (scan.state.push turn.1).changed || !scan.spanResultsById.entries.isEmpty }
  rw [← answer_eq] at answers
  refine answers.repairs holds.openedOut holds.same.seen ?_
  rw [TurnTouched, if_pos errored, ← or_assoc, ← holds.touched, ← holds.hasResults]
  simp only [PairingState.touched, PairingState.push, Bool.or_eq_true, Bool.not_eq_true']
  exact or_right_comm

theorem or_or_or_or_eq_of_twice {changed moved displaced other : Prop} :
    ((changed ∨ displaced) ∨ other) ∨ moved ∨ displaced ↔ (changed ∨ moved) ∨ displaced ∨ other := by
  tauto

/-- A turn that was not cut short. -/
theorem SpanScan.Holds.whole (holds : scan.Holds turn state) (whole : turn.1.isErrored = false)
    (named : ∀ call ∈ turn.1.calls, call.id ≠ "")
    (policy : ErroredAssistantResultPolicy) (now : Nat → Int) :
    state.Repairs policy turn
      (let opened := scan.state.push turn.1
      let displaced := !scan.spanResultsById.entries.isEmpty &&
        !(turn.2.filter (!·.isToolResult)).isEmpty
      let answered := turn.1.calls.foldl (answerCall now scan.spanResultsById)
        { opened with moved := opened.moved || displaced, changed := opened.changed || displaced }
      { answered with out := answered.out ++ turn.2.filter (!·.isToolResult) }) := by
  dsimp only
  obtain ⟨displaced, displaced_eq⟩ : ∃ displaced, displaced = (!scan.spanResultsById.entries.isEmpty &&
    !(turn.2.filter (!·.isToolResult)).isEmpty) := ⟨_, rfl⟩
  obtain ⟨opened, opened_eq⟩ : ∃ opened : PairingState, opened = { scan.state.push turn.1 with
      moved := (scan.state.push turn.1).moved || displaced
      changed := (scan.state.push turn.1).changed || displaced } := ⟨_, rfl⟩
  have out : opened.out = state.out ++ [turn.1] := by rw [opened_eq]; exact holds.openedOut
  have seen : opened.seenToolResultIds = state.seenToolResultIds := by
    rw [opened_eq]; exact holds.same.seen
  have openedMoved : opened.moved = (scan.state.moved || displaced) := by rw [opened_eq]; rfl
  have openedChanged : opened.changed = (scan.state.changed || displaced) := by rw [opened_eq]; rfl
  rw [← displaced_eq, ← opened_eq]
  obtain ⟨times, answers, changed⟩ := answerCalls_answers holds.filed now turn.1.calls named opened
  have moved := answers.moved
  have answer_eq : (fun call => some (answerOf scan.spanResultsById.get times call)) =
      turnAnswer policy times state.seenToolResultIds turn := by
    funext call
    simp only [turnAnswer, whole, answerOf, holds.get]
    rfl
  have has_eq : (fun _ => true) = turnHasAnswer policy state.seenToolResultIds turn := by
    funext call
    simp [turnHasAnswer, whole]
  have displaced_iff : displaced = true ↔
      (∃ id, (keptResult turn.1.calls state.seenToolResultIds turn.2 id).isSome) ∧
        ∃ entry ∈ turn.2, ¬ entry.isToolResult := by
    rw [displaced_eq, ← holds.hasResults, ← exists_not_toolResult_iff]
    simp only [Bool.and_eq_true, Bool.not_eq_true']
  rw [answer_eq] at answers
  rw [has_eq, seen] at changed
  simp only [holds.get] at changed
  refine answers.repairs out seen ?_
  unfold TurnTouched
  rw [if_neg (by simp [whole]), ← or_assoc, ← holds.touched, ← displaced_iff]
  simp only [PairingState.touched, moved, changed, openedMoved, openedChanged, Bool.or_eq_true]
  exact or_or_or_or_eq_of_twice

theorem repairTurn_repairs (policy : ErroredAssistantResultPolicy) (now : Nat → Int)
    (assistant : Message) (span : List Entry) (state : PairingState) :
    state.Repairs policy (.object assistant, span) (repairTurn policy now assistant span state) := by
  have holds := scanSpan_holds (.object assistant, span) state
  have remainder : (span.foldl (scanNext (extractToolCallsFromAssistant assistant))
      { state }).remainder = span.filter (!·.isToolResult) := holds.remainder
  unfold repairTurn
  dsimp only
  rw [remainder]
  cases errored : assistant.isErrored with
  | true =>
    cases policy with
    | preserve => exact holds.preserve errored
    | drop => exact holds.drop errored
  | false => exact holds.whole errored (fun _ made => ToolCallLike.id_ne_empty made) policy now

/-! ### The whole list -/

/-- The turns of the repaired list, given the ids answered before. -/
inductive RepairsTo (policy : ErroredAssistantResultPolicy) :
    Finset String → List Turn → List Turn → Prop
  | nil (seen : Finset String) : RepairsTo policy seen [] []
  | cons {seen : Finset String} {turn : Turn} {rest repaired : List Turn} (times : String → Int)
      (tail : RepairsTo policy (seenAfter policy seen turn) rest repaired) :
      RepairsTo policy seen (turn :: rest) (repairedTurn policy times seen turn :: repaired)

/-- Whether the pass records a change at one of the turns. -/
def TurnsTouched (policy : ErroredAssistantResultPolicy) : Finset String → List Turn → Prop
  | _, [] => False
  | seen, turn :: rest =>
    TurnTouched policy seen turn ∨ TurnsTouched policy (seenAfter policy seen turn) rest

/-- Entries before the first assistant turn: results among them are dropped. -/
structure PairingState.Passes (preamble : List Entry) (state final : PairingState) : Prop where
  out : final.out = state.out ++ preamble.filter (!·.isToolResult)
  seen : final.seenToolResultIds = state.seenToolResultIds
  touched : final.touched ↔ state.touched ∨ ∃ entry ∈ preamble, entry.isToolResult

theorem repairFrom_skip (policy : ErroredAssistantResultPolicy) (now : Nat → Int)
    (span rest : List Entry) (state : PairingState) :
    repairFrom policy now (span ++ rest) span.length state = repairFrom policy now rest 0 state := by
  induction span with
  | nil => rfl
  | cons entry span inductionHypothesis =>
    cases entry <;> exact inductionHypothesis

theorem repairFrom_preamble (policy : ErroredAssistantResultPolicy) (now : Nat → Int)
    (preamble rest : List Entry) : (∀ entry ∈ preamble, entry.isAssistant = false) →
    ∀ state : PairingState, ∃ passed, state.Passes preamble passed ∧
      repairFrom policy now (preamble ++ rest) 0 state = repairFrom policy now rest 0 passed := by
  induction preamble with
  | nil => exact fun _ state => ⟨state, ⟨by simp, rfl, by simp⟩, rfl⟩
  | cons entry preamble inductionHypothesis =>
    intro unmarked state
    have restUnmarked : ∀ other ∈ preamble, other.isAssistant = false := fun other member =>
      unmarked other (List.mem_cons_of_mem _ member)
    cases entry with
    | other value =>
      obtain ⟨passed, passes, same⟩ := inductionHypothesis restUnmarked (state.push (.other value))
      refine ⟨passed, ⟨?_, passes.seen, ?_⟩, same⟩
      · rw [passes.out]
        simp [PairingState.push, Entry.isToolResult]
      · rw [passes.touched]
        simp [PairingState.touched, PairingState.push, Entry.isToolResult]
    | object message =>
      have notAssistant : message.isAssistant = false := unmarked _ List.mem_cons_self
      cases isResult : message.isToolResult with
      | true =>
        obtain ⟨passed, passes, same⟩ := inductionHypothesis restUnmarked state.dropOrphan
        refine ⟨passed, ⟨?_, passes.seen, ?_⟩, ?_⟩
        · rw [passes.out]
          simp [PairingState.dropOrphan, Entry.isToolResult, isResult]
        · rw [passes.touched]
          simp [PairingState.touched, PairingState.dropOrphan, Entry.isToolResult, isResult]
        · rw [← same, List.cons_append, repairFrom]
          simp [notAssistant, isResult]
      | false =>
        obtain ⟨passed, passes, same⟩ := inductionHypothesis restUnmarked (state.push (.object message))
        refine ⟨passed, ⟨?_, passes.seen, ?_⟩, ?_⟩
        · rw [passes.out]
          simp [PairingState.push, Entry.isToolResult, isResult]
        · rw [passes.touched]
          simp [PairingState.touched, PairingState.push, Entry.isToolResult, isResult]
        · rw [← same, List.cons_append, repairFrom]
          simp [notAssistant, isResult]

/-- A turn without tool calls keeps everything but the results in its span. -/
theorem PairingState.Passes.repairs {policy : ErroredAssistantResultPolicy}
    {state passed : PairingState} (passes : (state.push turn.1).Passes turn.2 passed)
    (silent : turn.1.calls = []) : state.Repairs policy turn passed where
  out := by
    refine ⟨fun _ => 0, ?_⟩
    rw [passes.out]
    simp [repairedTurn, turnAnswers, silent, answersTo, PairingState.push]
  seen := by
    rw [passes.seen, seenAfter, silent]
    simp [answeredIds, PairingState.push]
  touched := by
    have unsettled : (∃ entry ∈ turn.2, entry.unsettled turn.1.calls state.seenToolResultIds) ↔
        ∃ entry ∈ turn.2, entry.isToolResult := by
      refine exists_congr fun entry => and_congr_right fun _ => ?_
      cases entry <;> simp [Entry.unsettled, Message.unsettled, Entry.isToolResult, silent]
    have keptNone : ∀ id, keptResult [] state.seenToolResultIds turn.2 id = none := fun id => by
      simp [keptResult]
    rw [passes.touched, TurnTouched.eq_def, unsettled]
    refine or_congr Iff.rfl ?_
    rw [silent]
    cases turn.1.isErrored <;> cases policy <;> simp [keptNone, answersAgain]

/-- From the first assistant turn on, every turn is repaired in its place. -/
theorem repairFrom_turns (policy : ErroredAssistantResultPolicy) (now : Nat → Int)
    (turns : List Turn) : Sections.Shaped Entry.isAssistant [] turns → ∀ state : PairingState,
      ∃ repaired, RepairsTo policy state.seenToolResultIds turns repaired ∧
        (repairFrom policy now (Sections.join [] turns) 0 state).out =
          state.out ++ Sections.join [] repaired ∧
        ((repairFrom policy now (Sections.join [] turns) 0 state).touched ↔
          state.touched ∨ TurnsTouched policy state.seenToolResultIds turns) := by
  induction turns with
  | nil => exact fun _ state => ⟨[], .nil _, by simp [repairFrom], by simp [TurnsTouched, repairFrom]⟩
  | cons turn rest inductionHypothesis =>
    intro shaped state
    have restShaped : Sections.Shaped Entry.isAssistant [] rest :=
      ⟨by simp, shaped.tail.heads, shaped.tail.bodies⟩
    have marked : turn.1.isAssistant = true := shaped.heads turn List.mem_cons_self
    have oneTurn : ∃ next, state.Repairs policy turn next ∧
        repairFrom policy now (Sections.join [] (turn :: rest)) 0 state =
          repairFrom policy now (Sections.join [] rest) 0 next := by
      obtain ⟨head, span⟩ := turn
      have whole : Sections.join [] ((head, span) :: rest) = head :: (span ++ Sections.join [] rest) := by
        simp
      cases head with
      | other value => cases marked
      | object assistant =>
        rw [whole, repairFrom, if_pos (show assistant.isAssistant = true from marked)]
        by_cases silent : extractToolCallsFromAssistant assistant = []
        · rw [if_pos silent]
          obtain ⟨passed, passes, same⟩ := repairFrom_preamble policy now span (Sections.join [] rest)
            shaped.tail.preamble (state.push (.object assistant))
          exact ⟨passed, passes.repairs silent, same⟩
        · rw [if_neg silent]
          have spanRead : (span ++ Sections.join [] rest).takeWhile (!·.isAssistant) = span :=
            Sections.takeWhile_join shaped.tail
          simp only [spanRead, repairFrom_skip]
          exact ⟨_, repairTurn_repairs policy now assistant span state, rfl⟩
    obtain ⟨next, repairs, same⟩ := oneTurn
    obtain ⟨repaired, tail, out, touched⟩ := inductionHypothesis restShaped next
    obtain ⟨times, turnOut⟩ := repairs.out
    rw [same]
    refine ⟨_, .cons times (repairs.seen ▸ tail), ?_, ?_⟩
    · rw [out, turnOut]
      simp
    · rw [touched, repairs.touched, repairs.seen, TurnsTouched, or_assoc]

/-- The whole pass: the preamble loses its results, and every turn is repaired in its place. -/
theorem repairFrom_eq (policy : ErroredAssistantResultPolicy) (now : Nat → Int)
    (messages : List Entry) :
    ∃ repaired, RepairsTo policy ∅ (Sections.cut Entry.isAssistant messages).2 repaired ∧
      (repairFrom policy now messages 0 {}).out = Sections.join
        ((Sections.cut Entry.isAssistant messages).1.filter (!·.isToolResult)) repaired ∧
      ((repairFrom policy now messages 0 {}).touched ↔
        (∃ entry ∈ (Sections.cut Entry.isAssistant messages).1, entry.isToolResult) ∨
          TurnsTouched policy ∅ (Sections.cut Entry.isAssistant messages).2) := by
  have shaped : Sections.Shaped Entry.isAssistant (Sections.cut Entry.isAssistant messages).1
    (Sections.cut Entry.isAssistant messages).2 := Sections.shaped_cut messages
  have whole : (Sections.cut Entry.isAssistant messages).1 ++
      Sections.join [] (Sections.cut Entry.isAssistant messages).2 = messages :=
    Sections.join_cut messages
  obtain ⟨passed, passes, same⟩ := repairFrom_preamble policy now _
    (Sections.join [] (Sections.cut Entry.isAssistant messages).2) shaped.preamble {}
  rw [whole] at same
  obtain ⟨repaired, tail, out, touched⟩ := repairFrom_turns policy now _
    ⟨by simp, shaped.heads, shaped.bodies⟩ passed
  rw [passes.seen] at tail touched
  refine ⟨repaired, tail, ?_, ?_⟩
  · rw [same, out, passes.out]
    simp [Sections.join]
  · rw [same, touched, passes.touched]
    simp [PairingState.touched]

end OpenClaw.Transcript
