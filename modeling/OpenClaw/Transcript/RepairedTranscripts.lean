/-
This file says what a repaired transcript is and when the pass over tool results
produces one. `RepairedFrom` is the promise: each call of a turn that was not cut
short has exactly one result right behind the turn, results stand nowhere else,
nothing but results is touched, and real results are preferred.

The pass keeps the promise, and is idempotent, exactly on the lists that meet
`Repairable`. Three things go wrong outside it: an id used by a later turn counts
as answered and leaves that turn without a result; a result made for a call with
an untrimmed name is renamed by the next repair; and a duplicate or a displaced
result of an errored turn is only removed when something else was changed too.
The theorem `repair_succeeds_iff` follows the turns one by one, with what the
earlier ones have answered as the only thing carried along.
-/

import OpenClaw.Transcript.ResultPairing

namespace OpenClaw.Transcript

open Text

/-! ### What a repaired transcript is -/

def transcriptTurns (messages : List Entry) : List Turn := (Sections.cut Entry.isAssistant messages).2

def transcriptPreamble (messages : List Entry) : List Entry :=
  (Sections.cut Entry.isAssistant messages).1

/-- The results right behind a turn. -/
def turnRun (turn : Turn) : List Entry := turn.2.takeWhile Entry.isToolResult

/-- The first entry after them that is no result, and what follows it. -/
def turnRest (turn : Turn) : List Entry := turn.2.dropWhile Entry.isToolResult

/-- The calls of a turn and the results of its span belong together. -/
structure PairedTurn (policy : ErroredAssistantResultPolicy) (turn : Turn) : Prop where
  answered : turn.1.isErrored = false → ∀ call ∈ turn.1.calls,
    (turnRun turn).countP (fun entry => entry.answers call.id) = 1
  placed : ∀ entry ∈ turnRun turn, (∃ call ∈ turn.1.calls, entry.answers call.id) ∧
    (turn.1.isErrored = true → policy = .preserve)
  rest : ∀ entry ∈ turnRest turn, ¬ entry.isToolResult

/-- Behind the repaired turn stands a real result, with its name normalised, for every call for
which the span of the source had one. -/
def PrefersReal (source repaired : Turn) : Prop :=
  source.1.isErrored = false → ∀ call ∈ source.1.calls, (∃ entry ∈ source.2, entry.answers call.id) →
    ∃ message name, .object message ∈ source.2 ∧ message.answers call.id ∧
      .object (normalizeToolResultName message name) ∈ turnRun repaired

structure RepairedFrom (policy : ErroredAssistantResultPolicy) (messages output : List Entry) :
    Prop where
  paired : ∀ turn ∈ transcriptTurns output, PairedTurn policy turn
  preamble : ∀ entry ∈ transcriptPreamble output, ¬ entry.isToolResult
  kept : output.filter (!·.isToolResult) = messages.filter (!·.isToolResult)
  preferred : List.Forall₂ PrefersReal (transcriptTurns messages) (transcriptTurns output)

/-! ### The lists the pass repairs -/

/-- The call ids a turn leaves answered. -/
def turnIds (policy : ErroredAssistantResultPolicy) (turn : Turn) : Finset String :=
  if turn.1.isErrored then
    match policy with
    | .preserve => answeredIds (fun call => turn.2.any fun entry => entry.answers call.id) turn.1.calls
    | .drop => ∅
  else (turn.1.calls.map ToolCallLike.id).toFinset

/-- A property of each turn and the ids answered before it. -/
def AlongTurns (policy : ErroredAssistantResultPolicy) (property : Finset String → Turn → Prop) :
    Finset String → List Turn → Prop
  | _, [] => True
  | earlier, turn :: rest =>
    property earlier turn ∧ AlongTurns policy property (earlier ∪ turnIds policy turn) rest

/-- No call of the turn repeats an answered id. -/
def FreshTurn (earlier : Finset String) (turn : Turn) : Prop :=
  turn.1.isErrored = false → ∀ call ∈ turn.1.calls, call.id ∉ earlier

/-- A name that the repair would not change. -/
def CleanName (name : Option String) : Prop :=
  ∀ text, name = some text → normalizeOptionalString (some text) = some text

/-- The first call with an id has a clean name if the span has no result for it. -/
def CleanTurn (turn : Turn) : Prop :=
  turn.1.isErrored = false → ∀ before call after, turn.1.calls = before ++ call :: after →
    (∀ other ∈ before, other.id ≠ call.id) → (∀ entry ∈ turn.2, ¬ entry.answers call.id) →
      CleanName call.name

/-- No second result for a call, and none of an errored turn behind another entry. -/
def TidyTurn (turn : Turn) : Prop :=
  (turn.1.isErrored = false → ∀ call ∈ turn.1.calls,
    turn.2.countP (fun entry => entry.answers call.id) ≤ 1) ∧
  (turn.1.isErrored = true → ∀ entry ∈ turnRest turn, ¬ entry.isToolResult)

/-- A result in the span of a turn that the pass neither drops nor renames. -/
def Entry.IsSettled (earlier : Finset String) (turn : Turn) (entry : Entry) : Prop :=
  ∃ message id, entry = .object message ∧ extractToolResultId message = some id ∧
    id ∈ turn.1.calls.map ToolCallLike.id ∧ id ∉ earlier ∧
      normalizeToolResultName message (toolCallName turn.1.calls id) = message

/-- A turn at which the pass finds nothing to change. -/
structure SettledTurn (policy : ErroredAssistantResultPolicy) (earlier : Finset String)
    (turn : Turn) : Prop where
  results : ∀ entry ∈ turn.2, entry.isToolResult → entry.IsSettled earlier turn
  errored : turn.1.isErrored = true →
    (policy = .preserve → ∀ id, (∃ entry ∈ turn.2, entry.answers id) →
      (turn.1.calls.map ToolCallLike.id).count id ≤ 1) ∧
    (policy = .drop → ∀ entry ∈ turn.2, ¬ entry.isToolResult)
  whole : turn.1.isErrored = false →
    (∀ call ∈ turn.1.calls, ∃ entry ∈ turn.2, entry.answers call.id) ∧
    (turn.1.calls.map ToolCallLike.id).Nodup ∧
    ((∃ entry ∈ turn.2, entry.isToolResult) → ∀ entry ∈ turn.2, entry.isToolResult)

/-- A list in which the pass finds nothing to change. -/
def SettledTranscript (policy : ErroredAssistantResultPolicy) (messages : List Entry) : Prop :=
  (∀ entry ∈ transcriptPreamble messages, ¬ entry.isToolResult) ∧
    AlongTurns policy (SettledTurn policy) ∅ (transcriptTurns messages)

/-- The lists the pass repairs. -/
structure Repairable (policy : ErroredAssistantResultPolicy) (messages : List Entry) : Prop where
  fresh : AlongTurns policy FreshTurn ∅ (transcriptTurns messages)
  clean : ∀ turn ∈ transcriptTurns messages, CleanTurn turn
  tidy : SettledTranscript policy messages → ∀ turn ∈ transcriptTurns messages, TidyTurn turn

/-! ### Lists of answers -/

/-- Answers that answer the calls they are given to. -/
def Filed (answer : ToolCallLike → Option Message) : Prop :=
  ∀ call result, call.id ≠ "" → answer call = some result → result.answers call.id

theorem Message.answers_unique {message : Message} {first second : String}
    (left : message.answers first) (right : message.answers second) : first = second :=
  Option.some.inj (left.2.symm.trans right.2)

variable {calls : List ToolCallLike} {answer : ToolCallLike → Option Message}

/-- The answers written are those to the first call of each open id. -/
theorem mem_answersTo
    {result : Message} : ∀ {seen : Finset String}, result ∈ answersTo answer calls seen ↔
      ∃ before call after, calls = before ++ call :: after ∧ answer call = some result ∧
        call.id ∉ seen ∧ ∀ other ∈ before, (answer other).isSome → other.id ≠ call.id := by
  induction calls with
  | nil => simp [answersTo]
  | cons head rest inductionHypothesis =>
    intro seen
    -- a witness split either puts the call at the head or lies in the rest
    have splits : (∃ before call after, head :: rest = before ++ call :: after ∧
        answer call = some result ∧ call.id ∉ seen ∧
          ∀ other ∈ before, (answer other).isSome → other.id ≠ call.id) ↔
        (answer head = some result ∧ head.id ∉ seen) ∨
          ∃ before call after, rest = before ++ call :: after ∧ answer call = some result ∧
            (call.id ∉ seen ∧ ((answer head).isSome → head.id ≠ call.id)) ∧
              ∀ other ∈ before, (answer other).isSome → other.id ≠ call.id := by
      constructor
      · rintro ⟨before, call, after, split, answered, open', first⟩
        cases before with
        | nil =>
          obtain ⟨rfl, -⟩ := List.cons.inj split
          exact Or.inl ⟨answered, open'⟩
        | cons other before =>
          obtain ⟨rfl, shorter⟩ := List.cons.inj split
          exact Or.inr ⟨before, call, after, shorter, answered, ⟨open', first _ List.mem_cons_self⟩,
            fun other member => first other (List.mem_cons_of_mem _ member)⟩
      · rintro (⟨answered, open'⟩ | ⟨before, call, after, rfl, answered, ⟨open', different⟩, first⟩)
        · exact ⟨[], head, rest, rfl, answered, open', by simp⟩
        · refine ⟨head :: before, call, after, rfl, answered, open', fun other member => ?_⟩
          rcases List.mem_cons.1 member with rfl | member
          · exact different
          · exact first other member
    rw [splits]
    cases answered : answer head with
    | none =>
      simp only [answersTo, answered, Option.isSome_none, Bool.false_eq_true, false_implies, and_true,
        reduceCtorEq, false_and, false_or]
      exact inductionHypothesis
    | some first =>
      by_cases old : head.id ∈ seen
      · simp only [answersTo, answered, old, if_true, not_true_eq_false, and_false, false_or]
        rw [inductionHypothesis]
        refine exists_congr fun before => exists_congr fun call => exists_congr fun after =>
          and_congr_right fun _ => and_congr_right fun _ => and_congr_left fun _ => ?_
        exact ⟨fun open' => ⟨open', fun _ same => open' (same ▸ old)⟩, And.left⟩
      · simp only [answersTo, answered, old, if_false, not_false_eq_true, and_true, List.mem_cons,
          Option.isSome_some, true_implies, Option.some.injEq, @eq_comm _ result]
        refine or_congr Iff.rfl ?_
        rw [inductionHypothesis]
        refine exists_congr fun before => exists_congr fun call => exists_congr fun after =>
          and_congr_right fun _ => and_congr (by rw [eq_comm]) (and_congr_left fun _ => ?_)
        rw [Finset.mem_insert, not_or, and_comm, ne_comm]

theorem countP_answersTo_of_seen (filed : Filed answer)
    (named : ∀ call ∈ calls, call.id ≠ "") {seen : Finset String} {id : String} (old : id ∈ seen) :
    (answersTo answer calls seen).countP (fun message => message.answers id) = 0 := by
  rw [List.countP_eq_zero]
  intro result member
  obtain ⟨before, call, after, rfl, answered, open', -⟩ := mem_answersTo.1 member
  have own := filed call result (named call (by simp)) answered
  rw [decide_eq_true_iff]
  exact fun answers => open' (Message.answers_unique own answers ▸ old)

/-- Every open id is answered once. -/
theorem countP_answersTo_of_open (filed : Filed answer)
    {id : String} : (∀ call ∈ calls, call.id ≠ "") →
    ∀ {seen : Finset String}, id ∉ seen → (∃ call ∈ calls, call.id = id ∧ (answer call).isSome) →
      (answersTo answer calls seen).countP (fun message => message.answers id) = 1 := by
  induction calls with
  | nil => rintro - seen - ⟨call, member, -⟩; cases member
  | cons head rest inductionHypothesis =>
    rintro named seen open' ⟨call, member, same, has⟩
    have restNamed : ∀ other ∈ rest, other.id ≠ "" := fun other member =>
      named other (List.mem_cons_of_mem _ member)
    have inRest : call ≠ head → call ∈ rest := fun different =>
      (List.mem_cons.1 member).resolve_left different
    cases answered : answer head with
    | none =>
      have different : call ≠ head := by rintro rfl; simp [answered] at has
      simp only [answersTo, answered]
      exact inductionHypothesis restNamed open' ⟨call, inRest different, same, has⟩
    | some result =>
      have own := filed head result (named head List.mem_cons_self) answered
      by_cases old : head.id ∈ seen
      · have different : call ≠ head := by rintro rfl; exact open' (same ▸ old)
        simp only [answersTo, answered, old, if_true]
        exact inductionHypothesis restNamed open' ⟨call, inRest different, same, has⟩
      · simp only [answersTo, answered, old, if_false, List.countP_cons]
        by_cases headSame : head.id = id
        · have none := countP_answersTo_of_seen filed restNamed
            (headSame ▸ Finset.mem_insert_self head.id seen : id ∈ insert head.id seen)
          rw [none, if_pos (by simpa using headSame ▸ own)]
        · have different : call ≠ head := by rintro rfl; exact headSame same
          have other : ¬ result.answers id := fun answers =>
            headSame (Message.answers_unique own answers)
          rw [if_neg (by simpa using other), add_zero]
          exact inductionHypothesis restNamed (by simp [open', Ne.symm headSame])
            ⟨call, inRest different, same, has⟩

/-- Whether a call has an answer depends on its id only. -/
def ById (answer : ToolCallLike → Option Message) : Prop :=
  ∀ first second, first.id = second.id → (answer first).isSome = (answer second).isSome

/-- Reading the answers back by id answers the same calls the same way. -/
theorem answersTo_readBack {answer again : ToolCallLike → Option Message} (filed : Filed answer)
    (byId : ById answer) : (∀ call ∈ calls, call.id ≠ "") →
      ∀ {seen : Finset String}, (∀ call ∈ calls, call.id ∉ seen → again call =
          (answersTo answer calls seen).find? fun message => message.answers call.id) →
        answersTo again calls seen = answersTo answer calls seen := by
  induction calls with
  | nil => exact fun _ _ _ => rfl
  | cons head rest inductionHypothesis =>
    intro named seen readBack
    have restNamed : ∀ other ∈ rest, other.id ≠ "" := fun other member =>
      named other (List.mem_cons_of_mem _ member)
    -- a head without an answer, or with one that is dropped, is passed over both times
    have passOver : (∀ any : ToolCallLike → Option Message, any = answer ∨ any = again →
        answersTo any (head :: rest) seen = answersTo any rest seen) →
        answersTo again (head :: rest) seen = answersTo answer (head :: rest) seen := fun skip => by
      rw [skip answer (Or.inl rfl)] at readBack
      rw [skip again (Or.inr rfl), skip answer (Or.inl rfl)]
      exact inductionHypothesis restNamed fun call member =>
        readBack call (List.mem_cons_of_mem _ member)
    by_cases old : head.id ∈ seen
    · refine passOver fun any _ => ?_
      cases answered : any head <;> simp [answersTo, answered, old]
    · have headBack := readBack head List.mem_cons_self old
      cases answered : answer head with
      | none =>
        have skip : answersTo answer (head :: rest) seen = answersTo answer rest seen := by
          simp [answersTo, answered]
        have unanswered : again head = none := by
          rw [headBack, skip, List.find?_eq_none]
          intro result member
          obtain ⟨before, call, after, rfl, callAnswered, -, -⟩ := mem_answersTo.1 member
          have own := filed call result (restNamed call (by simp)) callAnswered
          rw [decide_eq_true_iff]
          intro answers
          have same := byId head call (Message.answers_unique answers own)
          simp [answered, callAnswered] at same
        refine passOver fun any which => ?_
        rcases which with rfl | rfl
        · exact skip
        · simp [answersTo, unanswered]
      | some result =>
        have own := filed head result (named head List.mem_cons_self) answered
        have push : answersTo answer (head :: rest) seen =
            result :: answersTo answer rest (insert head.id seen) := by
          simp only [answersTo, answered, old, if_false]
        rw [push] at readBack headBack
        rw [List.find?_cons_of_pos (by simpa using own)] at headBack
        have pushAgain : answersTo again (head :: rest) seen =
            result :: answersTo again rest (insert head.id seen) := by
          simp only [answersTo, headBack, old, if_false]
        rw [push, pushAgain]
        refine congrArg (result :: ·) (inductionHypothesis restNamed fun call member open' => ?_)
        rw [Finset.mem_insert, not_or] at open'
        rw [readBack call (List.mem_cons_of_mem _ member) open'.2, List.find?_cons_of_neg]
        rw [decide_eq_true_iff]
        exact fun answers => open'.1 (Message.answers_unique answers own)

/-- Whether answers to an id come twice. -/
theorem answersAgain_iff {has : ToolCallLike → Bool} :
    ∀ {seen : Finset String}, answersAgain has calls seen ↔
      ¬ (((calls.filter has).map ToolCallLike.id).Nodup ∧ ∀ call ∈ calls, has call → call.id ∉ seen) := by
  induction calls with
  | nil => simp [answersAgain]
  | cons head rest inductionHypothesis =>
    intro seen
    by_cases answered : has head
    · simp only [answersAgain, answered, if_true, inductionHypothesis]
      rw [← not_iff_not, not_or, not_not, not_not]
      simp only [List.filter_cons, answered, if_true, List.map_cons, List.nodup_cons, List.mem_map,
        List.mem_filter, Finset.mem_insert, not_or, List.mem_cons, forall_eq_or_imp, true_implies]
      constructor
      · rintro ⟨headFresh, distinct, restFresh⟩
        refine ⟨⟨?_, distinct⟩, headFresh, fun call member has => (restFresh call member has).2⟩
        rintro ⟨call, ⟨member, has⟩, same⟩
        exact (restFresh call member has).1 same
      · rintro ⟨⟨unrepeated, distinct⟩, headFresh, restFresh⟩
        refine ⟨headFresh, distinct, fun call member has => ⟨fun same => ?_, restFresh call member has⟩⟩
        exact unrepeated ⟨call, ⟨member, has⟩, same⟩
    · simp [answersAgain, answered, inductionHypothesis]

/-! ### One turn -/

section OneTurn

variable {policy : ErroredAssistantResultPolicy} {times : String → Int} {seen : Finset String}
  {turn : Turn}
variable {id : String} {call : ToolCallLike} {span : List Entry}
variable {entry : Entry}

theorem Entry.calls_named (entry : Entry) : ∀ call ∈ entry.calls, call.id ≠ "" := by
  intro call member
  cases entry with
  | object message => exact ToolCallLike.id_ne_empty member
  | other value => cases member

theorem answers_normalizeToolResultName {message : Message} (name : Option String)
    (answers : message.answers id) : (normalizeToolResultName message name).answers id := by
  simpa [Message.answers] using answers

theorem answers_makeMissingToolResult (named : id ≠ "") (name : Option String)
    (now : Int) : (makeMissingToolResult id name now).answers id :=
  ⟨isToolResult_makeMissingToolResult id name now, extractToolResultId_makeMissingToolResult named name now⟩

theorem filed_turnAnswer : Filed (turnAnswer policy times seen turn) := by
  intro call result named answered
  have kept : ∀ message, keptResult turn.1.calls seen turn.2 call.id = some message →
      message.answers call.id := fun message found => by
    obtain ⟨-, -, source, -, answers, rfl⟩ := keptResult_eq_some found
    exact answers_normalizeToolResultName _ answers
  unfold turnAnswer at answered
  split at answered
  · cases policy with
    | preserve => exact kept result answered
    | drop => cases answered
  · obtain rfl := Option.some.inj answered
    unfold answerOf
    cases found : keptResult turn.1.calls seen turn.2 call.id with
    | none => exact answers_makeMissingToolResult named _ _
    | some message => exact kept message found

theorem byId_turnAnswer : ById (turnAnswer policy times seen turn) := by
  intro first second same
  have has := isSome_turnAnswer policy times seen turn
  rw [congrFun has first, congrFun has second]
  simp only [turnHasAnswer, same]

theorem isToolResult_of_mem_turnAnswers {result : Message}
    (member : result ∈ turnAnswers policy times seen turn) : result.isToolResult := by
  obtain ⟨before, call, after, split, answered, -, -⟩ := mem_answersTo.1 member
  exact (filed_turnAnswer call result (turn.1.calls_named call (by simp [split])) answered).1

@[simp] theorem repairedTurn_head : (repairedTurn policy times seen turn).1 = turn.1 := rfl

theorem isToolResult_of_mem_written
    (member : entry ∈ (turnAnswers policy times seen turn).map Entry.object) : entry.isToolResult := by
  obtain ⟨result, written, rfl⟩ := List.mem_map.1 member
  exact isToolResult_of_mem_turnAnswers written

theorem turnRun_repairedTurn :
    turnRun (repairedTurn policy times seen turn) =
      (turnAnswers policy times seen turn).map .object := by
  have others : (turn.2.filter (!·.isToolResult)).takeWhile Entry.isToolResult = [] := by
    rw [List.takeWhile_eq_nil_iff]
    intro nonempty
    simpa using List.getElem_filter nonempty
  rw [turnRun, repairedTurn, List.takeWhile_append_of_pos fun _ => isToolResult_of_mem_written, others,
    List.append_nil]

theorem turnRest_repairedTurn :
    turnRest (repairedTurn policy times seen turn) = turn.2.filter (!·.isToolResult) := by
  have others : (turn.2.filter (!·.isToolResult)).dropWhile Entry.isToolResult =
      turn.2.filter (!·.isToolResult) := by
    rw [List.dropWhile_eq_self_iff]
    intro nonempty
    simpa using List.getElem_filter nonempty
  rw [turnRest, repairedTurn, List.dropWhile_append_of_pos fun _ => isToolResult_of_mem_written, others]

/-- A result answers each of the turn's open calls, if the turn was not cut short. -/
theorem answered_repairedTurn (whole : turn.1.isErrored = false) (own : call ∈ turn.1.calls) :
    (turnRun (repairedTurn policy times seen turn)).countP (fun entry => entry.answers call.id) =
      if call.id ∈ seen then 0 else 1 := by
  rw [turnRun_repairedTurn, List.countP_map]
  by_cases old : call.id ∈ seen
  · rw [if_pos old]
    exact countP_answersTo_of_seen filed_turnAnswer turn.1.calls_named old
  · rw [if_neg old]
    refine countP_answersTo_of_open filed_turnAnswer turn.1.calls_named old ⟨call, own, rfl, ?_⟩
    simp [turnAnswer, whole]

/-- The repaired turn is paired exactly when none of its calls had been answered before. -/
theorem pairedTurn_repairedTurn_iff :
    PairedTurn policy (repairedTurn policy times seen turn) ↔ FreshTurn seen turn := by
  constructor
  · intro paired whole call own old
    have once := paired.answered whole call own
    rw [answered_repairedTurn whole own, if_pos old] at once
    cases once
  · intro fresh
    refine ⟨fun (whole : turn.1.isErrored = false) call (own : call ∈ turn.1.calls) => ?_,
      fun entry member => ?_, fun entry member => ?_⟩
    · rw [answered_repairedTurn whole own, if_neg (fresh whole call own)]
    · rw [turnRun_repairedTurn] at member
      obtain ⟨result, written, rfl⟩ := List.mem_map.1 member
      obtain ⟨before, call, after, split, answered, -, -⟩ := mem_answersTo.1 written
      have own : call ∈ turn.1.calls := by simp [split]
      refine ⟨⟨call, own, filed_turnAnswer call result (turn.1.calls_named call own) answered⟩, ?_⟩
      intro errored
      cases policy with
      | preserve => rfl
      | drop =>
        have errored : turn.1.isErrored = true := errored
        simp [turnAnswer, errored] at answered
    · rw [turnRest_repairedTurn] at member
      simpa using (List.mem_filter.1 member).2

/-- The result kept for a call is the one the turn is answered with. -/
theorem answerOf_eq_of_kept
    {message : Message} (kept : keptResult calls seen span call.id = some message) :
    answerOf (keptResult calls seen span) times call = message := by
  rw [answerOf, kept, Option.getD_some]

theorem exists_kept (own : id ∈ calls.map ToolCallLike.id) (open' : id ∉ seen)
    (found : ∃ entry ∈ span, entry.answers id) :
    ∃ message, .object message ∈ span ∧ message.answers id ∧ keptResult calls seen span id =
      some (normalizeToolResultName message (toolCallName calls id)) := by
  obtain ⟨message, first⟩ := Option.isSome_iff_exists.1 (spanResult_isSome.2 found)
  obtain ⟨member, answers⟩ := answers_of_spanResult first
  refine ⟨message, member, answers, ?_⟩
  rw [keptResult, if_pos ⟨own, open'⟩, first, Option.map_some]

theorem prefersReal_repairedTurn (fresh : FreshTurn seen turn) :
    PrefersReal turn (repairedTurn policy times seen turn) := by
  intro whole call own found
  have open' := fresh whole call own
  obtain ⟨message, member, answers, kept⟩ := exists_kept (List.mem_map_of_mem own) open' found
  refine ⟨message, toolCallName turn.1.calls call.id, member, answers, ?_⟩
  have once : (turnRun (repairedTurn policy times seen turn)).countP
      (fun entry => entry.answers call.id) = if call.id ∈ seen then 0 else 1 :=
    answered_repairedTurn whole own
  rw [if_neg open'] at once
  obtain ⟨entry, written, answered⟩ := List.countP_pos_iff.1 (by rw [once]; exact Nat.one_pos)
  rw [turnRun_repairedTurn] at written ⊢
  obtain ⟨result, inAnswers, rfl⟩ := List.mem_map.1 written
  obtain ⟨before, other, after, split, otherAnswer, -, -⟩ := mem_answersTo.1 inAnswers
  have own' := filed_turnAnswer other result (turn.1.calls_named other (by simp [split])) otherAnswer
  have sameId : other.id = call.id := Message.answers_unique own' (of_decide_eq_true answered)
  have result_eq : result = normalizeToolResultName message (toolCallName turn.1.calls call.id) := by
    simp only [turnAnswer, whole, Bool.false_eq_true, if_false, Option.some.injEq] at otherAnswer
    rw [← otherAnswer]
    exact answerOf_eq_of_kept (sameId ▸ kept)
  exact result_eq ▸ written

/-! ### One turn, repaired again -/

/-- No result of the turn would be renamed. -/
def NormalTurn (turn : Turn) : Prop :=
  ∀ message id, .object message ∈ turn.2 → message.answers id →
    normalizeToolResultName message (toolCallName turn.1.calls id) = message

/-- In a repaired turn the first result for an id is the answer written for it. -/
theorem spanResult_repairedTurn (id : String) :
    spanResult (repairedTurn policy times seen turn).2 id =
      (turnAnswers policy times seen turn).find? fun message => message.answers id := by
  have others : spanResult (turn.2.filter (!·.isToolResult)) id = none := by
    rw [← Option.not_isSome_iff_eq_none, spanResult_isSome]
    rintro ⟨entry, member, answers⟩
    have notResult := (List.mem_filter.1 member).2
    cases entry with
    | other value => exact answers
    | object message => simp [Entry.isToolResult, answers.1] at notResult
  have written : ∀ answers : List Message, spanResult (answers.map .object) id =
      answers.find? fun message => message.answers id := by
    intro answers
    induction answers with
    | nil => rfl
    | cons message rest inductionHypothesis =>
      by_cases own : message.answers id
      · simp [spanResult, own]
      · rw [List.find?_cons_of_neg (by simpa using own), ← inductionHypothesis]
        simp [spanResult, own]
  rw [repairedTurn, spanResult, List.findSome?_append]
  exact (congrArg₂ Option.or (written _) others).trans (Option.or_none)

/-- What the look-ahead keeps of a repaired turn. -/
theorem keptResult_repairedTurn (own : id ∈ turn.1.calls.map ToolCallLike.id)
    (open' : id ∉ seen) : keptResult turn.1.calls seen (repairedTurn policy times seen turn).2 id =
      ((turnAnswers policy times seen turn).find? fun message => message.answers id).map
        (normalizeToolResultName · (toolCallName turn.1.calls id)) := by
  rw [keptResult, if_pos ⟨own, open'⟩, spanResult_repairedTurn]

/-- The answer written for an id is an answer to a call of the turn with that id. -/
theorem answer_of_found {result : Message}
    (found : ((turnAnswers policy times seen turn).find? fun message => message.answers id) =
      some result) :
    ∃ call ∈ turn.1.calls, call.id = id ∧ turnAnswer policy times seen turn call = some result := by
  obtain ⟨before, call, after, split, answered, -, -⟩ :=
    mem_answersTo.1 (List.mem_of_find?_eq_some found)
  have own : call ∈ turn.1.calls := by simp [split]
  refine ⟨call, own, ?_, answered⟩
  exact Message.answers_unique
    (filed_turnAnswer call result (turn.1.calls_named call own) answered)
    (by simpa using List.find?_some found)

theorem found_of_hasAnswer (own : call ∈ turn.1.calls) (open' : call.id ∉ seen)
    (has : turnHasAnswer policy seen turn call = true) : ∃ result,
      ((turnAnswers policy times seen turn).find? fun message => message.answers call.id) =
        some result := by
  have once : (turnAnswers policy times seen turn).countP (fun message => message.answers call.id) = 1 :=
    countP_answersTo_of_open filed_turnAnswer turn.1.calls_named open' ⟨call, own, rfl, by
      rw [← has, ← isSome_turnAnswer policy times]⟩
  obtain ⟨result, member, answers⟩ := List.countP_pos_iff.1 (by rw [once]; exact Nat.one_pos)
  exact Option.isSome_iff_exists.1 (List.find?_isSome.2 ⟨result, member, answers⟩)

theorem turnHasAnswer_preserve {other : Turn} (errored : other.1.isErrored = true)
    (call : ToolCallLike) : turnHasAnswer .preserve seen other call =
      (keptResult other.1.calls seen other.2 call.id).isSome := by
  simp [turnHasAnswer, errored]

/-- The second repair finds an answer for the same calls. -/
theorem turnHasAnswer_repairedTurn (own : call ∈ turn.1.calls) :
    turnHasAnswer policy seen (repairedTurn policy times seen turn) call =
      turnHasAnswer policy seen turn call := by
  cases errored : turn.1.isErrored with
  | false => simp [turnHasAnswer, repairedTurn, errored]
  | true =>
    cases policy with
    | drop => simp [turnHasAnswer, repairedTurn, errored]
    | preserve =>
      have listed : call.id ∈ turn.1.calls.map ToolCallLike.id := List.mem_map_of_mem own
      have again : (repairedTurn .preserve times seen turn).1.isErrored = true := errored
      rw [turnHasAnswer_preserve again, turnHasAnswer_preserve errored]
      by_cases old : call.id ∈ seen
      · simp [keptResult, old]
      · rw [repairedTurn_head, keptResult_repairedTurn listed old, Option.isSome_map, Bool.eq_iff_iff]
        constructor
        · intro found
          obtain ⟨result, found⟩ := Option.isSome_iff_exists.1 found
          obtain ⟨other, -, same, answered⟩ := answer_of_found found
          simp only [turnAnswer, errored, if_true] at answered
          rw [← same, answered]
          rfl
        · intro kept
          have has : turnHasAnswer .preserve seen turn call = true := by
            rw [turnHasAnswer_preserve errored]
            exact kept
          obtain ⟨result, found⟩ := found_of_hasAnswer own old has
          rw [found]
          rfl

theorem seenAfter_repairedTurn :
    seenAfter policy seen (repairedTurn policy times seen turn) = seenAfter policy seen turn := by
  have same : turn.1.calls.filter (turnHasAnswer policy seen (repairedTurn policy times seen turn)) =
      turn.1.calls.filter (turnHasAnswer policy seen turn) :=
    List.filter_congr fun call own => turnHasAnswer_repairedTurn own
  simp only [seenAfter, answeredIds]
  exact congrArg (fun calls : List ToolCallLike => seen ∪ (calls.map ToolCallLike.id).toFinset) same

/-- A result in a repaired turn was written by the repair. -/
theorem written_of_mem {message : Message}
    (member : .object message ∈ (repairedTurn policy times seen turn).2) (answers : message.answers id) :
    message ∈ turnAnswers policy times seen turn := by
  rcases List.mem_append.1 member with inAnswers | inRest
  · obtain ⟨result, inAnswers, same⟩ := List.mem_map.1 inAnswers
    exact Entry.object.inj same ▸ inAnswers
  · have notResult := (List.mem_filter.1 inRest).2
    simp [Entry.isToolResult, answers.1] at notResult

theorem normal_of_mem (normal : NormalTurn (repairedTurn policy times seen turn)) {result : Message}
    (found : ((turnAnswers policy times seen turn).find?
      fun message => message.answers id) = some result) :
    normalizeToolResultName result (toolCallName turn.1.calls id) = result := by
  refine normal result id (List.mem_append_left _ (List.mem_map_of_mem ?_)) ?_
  · exact List.mem_of_find?_eq_some found
  · simpa using List.find?_some found

/-- What the second repair answers a call with, if no name changes. -/
theorem turnAnswer_repairedTurn (normal : NormalTurn (repairedTurn policy times seen turn))
    (again : String → Int) (own : call ∈ turn.1.calls) (open' : call.id ∉ seen) :
    turnAnswer policy again seen (repairedTurn policy times seen turn) call =
      (turnAnswers policy times seen turn).find? fun message => message.answers call.id := by
  have kept : keptResult turn.1.calls seen (repairedTurn policy times seen turn).2 call.id =
      (turnAnswers policy times seen turn).find? fun message => message.answers call.id := by
    rw [keptResult_repairedTurn (List.mem_map_of_mem own) open']
    cases found : (turnAnswers policy times seen turn).find? fun message => message.answers call.id with
    | none => rfl
    | some result => exact congrArg some (normal_of_mem normal found)
  cases errored : turn.1.isErrored with
  | false =>
    have has : turnHasAnswer policy seen turn call = true := by simp [turnHasAnswer, errored]
    obtain ⟨result, found⟩ : ∃ result, ((turnAnswers policy times seen turn).find?
      fun message => message.answers call.id) = some result := found_of_hasAnswer own open' has
    rw [found] at kept ⊢
    simp [turnAnswer, errored, answerOf, kept]
  | true =>
    cases policy with
    | preserve => simpa [turnAnswer, errored] using kept
    | drop =>
      have silent : turnAnswer .drop again seen (repairedTurn .drop times seen turn) call = none := by
        simp [turnAnswer, errored]
      rw [silent, eq_comm, Option.eq_none_iff_forall_ne_some]
      intro result found
      obtain ⟨other, -, -, answered⟩ := answer_of_found found
      simp [turnAnswer, errored] at answered

/-- If the second repair writes the same answers, then no name has changed. -/
theorem normalTurn_of_same_answers {again : String → Int}
    (same : turnAnswers policy again seen (repairedTurn policy times seen turn) =
      turnAnswers policy times seen turn) : NormalTurn (repairedTurn policy times seen turn) := by
  intro message id member answers
  have written : message ∈ turnAnswers policy again seen (repairedTurn policy times seen turn) := by
    rw [same]
    exact written_of_mem member answers
  obtain ⟨before, call, after, split, answered, open', -⟩ := mem_answersTo.1 written
  have own : call ∈ turn.1.calls := by
    rw [show turn.1.calls = before ++ call :: after from split]
    simp
  have named := turn.1.calls_named call own
  have callId : call.id = id :=
    Message.answers_unique (filed_turnAnswer call message named answered) answers
  have renamed : ∀ source : Message, keptResult turn.1.calls seen
      (repairedTurn policy times seen turn).2 call.id = some source →
        normalizeToolResultName source (toolCallName turn.1.calls id) = source := fun source kept => by
    obtain ⟨-, -, former, -, -, rfl⟩ := keptResult_eq_some kept
    rw [callId, normalizeToolResultName_idem]
  cases errored : turn.1.isErrored with
  | true =>
    cases policy with
    | preserve =>
      refine renamed message ?_
      simpa [turnAnswer, errored] using answered
    | drop => simp [turnAnswer, errored] at answered
  | false =>
    have has : turnHasAnswer policy seen turn call = true := by simp [turnHasAnswer, errored]
    obtain ⟨result, found⟩ : ∃ result, ((turnAnswers policy times seen turn).find?
      fun message => message.answers call.id) = some result := found_of_hasAnswer own open' has
    have kept : keptResult turn.1.calls seen (repairedTurn policy times seen turn).2 call.id =
        some (normalizeToolResultName result (toolCallName turn.1.calls call.id)) := by
      rw [keptResult_repairedTurn (List.mem_map_of_mem own) open', found, Option.map_some]
    have message_eq : normalizeToolResultName result (toolCallName turn.1.calls call.id) = message := by
      simpa [turnAnswer, errored, answerOf, kept] using answered
    exact renamed message (by rw [kept, message_eq])

/-- Repairing a repaired turn again changes nothing exactly when no result would be renamed. -/
theorem repairedTurn_again_iff (again : String → Int) :
    repairedTurn policy again seen (repairedTurn policy times seen turn) =
      repairedTurn policy times seen turn ↔ NormalTurn (repairedTurn policy times seen turn) := by
  constructor
  · intro same
    have runs := congrArg turnRun same
    rw [turnRun_repairedTurn, turnRun_repairedTurn] at runs
    exact normalTurn_of_same_answers
      ((List.map_injective_iff.2 fun _ _ => Entry.object.inj) runs)
  · intro normal
    have answers : turnAnswers policy again seen (repairedTurn policy times seen turn) =
        turnAnswers policy times seen turn :=
      answersTo_readBack filed_turnAnswer byId_turnAnswer turn.1.calls_named fun call own open' =>
        turnAnswer_repairedTurn normal again own open'
    have dropped : ((turnAnswers policy times seen turn).map Entry.object).filter (!·.isToolResult) =
        [] := by
      rw [List.filter_eq_nil_iff]
      intro entry member
      simpa using isToolResult_of_mem_written member
    rw [repairedTurn, answers]
    simp only [repairedTurn, List.filter_append, dropped, List.nil_append, List.filter_filter,
      Bool.and_self]

/-! ### Names that stay -/

theorem normal_makeMissingToolResult_iff (id : String) (name : Option String) (now : Int)
    (fallback : Option String) :
    normalizeToolResultName (makeMissingToolResult id name now) fallback =
      makeMissingToolResult id name now ↔ CleanName name := by
  have normalOf : ∀ {text : Option String} {value : String}, normalizeOptionalString text = some value →
      normalizeOptionalString (some value) = some value := fun normalised =>
    normalised ▸ normalizeOptionalString_idem _
  have toolName : (makeMissingToolResult id name now).toolName = .string (name.getD "unknown") := rfl
  constructor
  · rintro same text rfl
    rw [Option.getD_some] at toolName
    have toolNameKept := congrArg Message.toolName same
    rw [normalizeToolResultName, toolName, Value.readString] at toolNameKept
    cases own : normalizeOptionalString (some text) with
    | some value =>
      simp only [own, Value.string.injEq] at toolNameKept
      rw [toolNameKept]
    | none =>
      cases other : normalizeOptionalString fallback with
      | some value =>
        simp only [own, other, Value.string.injEq] at toolNameKept
        rw [← toolNameKept, normalOf other] at own
        cases own
      | none =>
        simp only [own, other, Value.string.injEq] at toolNameKept
        rw [← toolNameKept, normalizeOptionalString_unknown] at own
        cases own
  · intro clean
    refine normalizeToolResultName_of_normal toolName ?_ fallback
    cases name with
    | none => exact normalizeOptionalString_unknown
    | some text => exact clean text rfl

/-- A turn none of whose calls was answered before is left with names that stay exactly when the
calls without a result have clean names. -/
theorem normalTurn_repairedTurn_iff (fresh : FreshTurn seen turn) :
    NormalTurn (repairedTurn policy times seen turn) ↔ CleanTurn turn := by
  constructor
  · intro normal whole before call after split first unanswered
    have own : call ∈ turn.1.calls := by simp [split]
    have kept : keptResult turn.1.calls seen turn.2 call.id = none := by
      refine Option.eq_none_iff_forall_ne_some.2 fun message found => ?_
      obtain ⟨-, -, source, member, answers, -⟩ := keptResult_eq_some found
      exact unanswered _ member answers
    have answered : turnAnswer policy times seen turn call =
        some (makeMissingToolResult call.id call.name (times call.id)) := by
      simp [turnAnswer, whole, answerOf, kept]
    have written : makeMissingToolResult call.id call.name (times call.id) ∈
        turnAnswers policy times seen turn :=
      mem_answersTo.2 ⟨before, call, after, split, answered, fresh whole call own,
        fun other member _ => first other member⟩
    exact (normal_makeMissingToolResult_iff _ _ _ _).1 (normal _ call.id
      (List.mem_append_left _ (List.mem_map_of_mem written))
      (filed_turnAnswer call _ (turn.1.calls_named call own) answered))
  · intro clean message id member answers
    have written := written_of_mem member answers
    obtain ⟨before, call, after, split, answered, open', first⟩ := mem_answersTo.1 written
    have own : call ∈ turn.1.calls := by simp [split]
    have callId : call.id = id := Message.answers_unique
      (filed_turnAnswer call message (turn.1.calls_named call own) answered) answers
    have renamed : ∀ source : Message, keptResult turn.1.calls seen turn.2 call.id = some source →
        normalizeToolResultName source (toolCallName turn.1.calls id) = source := fun source kept => by
      obtain ⟨-, -, former, -, -, rfl⟩ := keptResult_eq_some kept
      rw [callId, normalizeToolResultName_idem]
    cases errored : turn.1.isErrored with
    | true =>
      cases policy with
      | preserve => exact renamed message (by simpa [turnAnswer, errored] using answered)
      | drop => simp [turnAnswer, errored] at answered
    | false =>
      cases kept : keptResult turn.1.calls seen turn.2 call.id with
      | some source =>
        have message_eq : source = message := by
          simpa [turnAnswer, errored, answerOf, kept] using answered
        exact message_eq ▸ renamed source kept
      | none =>
        have message_eq : makeMissingToolResult call.id call.name (times call.id) = message := by
          simpa [turnAnswer, errored, answerOf, kept] using answered
        rw [← message_eq, normal_makeMissingToolResult_iff]
        refine clean errored before call after split (fun other member => first other member ?_) ?_
        · simp [turnAnswer, errored]
        · intro entry member found
          obtain ⟨source, -, -, some⟩ := exists_kept (List.mem_map_of_mem own) open' ⟨entry, member, found⟩
          rw [kept] at some
          cases some


/-! ### Turns without anything to repair -/

theorem any_answers_iff :
    (span.any fun entry => entry.answers id) = true ↔ ∃ entry ∈ span, entry.answers id := by
  simp

theorem keptResult_isSome : (keptResult calls seen span id).isSome ↔
      id ∈ calls.map ToolCallLike.id ∧ id ∉ seen ∧ ∃ entry ∈ span, entry.answers id := by
  rw [keptResult]
  split
  · rename_i wanted
    rw [Option.isSome_map, spanResult_isSome]
    exact ⟨fun found => ⟨wanted.1, wanted.2, found⟩, fun all => all.2.2⟩
  · rename_i unwanted
    refine iff_of_false (by simp) fun all => unwanted ⟨all.1, all.2.1⟩

/-- The ids answered after a turn, described without looking at the earlier ones. -/
theorem seenAfter_eq : seenAfter policy seen turn = seen ∪ turnIds policy turn := by
  unfold seenAfter turnIds
  cases errored : turn.1.isErrored with
  | false =>
    have has : turnHasAnswer policy seen turn = fun _ => true := by
      funext call
      simp [turnHasAnswer, errored]
    simp [has, answeredIds]
  | true =>
    cases policy with
    | drop =>
      have has : turnHasAnswer .drop seen turn = fun _ => false := by
        funext call
        simp [turnHasAnswer, errored]
      simp [has, answeredIds]
    | preserve =>
      ext id
      simp only [Finset.mem_union, if_true, answeredIds, List.mem_toFinset, List.mem_map,
        List.mem_filter, turnHasAnswer_preserve errored, keptResult_isSome, any_answers_iff]
      by_cases old : id ∈ seen
      · simp [old]
      · simp only [old, false_or]
        refine exists_congr fun call => and_congr_left fun same => and_congr_right fun own => ?_
        subst same
        exact ⟨fun all => all.2.2, fun found => ⟨⟨call, own, rfl⟩, old, found⟩⟩

/-- The look-ahead leaves an entry alone exactly when it is settled. -/
theorem not_unsettled_iff (isResult : entry.isToolResult) :
    ¬ entry.unsettled turn.1.calls seen ↔ entry.IsSettled seen turn := by
  cases entry with
  | other value => cases isResult
  | object message =>
    have isResult : message.isToolResult = true := isResult
    constructor
    · intro settled
      simp only [Entry.unsettled, Message.unsettled, isResult, true_and, not_forall, not_or, not_not]
        at settled
      obtain ⟨id, read, own, open', named⟩ := settled
      exact ⟨message, id, rfl, read, own, open', named⟩
    · rintro ⟨source, id, same, read, own, open', named⟩ unsettled
      obtain rfl := Entry.object.inj same
      rcases unsettled.2 id read with other | old | renamed
      · exact other own
      · exact open' old
      · exact renamed named

theorem forall_not_unsettled_iff :
    (¬ ∃ entry ∈ turn.2, entry.unsettled turn.1.calls seen) ↔
      ∀ entry ∈ turn.2, entry.isToolResult → entry.IsSettled seen turn := by
  simp only [not_exists, not_and]
  refine forall_congr' fun entry => imp_congr_right fun _ => ?_
  constructor
  · exact fun settled isResult => (not_unsettled_iff isResult).1 settled
  · intro settled unsettled
    have isResult : entry.isToolResult = true := by
      cases entry with
      | other value => cases unsettled
      | object message => exact unsettled.1
    exact (not_unsettled_iff isResult).2 (settled isResult) unsettled

theorem Entry.IsSettled.answers (settled : entry.IsSettled seen turn)
    (isResult : entry.isToolResult) : ∃ call ∈ turn.1.calls, call.id ∉ seen ∧ entry.answers call.id := by
  obtain ⟨message, id, rfl, read, own, open', -⟩ := settled
  obtain ⟨call, member, rfl⟩ := List.mem_map.1 own
  exact ⟨call, member, open', isResult, read⟩

/-- An answer to a call among settled results shows that the call is open. -/
theorem open_of_answered (settled : ∀ entry ∈ turn.2, entry.isToolResult → entry.IsSettled seen turn)
    (found : ∃ entry ∈ turn.2, entry.answers id) : id ∉ seen := by
  obtain ⟨entry, member, answers⟩ := found
  cases entry with
  | other value => cases answers
  | object message =>
    obtain ⟨call, -, open', same⟩ := (settled _ member answers.1).answers answers.1
    exact Message.answers_unique same answers ▸ open'

theorem nodup_filter_iff {ids : List String} {wanted : String → Bool} :
    (ids.filter wanted).Nodup ↔ ∀ id, wanted id → ids.count id ≤ 1 := by
  rw [List.nodup_iff_count_le_one]
  refine forall_congr' fun id => ?_
  by_cases want : wanted id
  · simp only [List.count_filter want, want, true_implies]
  · have absent : (ids.filter wanted).count id = 0 := by
      rw [List.count_eq_zero, List.mem_filter]
      exact fun both => want both.2
    simp [absent, want]

theorem not_turnTouched_preserve (errored : turn.1.isErrored = true) :
    ¬ TurnTouched .preserve seen turn ↔ SettledTurn .preserve seen turn := by
  have again : (∀ entry ∈ turn.2, entry.isToolResult → entry.IsSettled seen turn) →
      (¬ answersAgain (turnHasAnswer .preserve seen turn) turn.1.calls seen ↔
        ∀ id, (∃ entry ∈ turn.2, entry.answers id) → (turn.1.calls.map ToolCallLike.id).count id ≤ 1) := by
    intro settled
    have has_eq : turnHasAnswer .preserve seen turn =
        (fun id => (keptResult turn.1.calls seen turn.2 id).isSome) ∘ ToolCallLike.id :=
      funext fun call => turnHasAnswer_preserve errored call
    have openKept : ∀ call ∈ turn.1.calls, turnHasAnswer .preserve seen turn call = true →
        call.id ∉ seen := fun call _ has => by
      rw [turnHasAnswer_preserve errored, keptResult_isSome] at has
      exact has.2.1
    rw [answersAgain_iff, not_not, has_eq, ← List.filter_map, nodup_filter_iff]
    constructor
    · rintro ⟨once, -⟩ id found
      by_cases own : id ∈ turn.1.calls.map ToolCallLike.id
      · exact once id (keptResult_isSome.2 ⟨own, open_of_answered settled found, found⟩)
      · rw [List.count_eq_zero.2 own]
        exact Nat.zero_le 1
    · exact fun once => ⟨fun id kept => once id (keptResult_isSome.1 kept).2.2, has_eq ▸ openKept⟩
  unfold TurnTouched
  rw [not_or, forall_not_unsettled_iff, if_pos errored]
  constructor
  · rintro ⟨settled, once⟩
    exact ⟨settled, fun _ => ⟨fun _ => (again settled).1 once, by simp⟩, by simp [errored]⟩
  · exact fun settled => ⟨settled.results, (again settled.results).2 ((settled.errored errored).1 rfl)⟩

theorem not_turnTouched_drop (errored : turn.1.isErrored = true) :
    ¬ TurnTouched .drop seen turn ↔ SettledTurn .drop seen turn := by
  unfold TurnTouched
  rw [not_or, forall_not_unsettled_iff, if_pos errored]
  constructor
  · rintro ⟨settled, none⟩
    refine ⟨settled, fun _ => ⟨by simp, fun _ entry member isResult => none ?_⟩, by simp [errored]⟩
    obtain ⟨call, own, open', answers⟩ := (settled entry member isResult).answers isResult
    exact ⟨call.id, keptResult_isSome.2 ⟨List.mem_map_of_mem own, open', entry, member, answers⟩⟩
  · refine fun settled => ⟨settled.results, ?_⟩
    rintro ⟨id, kept⟩
    obtain ⟨-, -, entry, member, answers⟩ := keptResult_isSome.1 kept
    refine (settled.errored errored).2 rfl entry member ?_
    cases entry with
    | other value => cases answers
    | object message => exact answers.1

theorem Entry.isToolResult_of_answers (answers : entry.answers id) :
    entry.isToolResult := by
  cases entry with
  | other value => cases answers
  | object message => exact answers.1

theorem not_turnTouched_whole (whole : turn.1.isErrored = false) :
    ¬ TurnTouched policy seen turn ↔ SettledTurn policy seen turn := by
  have has_eq : turnHasAnswer policy seen turn = fun _ => true := by
    funext call
    simp [turnHasAnswer, whole]
  unfold TurnTouched
  rw [not_or, forall_not_unsettled_iff, if_neg (by simp [whole]), not_or, not_or, answersAgain_iff,
    not_not, has_eq, List.filter_true]
  constructor
  · rintro ⟨settled, inPlace, answered, distinct, -⟩
    refine ⟨settled, by simp [whole], fun _ => ⟨fun call own => ?_, distinct, ?_⟩⟩
    · have kept : (keptResult turn.1.calls seen turn.2 call.id).isSome := by
        rw [Option.isSome_iff_ne_none]
        exact fun none => answered ⟨call, own, none⟩
      exact (keptResult_isSome.1 kept).2.2
    · rintro ⟨entry, member, isResult⟩ other otherMember
      obtain ⟨call, own, open', answers⟩ := (settled entry member isResult).answers isResult
      by_contra notResult
      exact inPlace ⟨⟨call.id, keptResult_isSome.2
        ⟨List.mem_map_of_mem own, open', entry, member, answers⟩⟩, other, otherMember, notResult⟩
  · intro settled
    obtain ⟨answered, distinct, inPlace⟩ := settled.whole whole
    have openCalls : ∀ call ∈ turn.1.calls, call.id ∉ seen := fun call own =>
      open_of_answered settled.results (answered call own)
    refine ⟨settled.results, ?_, ?_, distinct, fun call own _ => openCalls call own⟩
    · rintro ⟨⟨id, kept⟩, other, otherMember, notResult⟩
      obtain ⟨-, -, entry, member, answers⟩ := keptResult_isSome.1 kept
      exact notResult (inPlace ⟨entry, member, Entry.isToolResult_of_answers answers⟩ other otherMember)
    · rintro ⟨call, own, none⟩
      have kept := keptResult_isSome.2
        ⟨List.mem_map_of_mem own, openCalls call own, answered call own⟩
      simp [none] at kept

/-- The pass records no change at a turn exactly when the turn is settled. -/
theorem not_turnTouched_iff : ¬ TurnTouched policy seen turn ↔ SettledTurn policy seen turn := by
  cases errored : turn.1.isErrored with
  | true =>
    cases policy with
    | preserve => exact not_turnTouched_preserve errored
    | drop => exact not_turnTouched_drop errored
  | false => exact not_turnTouched_whole errored

/-- A settled turn repeats no answered id. -/
theorem SettledTurn.fresh (settled : SettledTurn policy seen turn) : FreshTurn seen turn :=
  fun whole call own => open_of_answered settled.results ((settled.whole whole).1 call own)

/-- A settled turn has a result for every call, so none has to be made up. -/
theorem SettledTurn.clean (settled : SettledTurn policy seen turn) : CleanTurn turn := by
  intro whole before call after split _ unanswered
  obtain ⟨entry, member, answers⟩ := (settled.whole whole).1 call (by simp [split])
  exact absurd answers (unanswered entry member)

/-- The span of a settled turn that was not cut short is its results, or has none. -/
theorem SettledTurn.run_eq (settled : SettledTurn policy seen turn) (whole : turn.1.isErrored = false) :
    (turnRun turn = turn.2 ∧ turnRest turn = []) ∨ (turnRun turn = [] ∧ turnRest turn = turn.2 ∧
      ∀ entry ∈ turn.2, ¬ entry.isToolResult) := by
  by_cases results : ∃ entry ∈ turn.2, entry.isToolResult
  · have all := (settled.whole whole).2.2 results
    exact Or.inl ⟨List.takeWhile_eq_self_iff.2 all, List.dropWhile_eq_nil_iff.2 all⟩
  · simp only [not_exists, not_and] at results
    refine Or.inr ⟨?_, ?_, results⟩
    · rw [turnRun, List.takeWhile_eq_nil_iff]
      exact fun nonempty => results _ (List.getElem_mem nonempty)
    · rw [turnRest, List.dropWhile_eq_self_iff]
      exact fun nonempty => results _ (List.getElem_mem nonempty)

theorem SettledTurn.prefersReal (settled : SettledTurn policy seen turn) : PrefersReal turn turn := by
  rintro whole call own ⟨entry, member, answers⟩
  have isResult := Entry.isToolResult_of_answers answers
  obtain ⟨message, id, rfl, read, -, -, named⟩ := settled.results entry member isResult
  refine ⟨message, toolCallName turn.1.calls id, member, answers, ?_⟩
  rcases settled.run_eq whole with ⟨run, -⟩ | ⟨-, -, none⟩
  · rw [named, run]
    exact member
  · exact absurd isResult (none _ member)

/-- A settled turn is paired exactly when it is tidy. -/
theorem SettledTurn.paired_iff (settled : SettledTurn policy seen turn) :
    PairedTurn policy turn ↔ TidyTurn turn := by
  have countNone : (∀ entry ∈ turn.2, ¬ entry.isToolResult) → ∀ id,
      turn.2.countP (fun entry => entry.answers id) = 0 := fun none id => by
    rw [List.countP_eq_zero]
    intro entry member
    rw [decide_eq_true_iff]
    exact fun answers => none entry member (Entry.isToolResult_of_answers answers)
  constructor
  · intro paired
    refine ⟨fun whole call own => ?_, fun _ => paired.rest⟩
    rcases settled.run_eq whole with ⟨run, -⟩ | ⟨-, -, none⟩
    · rw [← run, paired.answered whole call own]
    · rw [countNone none]
      exact Nat.zero_le 1
  · intro tidy
    refine ⟨fun whole call own => ?_, fun entry member => ?_, ?_⟩
    · obtain ⟨entry, member, answers⟩ := (settled.whole whole).1 call own
      rcases settled.run_eq whole with ⟨run, -⟩ | ⟨-, -, none⟩
      · rw [run]
        refine le_antisymm (tidy.1 whole call own) (List.countP_pos_iff.2 ⟨entry, member, ?_⟩)
        exact decide_eq_true answers
      · exact absurd (Entry.isToolResult_of_answers answers) (none entry member)
    · have isResult : entry.isToolResult = true := List.mem_takeWhile_imp member
      have inSpan : entry ∈ turn.2 := (List.takeWhile_prefix _).subset member
      obtain ⟨call, own, -, answers⟩ := (settled.results entry inSpan isResult).answers isResult
      refine ⟨⟨call, own, answers⟩, fun errored => ?_⟩
      cases policy with
      | preserve => rfl
      | drop => exact absurd isResult ((settled.errored errored).2 rfl entry inSpan)
    · cases errored : turn.1.isErrored with
      | true => exact tidy.2 errored
      | false =>
        rcases settled.run_eq errored with ⟨-, rest⟩ | ⟨-, rest, none⟩
        · simp [rest]
        · rw [rest]
          exact none

end OneTurn

/-! ### The whole list -/

section Run

variable {policy : ErroredAssistantResultPolicy} {turns repaired : List Turn} {seen : Finset String}
variable {messages : List Entry}

theorem turnsTouched_iff {turns : List Turn} : ∀ {seen : Finset String},
    ¬ TurnsTouched policy seen turns ↔ AlongTurns policy (SettledTurn policy) seen turns := by
  induction turns with
  | nil => simp [TurnsTouched, AlongTurns]
  | cons turn rest inductionHypothesis =>
    intro seen
    rw [TurnsTouched, not_or, not_turnTouched_iff, inductionHypothesis, seenAfter_eq, AlongTurns]

/-- The repaired turns are paired exactly when no turn repeats an answered id. -/
theorem RepairsTo.paired_iff (repairs : RepairsTo policy seen turns repaired) :
    (∀ turn ∈ repaired, PairedTurn policy turn) ↔ AlongTurns policy FreshTurn seen turns := by
  induction repairs with
  | nil => simp [AlongTurns]
  | cons times tail inductionHypothesis =>
    rw [List.forall_mem_cons, pairedTurn_repairedTurn_iff, inductionHypothesis, AlongTurns, seenAfter_eq]

theorem RepairsTo.preferred (repairs : RepairsTo policy seen turns repaired) :
    AlongTurns policy FreshTurn seen turns → List.Forall₂ PrefersReal turns repaired := by
  induction repairs with
  | nil => exact fun _ => .nil
  | cons times tail inductionHypothesis =>
    rintro ⟨fresh, rest⟩
    exact .cons (prefersReal_repairedTurn fresh) (inductionHypothesis (seenAfter_eq ▸ rest))

/-- The repaired turns keep their names exactly when the calls without a result have clean ones. -/
theorem RepairsTo.normal_iff (repairs : RepairsTo policy seen turns repaired) :
    AlongTurns policy FreshTurn seen turns →
      ((∀ turn ∈ repaired, NormalTurn turn) ↔ ∀ turn ∈ turns, CleanTurn turn) := by
  induction repairs with
  | nil => simp
  | cons times tail inductionHypothesis =>
    rintro ⟨fresh, rest⟩
    rw [List.forall_mem_cons, List.forall_mem_cons, normalTurn_repairedTurn_iff fresh,
      inductionHypothesis (seenAfter_eq ▸ rest)]

/-- Repairing the repaired turns changes none of them exactly when no result would be renamed. -/
theorem RepairsTo.again_iff
    (repairs : RepairsTo policy seen turns repaired) : ∀ {again : List Turn},
      RepairsTo policy seen repaired again →
        (again = repaired ↔ ∀ turn ∈ repaired, NormalTurn turn) := by
  induction repairs with
  | nil =>
    intro again secondRepairs
    cases secondRepairs
    simp
  | cons times tail inductionHypothesis =>
    intro again secondRepairs
    cases secondRepairs with
    | cons secondTimes secondTail =>
      rw [seenAfter_repairedTurn] at secondTail
      rw [List.cons.injEq, repairedTurn_again_iff, inductionHypothesis secondTail,
        List.forall_mem_cons]

/-- The repaired turns are shaped as the turns were, behind a preamble without results. -/
theorem RepairsTo.shaped (repairs : RepairsTo policy seen turns repaired) :
    ∀ {preamble : List Entry}, Sections.Shaped Entry.isAssistant preamble turns →
      Sections.Shaped Entry.isAssistant (preamble.filter (!·.isToolResult)) repaired := by
  have unmarked : ∀ {entries : List Entry}, (∀ entry ∈ entries, entry.isAssistant = false) →
      ∀ entry ∈ entries.filter (!·.isToolResult), entry.isAssistant = false :=
    fun all entry member => all entry (List.mem_filter.1 member).1
  induction repairs with
  | nil => exact fun shaped => ⟨unmarked shaped.preamble, by simp, by simp⟩
  | @cons seen turn rest repaired times tail inductionHypothesis =>
    intro preamble shaped
    have restShaped := inductionHypothesis shaped.tail
    refine ⟨unmarked shaped.preamble, ?_, ?_⟩
    · rw [List.forall_mem_cons]
      exact ⟨shaped.heads turn List.mem_cons_self, restShaped.heads⟩
    · rw [List.forall_mem_cons]
      refine ⟨fun entry member => ?_, restShaped.bodies⟩
      rcases List.mem_append.1 member with written | other
      · cases assistant : entry.isAssistant with
        | false => rfl
        | true =>
          have isResult := isToolResult_of_mem_written written
          rw [Entry.isToolResult_eq_false assistant] at isResult
          cases isResult
      · exact unmarked (shaped.bodies turn List.mem_cons_self) entry other

/-- Results apart, the repaired list is the list. -/
theorem RepairsTo.kept {seen : Finset String} {turns repaired : List Turn}
    (repairs : RepairsTo policy seen turns repaired) (preamble : List Entry) :
    (Sections.join (preamble.filter (!·.isToolResult)) repaired).filter (!·.isToolResult) =
      (Sections.join preamble turns).filter (!·.isToolResult) := by
  induction repairs generalizing preamble with
  | nil => simp [Sections.join]
  | @cons seen turn rest repaired times tail inductionHypothesis =>
    have dropped : ((turnAnswers policy times seen turn).map Entry.object).filter (!·.isToolResult) =
        [] := by
      rw [List.filter_eq_nil_iff]
      intro entry member
      simpa using isToolResult_of_mem_written member
    have restKept := inductionHypothesis turn.2
    have whole : Sections.join (repairedTurn policy times seen turn).2 repaired =
        (turnAnswers policy times seen turn).map Entry.object ++
          Sections.join (turn.2.filter (!·.isToolResult)) repaired := by
      simp [repairedTurn, Sections.join]
    rw [Sections.join_cons, Sections.join_cons, whole]
    simp only [List.filter_append, List.filter_cons, dropped, List.nil_append, restKept,
      List.filter_filter, Bool.and_self, repairedTurn_head]

theorem repair_touched_iff (now : Nat → Int) (messages : List Entry) :
    (repairFrom policy now messages 0 {}).touched ↔ ¬ SettledTranscript policy messages := by
  obtain ⟨repaired, -, -, touched⟩ := repairFrom_eq policy now messages
  rw [touched, ← not_iff_not, not_not, not_or, turnsTouched_iff]
  simp only [SettledTranscript, not_exists, not_and, transcriptPreamble, transcriptTurns]

/-- The list the repair returns. -/
theorem repair_messages (now : Nat → Int) (messages : List Entry) :
    (SettledTranscript policy messages →
      (repairToolUseResultPairing policy now messages).messages = messages) ∧
    (¬ SettledTranscript policy messages → ∃ repaired,
      RepairsTo policy ∅ (transcriptTurns messages) repaired ∧
      (repairToolUseResultPairing policy now messages).messages =
        Sections.join ((transcriptPreamble messages).filter (!·.isToolResult)) repaired) := by
  have touched : (repairFrom policy now messages 0 {}).touched ↔ ¬ SettledTranscript policy messages :=
    repair_touched_iff now messages
  obtain ⟨repaired, repairs, out, -⟩ := repairFrom_eq policy now messages
  have returned : (repairToolUseResultPairing policy now messages).messages =
      if ((repairFrom policy now messages 0 {}).changed || (repairFrom policy now messages 0 {}).moved)
        then (repairFrom policy now messages 0 {}).out else messages := rfl
  have decided : ((repairFrom policy now messages 0 {}).changed ||
      (repairFrom policy now messages 0 {}).moved) = true ↔ ¬ SettledTranscript policy messages := by
    rw [← touched, PairingState.touched, Bool.or_eq_true]
  constructor
  · intro settled
    rw [returned, if_neg fun changed => decided.1 changed settled]
  · intro unsettled
    refine ⟨repaired, repairs, ?_⟩
    rw [returned, if_pos (decided.2 unsettled), out]
    rfl

theorem AlongTurns.mono {weaker stronger : Finset String → Turn → Prop}
    (implies : ∀ seen turn, stronger seen turn → weaker seen turn) {turns : List Turn} :
    ∀ {seen : Finset String}, AlongTurns policy stronger seen turns →
      AlongTurns policy weaker seen turns := by
  induction turns with
  | nil => exact fun _ => trivial
  | cons turn rest inductionHypothesis =>
    exact fun along => ⟨implies _ _ along.1, inductionHypothesis along.2⟩

theorem AlongTurns.exists_of_mem {property : Finset String → Turn → Prop} {turns : List Turn} :
    ∀ {seen : Finset String}, AlongTurns policy property seen turns →
      ∀ turn ∈ turns, ∃ earlier, property earlier turn := by
  induction turns with
  | nil => exact fun _ turn member => by cases member
  | cons first rest inductionHypothesis =>
    intro seen along
    rw [List.forall_mem_cons]
    exact ⟨⟨seen, along.1⟩, inductionHypothesis along.2⟩

theorem SettledTurn.normal {turn : Turn}
    (settled : SettledTurn policy seen turn) : NormalTurn turn := by
  intro message id member answers
  obtain ⟨source, found, same, read, -, -, named⟩ := settled.results _ member answers.1
  obtain rfl := Entry.object.inj same
  obtain rfl := Message.answers_unique ⟨answers.1, read⟩ answers
  exact named

/-- A list without anything to repair is a repaired one exactly when its turns are tidy. -/
theorem repairedFrom_self_iff (settled : SettledTranscript policy messages) :
    RepairedFrom policy messages messages ↔ ∀ turn ∈ transcriptTurns messages, TidyTurn turn := by
  constructor
  · intro repaired turn member
    obtain ⟨earlier, settledTurn⟩ := settled.2.exists_of_mem turn member
    exact settledTurn.paired_iff.1 (repaired.paired turn member)
  · intro tidy
    refine ⟨fun turn member => ?_, settled.1, rfl, ?_⟩
    · obtain ⟨earlier, settledTurn⟩ := settled.2.exists_of_mem turn member
      exact settledTurn.paired_iff.2 (tidy turn member)
    · rw [List.forall₂_same]
      intro turn member
      obtain ⟨earlier, settledTurn⟩ := settled.2.exists_of_mem turn member
      exact settledTurn.prefersReal

/-- The pass cuts its own output where it cut the list. -/
theorem cut_repaired (repairs : RepairsTo policy ∅ (transcriptTurns messages) repaired) :
    Sections.cut Entry.isAssistant
        (Sections.join ((transcriptPreamble messages).filter (!·.isToolResult)) repaired) =
      ((transcriptPreamble messages).filter (!·.isToolResult), repaired) :=
  Sections.cut_join (repairs.shaped (Sections.shaped_cut messages))

/-- What the pass writes is a repaired list exactly when no turn repeats an answered id. -/
theorem repairedFrom_written_iff
    (repairs : RepairsTo policy ∅ (transcriptTurns messages) repaired) :
    RepairedFrom policy messages
        (Sections.join ((transcriptPreamble messages).filter (!·.isToolResult)) repaired) ↔
      AlongTurns policy FreshTurn ∅ (transcriptTurns messages) := by
  have turns_eq : transcriptTurns (Sections.join
      ((transcriptPreamble messages).filter (!·.isToolResult)) repaired) = repaired :=
    congrArg Prod.snd (cut_repaired repairs)
  have preamble_eq : transcriptPreamble (Sections.join
      ((transcriptPreamble messages).filter (!·.isToolResult)) repaired) =
        (transcriptPreamble messages).filter (!·.isToolResult) :=
    congrArg Prod.fst (cut_repaired repairs)
  rw [← repairs.paired_iff]
  constructor
  · intro output
    have paired := output.paired
    rwa [turns_eq] at paired
  · intro paired
    refine ⟨by rwa [turns_eq], ?_, ?_, ?_⟩
    · rw [preamble_eq]
      intro entry member
      simpa using (List.mem_filter.1 member).2
    · have whole : Sections.join (transcriptPreamble messages) (transcriptTurns messages) = messages :=
        Sections.join_cut messages
      rw [repairs.kept, whole]
    · rw [turns_eq]
      exact repairs.preferred (repairs.paired_iff.1 paired)

/-- Repairing what the pass has written changes nothing exactly when no result would be renamed. -/
theorem repair_written_iff (later : Nat → Int)
    (repairs : RepairsTo policy ∅ (transcriptTurns messages) repaired) :
    (repairToolUseResultPairing policy later (Sections.join
        ((transcriptPreamble messages).filter (!·.isToolResult)) repaired)).messages =
      Sections.join ((transcriptPreamble messages).filter (!·.isToolResult)) repaired ↔
      ∀ turn ∈ repaired, NormalTurn turn := by
  obtain ⟨output, output_eq⟩ : ∃ output, output =
    Sections.join ((transcriptPreamble messages).filter (!·.isToolResult)) repaired := ⟨_, rfl⟩
  have cutOutput : Sections.cut Entry.isAssistant output =
      ((transcriptPreamble messages).filter (!·.isToolResult), repaired) :=
    output_eq ▸ cut_repaired repairs
  have turns_eq : transcriptTurns output = repaired := congrArg Prod.snd cutOutput
  have preamble_eq : (transcriptPreamble output).filter (!·.isToolResult) =
      (transcriptPreamble messages).filter (!·.isToolResult) := by
    rw [transcriptPreamble, cutOutput, List.filter_filter]
    simp only [Bool.and_self]
  rw [← output_eq]
  by_cases settled : SettledTranscript policy output
  · refine iff_of_true ((repair_messages later output).1 settled) fun turn member => ?_
    obtain ⟨earlier, settledTurn⟩ := settled.2.exists_of_mem turn (turns_eq ▸ member)
    exact settledTurn.normal
  · obtain ⟨again, againRepairs, returned⟩ := (repair_messages later output).2 settled
    rw [turns_eq] at againRepairs
    rw [returned, preamble_eq, ← repairs.again_iff againRepairs]
    constructor
    · intro same
      have againTurns : RepairsTo policy ∅ (transcriptTurns output) again := turns_eq ▸ againRepairs
      have cutAgain := cut_repaired againTurns
      rw [preamble_eq, same, cutOutput] at cutAgain
      exact (congrArg Prod.snd cutAgain).symm
    · rintro rfl
      exact output_eq.symm

end Run

/-! ### When the repair succeeds -/

/-- The pass returns a transcript whose calls and results are paired, and that another pass
leaves alone, exactly for the lists in `Repairable`. -/
theorem repair_succeeds_iff (policy : ErroredAssistantResultPolicy) (now : Nat → Int)
    (messages : List Entry) :
    (RepairedFrom policy messages (repairToolUseResultPairing policy now messages).messages ∧
      ∀ later, (repairToolUseResultPairing policy later
        (repairToolUseResultPairing policy now messages).messages).messages =
          (repairToolUseResultPairing policy now messages).messages) ↔
      Repairable policy messages := by
  by_cases settled : SettledTranscript policy messages
  · have returned : ∀ time, (repairToolUseResultPairing policy time messages).messages = messages :=
      fun time => (repair_messages time messages).1 settled
    rw [returned, repairedFrom_self_iff settled]
    constructor
    · rintro ⟨tidy, -⟩
      refine ⟨settled.2.mono fun seen turn => SettledTurn.fresh, fun turn member => ?_, fun _ => tidy⟩
      obtain ⟨earlier, settledTurn⟩ := settled.2.exists_of_mem turn member
      exact settledTurn.clean
    · exact fun repairable => ⟨repairable.tidy settled, returned⟩
  · obtain ⟨repaired, repairs, returned⟩ := (repair_messages now messages).2 settled
    rw [returned, repairedFrom_written_iff repairs]
    constructor
    · rintro ⟨fresh, stays⟩
      refine ⟨fresh, ?_, fun impossible => absurd impossible settled⟩
      exact (repairs.normal_iff fresh).1 ((repair_written_iff now repairs).1 (stays now))
    · intro repairable
      refine ⟨repairable.fresh, fun later => ?_⟩
      exact (repair_written_iff later repairs).2
        ((repairs.normal_iff repairable.fresh).2 repairable.clean)

/-- Two turns whose calls use the same id, each with its result. -/
def reusedIdTranscript : List Entry :=
  [.object (turnCalling ["a"] "toolUse"), .object (resultFor "a"),
    .object (turnCalling ["a"] "toolUse"), .object (resultFor "a")]

/-- A turn whose call has two results. -/
def duplicateResultTranscript : List Entry :=
  [.object (turnCalling ["a"] "toolUse"), .object { resultFor "a" with toolName := .string "read" },
    .object { resultFor "a" with toolName := .string "read" }]

/-- The second turn with a reused id is left without a result, and a duplicate result is kept when
it is all there is to repair. -/
theorem reused_ids_and_duplicates_are_not_repaired :
    ¬ RepairedFrom .preserve reusedIdTranscript
        (repairToolUseResultPairing .preserve (fun _ => 0) reusedIdTranscript).messages ∧
      ¬ RepairedFrom .preserve duplicateResultTranscript
        (repairToolUseResultPairing .preserve (fun _ => 0) duplicateResultTranscript).messages := by
  constructor
  · intro repaired
    have secondTurn := repaired.paired (.object (turnCalling ["a"] "toolUse"), []) (by decide +kernel)
    have once := secondTurn.answered rfl ⟨"a", some "read"⟩ (by decide +kernel)
    revert once
    decide +kernel
  · intro repaired
    have onlyTurn := repaired.paired (.object (turnCalling ["a"] "toolUse"),
      [.object { resultFor "a" with toolName := .string "read" },
        .object { resultFor "a" with toolName := .string "read" }]) (by decide +kernel)
    have once := onlyTurn.answered rfl ⟨"a", some "read"⟩ (by decide +kernel)
    revert once
    decide +kernel

end OpenClaw.Transcript
