/-
This file says when the merge of the turn validation loses nothing.

A merged list stands for its runs: the neighbouring messages of one role become one
message with all their content, every other entry stays. The loop agrees with that as
long as it joins nothing but messages of the role, and an entry without a role can come
between: the role seen last is then still the one before it, and the entry is taken for
the message to merge with. Each such join is one entry fewer than there are runs, which
is how the loss shows. The merge itself keeps the arrays of blocks and nothing of a
content that is a plain string.
-/

import OpenClaw.Base.Runs
import OpenClaw.Transcript.TurnValidation

namespace OpenClaw.Turns

open Transcript (Value)
open Runs

/-! ### What a merged list has to be -/

/-- The content of a message as blocks, a plain string as the text block it stands for. -/
def Content.pieces : Content → List ContentItem
  | .array items => items
  | .other (.string text) =>
    if text = "" then [] else [.block { type := .string "text", text := .string text }]
  | .other _ => []

def Entry.content : Entry → Content
  | .object message => message.content
  | .other _ => .other .undefined

def Entry.pieces (entry : Entry) : List ContentItem := entry.content.pieces

/-- No two neighbours are messages of a role. -/
def NoAdjacent (role : String) (messages : List Entry) : Prop :=
  messages.IsChain fun left right => (left.hasRole role && right.hasRole role) = false

/-- What stands for a run: the entry, when it is the only one; else a message of the role with
the content of all. -/
def Replaces (role : String) (single : Entry × List Entry → Entry → Prop) :
    List (Entry × List Entry) → Entry → Prop
  | [turn], out => single turn out
  | run, out => out.hasRole role = true ∧ out.pieces = run.flatMap fun turn => turn.1.pieces

/-- Every entry with the list after it. -/
def withLater : List Entry → List (Entry × List Entry)
  | [] => []
  | entry :: later => (entry, later) :: withLater later

/-- Whether two neighbours are messages of a role. -/
def both (role : String) (left right : Entry) : Bool := left.hasRole role && right.hasRole role

def bothTurns (role : String) (left right : Entry × List Entry) : Bool := both role left.1 right.1

/-! ### When it is -/

/-- The role the loop has seen last. -/
def roleAfter (lastRole : Value) : Entry → Value
  | .object message => if isTruthy message.role then message.role else lastRole
  | .other _ => lastRole

def lastRole (entries : List Entry) : Value := entries.foldl roleAfter .undefined

/-- A content that is a plain string, and not the empty one. -/
def Content.isPlainText : Content → Bool
  | .other (.string text) => text ≠ ""
  | _ => false

/-- No entry without a role stands between two messages of the role, directly before the second,
and none of the messages that are merged has a plain string for its content. -/
structure MergesCleanly (role : String) (messages : List Entry) : Prop where
  noRoleless : ∀ before entry next after, messages = before ++ entry :: next :: after →
    entry.isObject = true → entry.hasRole role = false → next.hasRole role = true →
      lastRole (before ++ [entry]) ≠ .string role
  noPlainText : ∀ run ∈ messages.splitBy (both role), 2 ≤ run.length →
    ∀ entry ∈ run, entry.content.isPlainText = false

/-! ### The loop, from the entry in hand -/

/-- Whether the loop merges an entry into the one before it. -/
def joins (role : String) (lastRole : Value) (last next : Entry) : Bool :=
  next.hasRole role && lastRole = .string role && last.isObject

def mergeEntries (merge : Message → Message → Message) : Entry → Entry → Entry
  | .object previous, .object current => .object (merge previous current)
  | previous, _ => previous

/-- What the loop makes of the rest of the list, with the last entry of the result in hand. -/
def mergeFrom (role : String) (merge : Message → Message → Message) :
    Value → Entry → List Entry → List Entry
  | _, last, [] => [last]
  | lastRole, last, next :: rest =>
    if joins role lastRole last next then
      mergeFrom role merge lastRole (mergeEntries merge last next) rest
    else last :: mergeFrom role merge (roleAfter lastRole next) next rest

/-- How many entries without the role the loop merges messages into. -/
def swallowed (role : String) : Value → Entry → List Entry → Nat
  | _, _, [] => 0
  | lastRole, last, next :: rest =>
    (if joins role lastRole last next && !last.hasRole role then 1 else 0) +
      swallowed role (roleAfter lastRole next) next rest

/-- The message a run is merged to. -/
def mergeRun (merge : Message → Message → Message) : List Entry → Entry
  | [] => .other .undefined
  | first :: rest => rest.foldl (mergeEntries merge) first

variable {role : String}

theorem joins_spec {seen : Value} {last next : Entry} (joined : joins role seen last next = true) :
    next.hasRole role = true ∧ seen = .string role ∧ last.isObject = true := by
  rw [joins, Bool.and_eq_true, Bool.and_eq_true, decide_eq_true_iff] at joined
  exact ⟨joined.1.1, joined.1.2, joined.2⟩

theorem isObject_mergeEntries (merge : Message → Message → Message) {last next : Entry}
    (lastObject : last.isObject = true) (nextObject : next.isObject = true) :
    (mergeEntries merge last next).isObject = true := by
  cases last with
  | other value => cases lastObject
  | object last =>
    cases next with
    | other value => cases nextObject
    | object next => rfl

theorem isObject_of_hasRole {entry : Entry} (ofRole : entry.hasRole role = true) :
    entry.isObject = true := by
  cases entry with
  | object message => rfl
  | other value => cases ofRole

/-- An entry with the role is joined with exactly when it is the first of two messages of it. -/
theorem joins_eq_both {seen : Value} {last : Entry}
    (coherent : last.hasRole role = true → seen = .string role)
    (ofRole : last.hasRole role = true) (next : Entry) :
    joins role seen last next = both role last next := by
  rw [joins, both, ofRole, isObject_of_hasRole ofRole, Bool.and_true, Bool.true_and,
    decide_eq_true (coherent ofRole), Bool.and_true]

theorem mergeRun_concat (merge : Message → Message → Message) {run : List Entry}
    (nonempty : run ≠ []) (next : Entry) :
    mergeRun merge (run ++ [next]) = mergeEntries merge (mergeRun merge run) next := by
  cases run with
  | nil => exact absurd rfl nonempty
  | cons first rest =>
    rw [List.cons_append, mergeRun, mergeRun, List.foldl_append]
    rfl

section Loop

variable (named : role ≠ "") {merge : Message → Message → Message}

include named

theorem mergeStep_append (before : List Entry) (last : Entry) (seen : Value) (next : Entry) :
    mergeStep role merge (before ++ [last], seen) next =
      if joins role seen last next then (before ++ [mergeEntries merge last next], seen)
      else (before ++ [last] ++ [next], roleAfter seen next) := by
  cases next with
  | other value => rfl
  | object message =>
    rw [mergeStep]
    dsimp only
    by_cases truthy : isTruthy message.role = true
    swap
    · have apart : joins role seen last (.object message) = false := by
        rw [joins, Entry.hasRole]
        have other : message.role ≠ .string role := fun same =>
          truthy (by rw [same, isTruthy, decide_eq_true named])
        rw [decide_eq_false other, Bool.false_and, Bool.false_and]
      rw [apart, if_neg Bool.false_ne_true, roleAfter, if_neg truthy,
        if_pos (by rw [Bool.eq_false_iff.2 truthy]; rfl)]
    · rw [if_neg (by rw [truthy]; exact Bool.false_ne_true), roleAfter, if_pos truthy]
      by_cases same : message.role = seen ∧ seen = .string role
      · rw [if_pos same, List.getLast?_concat, List.dropLast_concat, joins, Entry.hasRole,
          decide_eq_true (same.1.trans same.2), decide_eq_true same.2, Bool.true_and, Bool.true_and]
        cases last with
        | object last => rfl
        | other value => rfl
      · rw [if_neg same, if_neg]
        rw [joins, Entry.hasRole, Bool.and_eq_true, Bool.and_eq_true, decide_eq_true_iff,
          decide_eq_true_iff]
        exact fun joined => same ⟨joined.1.1.trans joined.1.2.symm, joined.1.2⟩

theorem foldl_mergeStep (before : List Entry) (last : Entry) (seen : Value) (rest : List Entry) :
    (rest.foldl (mergeStep role merge) (before ++ [last], seen)).1 =
      before ++ mergeFrom role merge seen last rest := by
  induction rest generalizing before last seen with
  | nil => rfl
  | cons next rest inductionHypothesis =>
    rw [List.foldl_cons, mergeStep_append named, mergeFrom]
    split
    · exact inductionHypothesis _ _ _
    · rw [inductionHypothesis, List.append_assoc, List.singleton_append]

theorem validateTurns_cons (first : Entry) (rest : List Entry) :
    validateTurnsWithConsecutiveMerge role merge (first :: rest) =
      mergeFrom role merge (roleAfter .undefined first) first rest := by
  have begun : mergeStep role merge ([], .undefined) first =
      ([] ++ [first], roleAfter .undefined first) := by
    cases first with
    | other value => rfl
    | object message =>
      rw [mergeStep, roleAfter]
      dsimp only
      by_cases truthy : isTruthy message.role = true
      · rw [if_neg (by rw [truthy]; exact Bool.false_ne_true), if_pos truthy, if_neg nofun]
      · rw [if_neg truthy, if_pos (by rw [Bool.eq_false_iff.2 truthy]; rfl)]
  rw [validateTurnsWithConsecutiveMerge, List.foldl_cons, begun, foldl_mergeStep named,
    List.nil_append]

theorem roleAfter_of_hasRole {entry : Entry} (ofRole : entry.hasRole role = true) (seen : Value) :
    roleAfter seen entry = .string role := by
  cases entry with
  | other value => cases ofRole
  | object message =>
    have same : message.role = .string role := of_decide_eq_true ofRole
    rw [roleAfter, same, isTruthy, decide_eq_true named, if_pos rfl]

/-- Each join with an entry that has not the role is a run the result does not have. -/
theorem length_mergeFrom {seen : Value} {last previous : Entry} {rest : List Entry}
    (done : List Entry) (sameKind : last.isObject = previous.isObject)
    (coherent : previous.hasRole role = true → seen = .string role) :
    (mergeFrom role merge seen last rest).length + swallowed role seen previous rest =
      (runsFrom (both role) done previous rest).length := by
  induction rest generalizing seen last previous done with
  | nil => rw [runsFrom_nil]; rfl
  | cons next rest inductionHypothesis =>
    have joinsSame : joins role seen last next = joins role seen previous next := by
      rw [joins, joins, sameKind]
    have coherentNext : next.hasRole role = true → roleAfter seen next = .string role :=
      fun ofRole => roleAfter_of_hasRole named ofRole seen
    rw [mergeFrom, swallowed, joinsSame]
    cases joined : joins role seen previous next with
    | true =>
      obtain ⟨nextRole, sameRole, object⟩ := joins_spec joined
      have seenRole : roleAfter seen next = seen := by
        rw [roleAfter_of_hasRole named nextRole, sameRole]
      have merged : (mergeEntries merge last next).isObject = next.isObject := by
        rw [isObject_of_hasRole nextRole]
        exact isObject_mergeEntries merge (sameKind.trans object) (isObject_of_hasRole nextRole)
      rw [if_pos rfl, seenRole]
      cases ofRole : previous.hasRole role with
      | true =>
        rw [runsFrom_cons_of_related (both role)
          ((joins_eq_both coherent ofRole next).symm.trans joined)]
        have := inductionHypothesis (previous :: done) merged (seenRole ▸ coherentNext)
        rw [Bool.not_true, Bool.and_false, if_neg Bool.false_ne_true]
        omega
      | false =>
        rw [runsFrom_cons_of_not (both role) (by rw [both, ofRole, Bool.false_and])]
        have := inductionHypothesis [] merged (seenRole ▸ coherentNext)
        rw [Bool.not_false, Bool.and_true, if_pos rfl, List.length_cons]
        omega
    | false =>
      have apart : both role previous next = false := by
        cases ofRole : previous.hasRole role with
        | true => rw [← joins_eq_both coherent ofRole, joined]
        | false => rw [both, ofRole, Bool.false_and]
      rw [if_neg Bool.false_ne_true, runsFrom_cons_of_not (both role) apart, Bool.false_and,
        if_neg Bool.false_ne_true, List.length_cons, List.length_cons]
      have := inductionHypothesis [] (rfl : next.isObject = next.isObject) coherentNext
      omega

/-- Without such joins the loop merges each run. -/
theorem mergeFrom_eq_map {seen : Value} {last previous : Entry} {rest done : List Entry}
    (clean : swallowed role seen previous rest = 0)
    (made : last = mergeRun merge (previous :: done).reverse)
    (sameKind : last.isObject = previous.isObject)
    (coherent : previous.hasRole role = true → seen = .string role) :
    mergeFrom role merge seen last rest =
      (runsFrom (both role) done previous rest).map (mergeRun merge) := by
  induction rest generalizing seen last previous done with
  | nil => rw [runsFrom_nil, List.map_singleton, mergeFrom, made]
  | cons next rest inductionHypothesis =>
    have joinsSame : joins role seen last next = joins role seen previous next := by
      rw [joins, joins, sameKind]
    have coherentNext : next.hasRole role = true → roleAfter seen next = .string role :=
      fun ofRole => roleAfter_of_hasRole named ofRole seen
    rw [swallowed, Nat.add_eq_zero_iff] at clean
    rw [mergeFrom, joinsSame]
    cases joined : joins role seen previous next with
    | true =>
      obtain ⟨nextRole, sameRole, object⟩ := joins_spec joined
      have seenRole : roleAfter seen next = seen := by
        rw [roleAfter_of_hasRole named nextRole, sameRole]
      have merged : (mergeEntries merge last next).isObject = next.isObject := by
        rw [isObject_of_hasRole nextRole]
        exact isObject_mergeEntries merge (sameKind.trans object) (isObject_of_hasRole nextRole)
      have ofRole : previous.hasRole role = true := by
        by_contra other
        have taken := clean.1
        rw [joined, Bool.eq_false_iff.2 other, Bool.not_false, Bool.and_true, if_pos rfl] at taken
        exact absurd taken Nat.one_ne_zero
      have madeNext : mergeEntries merge last next =
          mergeRun merge (next :: previous :: done).reverse := by
        rw [made, ← mergeRun_concat merge (List.reverse_ne_nil_iff.2 (List.cons_ne_nil _ _)),
          ← List.reverse_cons]
      rw [if_pos rfl, runsFrom_cons_of_related (both role)
        ((joins_eq_both coherent ofRole next).symm.trans joined)]
      exact inductionHypothesis (seenRole ▸ clean.2) madeNext merged (seenRole ▸ coherentNext)
    | false =>
      have apart : both role previous next = false := by
        cases ofRole : previous.hasRole role with
        | true => rw [← joins_eq_both coherent ofRole, joined]
        | false => rw [both, ofRole, Bool.false_and]
      rw [if_neg Bool.false_ne_true, runsFrom_cons_of_not (both role) apart, List.map_cons, ← made]
      exact congrArg (last :: ·) (inductionHypothesis clean.2 rfl rfl coherentNext)

end Loop

/-- The loop swallows no entry exactly when none stands where it would be taken for a message
of the role. -/
theorem swallowed_eq_zero_iff (role : String) (seen : Value) (first : Entry) (rest : List Entry) :
    swallowed role (roleAfter seen first) first rest = 0 ↔
      ∀ before entry next after, first :: rest = before ++ entry :: next :: after →
        entry.isObject = true → entry.hasRole role = false → next.hasRole role = true →
          (before ++ [entry]).foldl roleAfter seen ≠ .string role := by
  induction rest generalizing seen first with
  | nil =>
    refine ⟨fun _ before entry next after split => ?_, fun _ => rfl⟩
    have lengths := congrArg List.length split
    simp only [List.length_append, List.length_cons, List.length_nil] at lengths
    omega
  | cons second rest inductionHypothesis =>
    rw [swallowed, Nat.add_eq_zero_iff, inductionHypothesis (roleAfter seen first) second]
    constructor
    · rintro ⟨here, later⟩ before entry next after split object other ofRole sameRole
      cases before with
      | cons head before =>
        obtain ⟨rfl, splitRest⟩ := List.cons.inj split
        exact later before entry next after splitRest object other ofRole sameRole
      | nil =>
        obtain ⟨rfl, splitRest⟩ := List.cons.inj split
        obtain ⟨rfl, -⟩ := List.cons.inj splitRest
        have seenRole : roleAfter seen first = .string role := sameRole
        rw [joins, ofRole, object, other, seenRole, decide_eq_true rfl] at here
        exact absurd here Nat.one_ne_zero
    · refine fun clean => ⟨?_, fun before entry next after split =>
        clean (first :: before) entry next after (by rw [split, List.cons_append])⟩
      rw [if_neg]
      rw [Bool.and_eq_true, joins, Bool.and_eq_true, Bool.and_eq_true, decide_eq_true_iff,
        Bool.not_eq_true']
      rintro ⟨⟨⟨ofRole, sameRole⟩, object⟩, other⟩
      exact clean [] first second rest rfl object other ofRole sameRole

/-! ### The content of a merged run -/

/-- What the code puts in the content of a merged message. -/
def MergesArrays (role : String) (merge : Message → Message → Message) : Prop :=
  ∀ previous current, previous.role = .string role → current.role = .string role →
    (merge previous current).role = .string role ∧
      (merge previous current).content = .array (previous.content.items ++ current.content.items)

theorem mergesArrays_assistant : MergesArrays "assistant" mergeConsecutiveAssistantTurns :=
  fun _ _ ofRole _ => ⟨ofRole, rfl⟩

theorem mergesArrays_user : MergesArrays "user" mergeConsecutiveUserTurns :=
  fun _ _ _ ofRole => ⟨ofRole, rfl⟩

variable {merge : Message → Message → Message}

theorem foldl_mergeEntries
    (arrays : MergesArrays role merge) {first : Message} {items : List ContentItem}
    (ofRole : first.role = .string role) (holds : first.content = .array items)
    {rest : List Entry} (allOfRole : ∀ entry ∈ rest, entry.hasRole role = true) :
    ∃ message, rest.foldl (mergeEntries merge) (.object first) = .object message ∧
      message.role = .string role ∧
      message.content = .array (items ++ rest.flatMap fun entry => entry.content.items) := by
  induction rest generalizing first items with
  | nil => exact ⟨first, rfl, ofRole, by rw [holds, List.flatMap_nil, List.append_nil]⟩
  | cons next rest inductionHypothesis =>
    obtain ⟨nextOfRole, restOfRole⟩ := List.forall_mem_cons.1 allOfRole
    cases next with
    | other value => cases nextOfRole
    | object next =>
      obtain ⟨mergedRole, mergedContent⟩ := arrays first next ofRole (of_decide_eq_true nextOfRole)
      obtain ⟨message, made, messageRole, content⟩ :=
        inductionHypothesis mergedRole mergedContent restOfRole
      refine ⟨message, made, messageRole, ?_⟩
      rw [content, holds, List.flatMap_cons, ← List.append_assoc]
      rfl

/-- A run of several is merged to a message of the role with the blocks of all its arrays. -/
theorem mergeRun_of_several
    (arrays : MergesArrays role merge) {run : List Entry} (several : 2 ≤ run.length)
    (allOfRole : ∀ entry ∈ run, entry.hasRole role = true) :
    (mergeRun merge run).hasRole role = true ∧
      (mergeRun merge run).pieces = run.flatMap fun entry => entry.content.items := by
  match run, several with
  | .object first :: .object second :: rest, _ =>
    obtain ⟨firstRole, allOfRole⟩ := List.forall_mem_cons.1 allOfRole
    obtain ⟨secondRole, restOfRole⟩ := List.forall_mem_cons.1 allOfRole
    obtain ⟨mergedRole, mergedContent⟩ :=
      arrays first second (of_decide_eq_true firstRole) (of_decide_eq_true secondRole)
    obtain ⟨message, made, messageRole, content⟩ :=
      foldl_mergeEntries arrays mergedRole mergedContent restOfRole
    have whole : mergeRun merge (.object first :: .object second :: rest) = .object message := made
    rw [whole]
    refine ⟨decide_eq_true messageRole, ?_⟩
    rw [Entry.pieces, Entry.content, content, Content.pieces, List.flatMap_cons, List.flatMap_cons,
      ← List.append_assoc]
    rfl
  | .other _ :: _, _ => cases allOfRole _ List.mem_cons_self
  | .object _ :: .other _ :: _, _ =>
    cases allOfRole _ (List.mem_cons_of_mem _ List.mem_cons_self)

/-- A content has a piece more than it has blocks exactly when it is plain text. -/
theorem length_pieces (content : Content) :
    content.pieces.length = content.items.length + if content.isPlainText then 1 else 0 := by
  cases content with
  | array items => rfl
  | other value =>
    cases value with
    | string text =>
      by_cases empty : text = ""
      · rw [Content.pieces, if_pos empty, Content.isPlainText, empty]; rfl
      · rw [Content.pieces, if_neg empty, Content.isPlainText, decide_eq_true empty]; rfl
    | _ => rfl

theorem pieces_of_not_plainText {content : Content} (structured : content.isPlainText = false) :
    content.pieces = content.items := by
  cases content with
  | array items => rfl
  | other value =>
    cases value with
    | string text =>
      rw [Content.isPlainText, decide_eq_false_iff_not, not_not] at structured
      rw [Content.pieces, if_pos structured, Content.items]
    | _ => rfl

/-- The arrays of a run are all its content exactly when none of its messages is plain text. -/
theorem items_eq_pieces_iff (run : List Entry) :
    (run.flatMap fun entry => entry.content.items) = run.flatMap Entry.pieces ↔
      ∀ entry ∈ run, entry.content.isPlainText = false := by
  constructor
  · intro same
    have counted : (run.flatMap Entry.pieces).length =
        (run.flatMap fun entry => entry.content.items).length +
          (run.filter fun entry => entry.content.isPlainText).length := by
      clear same
      induction run with
      | nil => rfl
      | cons entry run inductionHypothesis =>
        rw [List.flatMap_cons, List.flatMap_cons, List.length_append, List.length_append,
          inductionHypothesis, Entry.pieces, length_pieces, List.filter_cons]
        split
        · rw [List.length_cons]; omega
        · omega
    rw [same, Nat.left_eq_add, List.length_eq_zero_iff, List.filter_eq_nil_iff] at counted
    exact fun entry member => Bool.eq_false_iff.2 (counted entry member)
  · intro structured
    exact (List.flatMap_congr fun entry member =>
      pieces_of_not_plainText (structured entry member)).symm

/-! ### The result against the runs -/

def swallowedIn (role : String) : List Entry → Nat
  | [] => 0
  | first :: rest => swallowed role (roleAfter .undefined first) first rest

theorem swallowedIn_eq_zero_iff (role : String) (messages : List Entry) :
    swallowedIn role messages = 0 ↔
      ∀ before entry next after, messages = before ++ entry :: next :: after →
        entry.isObject = true → entry.hasRole role = false → next.hasRole role = true →
          lastRole (before ++ [entry]) ≠ .string role := by
  cases messages with
  | nil => exact ⟨fun _ before entry next after split => by simp at split, fun _ => rfl⟩
  | cons first rest => exact swallowed_eq_zero_iff role .undefined first rest

section Runs

variable (named : role ≠ "") (merge : Message → Message → Message)

include named

theorem length_validateTurns (messages : List Entry) :
    (validateTurnsWithConsecutiveMerge role merge messages).length + swallowedIn role messages =
      (messages.splitBy (both role)).length := by
  cases messages with
  | nil => rfl
  | cons first rest =>
    rw [validateTurns_cons named, splitBy_cons]
    exact length_mergeFrom named [] rfl fun ofRole => roleAfter_of_hasRole named ofRole _

theorem validateTurns_eq_map {messages : List Entry} (clean : swallowedIn role messages = 0) :
    validateTurnsWithConsecutiveMerge role merge messages =
      (messages.splitBy (both role)).map (mergeRun merge) := by
  cases messages with
  | nil => rfl
  | cons first rest =>
    rw [validateTurns_cons named, splitBy_cons]
    exact mergeFrom_eq_map named clean rfl rfl fun ofRole => roleAfter_of_hasRole named ofRole _

end Runs

/-- A run of several is made of messages of the role. -/
theorem hasRole_of_mem_run {messages run : List Entry}
    (member : run ∈ messages.splitBy (both role)) (several : 2 ≤ run.length) :
    ∀ entry ∈ run, entry.hasRole role = true := by
  intro entry inRun
  obtain ⟨next, related⟩ | ⟨previous, related⟩ :=
    neighbour_of_mem_run (both role) member several inRun
  · exact (Bool.and_eq_true_iff.1 related).1
  · exact (Bool.and_eq_true_iff.1 related).2

/-- A run that is merged to a message of the role begins and ends with one. -/
theorem hasRole_of_mergeRun
    {messages run : List Entry} (member : run ∈ messages.splitBy (both role))
    (ofRole : (mergeRun merge run).hasRole role = true) :
    ∀ entry ∈ run, entry.hasRole role = true := by
  match run, member with
  | [], _ => exact fun entry absent => absurd absent List.not_mem_nil
  | [only], _ =>
    intro entry inRun
    rw [List.mem_singleton] at inRun
    exact inRun ▸ ofRole
  | first :: second :: rest, member =>
    exact hasRole_of_mem_run member (by simp only [List.length_cons]; omega)

theorem noAdjacent_of_clean (named : role ≠ "")
    (merge : Message → Message → Message) {messages : List Entry}
    (clean : swallowedIn role messages = 0) :
    NoAdjacent role (validateTurnsWithConsecutiveMerge role merge messages) := by
  rw [NoAdjacent, validateTurns_eq_map named merge clean, List.isChain_map]
  refine (List.isChain_getLast_head_splitBy (both role) messages).imp_of_mem_imp ?_
  rintro left right leftMember rightMember ⟨leftNonempty, rightNonempty, apart⟩
  rw [Bool.eq_false_iff] at apart ⊢
  intro adjacent
  rw [Bool.and_eq_true] at adjacent
  refine apart (Bool.and_eq_true_iff.2 ⟨?_, ?_⟩)
  · exact hasRole_of_mergeRun leftMember adjacent.1 _ (List.getLast_mem leftNonempty)
  · exact hasRole_of_mergeRun rightMember adjacent.2 _ (List.head_mem rightNonempty)

theorem map_fst_withLater (messages : List Entry) :
    (withLater messages).map Prod.fst = messages := by
  induction messages with
  | nil => rfl
  | cons entry later inductionHypothesis => rw [withLater, List.map_cons, inductionHypothesis]

theorem mem_withLater {messages : List Entry} {turn : Entry × List Entry} :
    turn ∈ withLater messages ↔ ∃ before, messages = before ++ turn.1 :: turn.2 := by
  induction messages with
  | nil => simp [withLater]
  | cons entry later inductionHypothesis =>
    rw [withLater, List.mem_cons, inductionHypothesis]
    constructor
    · rintro (rfl | ⟨before, rfl⟩)
      · exact ⟨[], rfl⟩
      · exact ⟨entry :: before, rfl⟩
    · rintro ⟨before, split⟩
      cases before with
      | nil =>
        obtain ⟨rfl, rfl⟩ := List.cons.inj split
        exact Or.inl rfl
      | cons head before =>
        obtain ⟨rfl, rfl⟩ := List.cons.inj split
        exact Or.inr ⟨before, rfl⟩

/-- What is done to the messages before they are merged: nothing to those of the role, and
nothing the merge goes by. -/
structure Prepares (role : String) (prepare : Entry × List Entry → Entry) : Prop where
  same : ∀ turn, turn.1.hasRole role = true → prepare turn = turn.1
  hasRole : ∀ turn, (prepare turn).hasRole role = turn.1.hasRole role
  isObject : ∀ turn, (prepare turn).isObject = turn.1.isObject
  roleAfter : ∀ seen turn, Turns.roleAfter seen (prepare turn) = Turns.roleAfter seen turn.1

section Prepared

variable {prepare : Entry × List Entry → Entry} (prepares : Prepares role prepare)

include prepares

theorem Prepares.swallowedIn_map (turns : List (Entry × List Entry)) :
    swallowedIn role (turns.map prepare) = swallowedIn role (turns.map Prod.fst) := by
  have general : ∀ (rest : List (Entry × List Entry)) seen first,
      swallowed role (Turns.roleAfter seen (prepare first)) (prepare first) (rest.map prepare) =
        swallowed role (Turns.roleAfter seen first.1) first.1 (rest.map Prod.fst) := by
    intro rest
    induction rest with
    | nil => exact fun _ _ => rfl
    | cons next rest inductionHypothesis =>
      intro seen first
      rw [List.map_cons, List.map_cons, swallowed, swallowed, inductionHypothesis, joins, joins,
        prepares.hasRole, prepares.hasRole, prepares.isObject, prepares.roleAfter]
  cases turns with
  | nil => rfl
  | cons first rest => exact general rest .undefined first

theorem Prepares.splitBy_map (turns : List (Entry × List Entry)) :
    (turns.map prepare).splitBy (both role) =
      (turns.splitBy (bothTurns role)).map (List.map prepare) :=
  Runs.splitBy_map (both role) prepare
    (fun left right => by rw [both, prepares.hasRole, prepares.hasRole]; rfl) turns

end Prepared

theorem prepares_fst (role : String) : Prepares role Prod.fst :=
  ⟨fun _ _ => rfl, fun _ => rfl, fun _ => rfl, fun _ _ => rfl⟩

theorem hasRole_of_mem_turnRun {turns run : List (Entry × List Entry)}
    (member : run ∈ turns.splitBy (bothTurns role)) (several : 2 ≤ run.length) :
    ∀ turn ∈ run, turn.1.hasRole role = true := by
  intro turn inRun
  have mapped : run.map Prod.fst ∈ (turns.map Prod.fst).splitBy (both role) := by
    rw [(prepares_fst role).splitBy_map]
    exact List.mem_map_of_mem member
  exact hasRole_of_mem_run mapped (by rw [List.length_map]; exact several) turn.1
    (List.mem_map_of_mem inRun)

/-- A turn that is no message of the role is a run of its own. -/
theorem singleton_mem_runs {turns : List (Entry × List Entry)}
    {turn : Entry × List Entry} (member : turn ∈ turns) (other : turn.1.hasRole role = false) :
    [turn] ∈ turns.splitBy (bothTurns role) := by
  rw [← List.flatten_splitBy (bothTurns role) turns, List.mem_flatten] at member
  obtain ⟨run, isRun, inRun⟩ := member
  match run, isRun, inRun with
  | [only], isRun, inRun =>
    rw [List.mem_singleton] at inRun
    exact inRun ▸ isRun
  | first :: second :: rest, isRun, inRun =>
    have ofRole := hasRole_of_mem_turnRun isRun (by simp only [List.length_cons]; omega) turn inRun
    rw [other] at ofRole
    cases ofRole

/-- A prepared run of several is replaced by what it is merged to exactly when it is free of
plain text. -/
theorem replaces_mergeRun_iff
    (arrays : MergesArrays role merge) {prepare : Entry × List Entry → Entry}
    (prepares : Prepares role prepare) (single : Entry × List Entry → Entry → Prop)
    {run : List (Entry × List Entry)} (several : 2 ≤ run.length)
    (allOfRole : ∀ turn ∈ run, turn.1.hasRole role = true) :
    Replaces role single run (mergeRun merge (run.map prepare)) ↔
      ∀ entry ∈ run.map Prod.fst, entry.content.isPlainText = false := by
  have unprepared : run.map prepare = run.map Prod.fst :=
    List.map_congr_left fun turn member => prepares.same turn (allOfRole turn member)
  have severalEntries : 2 ≤ (run.map Prod.fst).length := by rw [List.length_map]; exact several
  obtain ⟨ofRole, content⟩ := mergeRun_of_several arrays severalEntries
    (by simpa only [List.forall_mem_map] using allOfRole)
  have unfolded : Replaces role single run (mergeRun merge (run.map prepare)) ↔
      (mergeRun merge (run.map Prod.fst)).hasRole role = true ∧
        (mergeRun merge (run.map Prod.fst)).pieces = run.flatMap fun turn => turn.1.pieces := by
    rw [unprepared]
    match run, several with
    | first :: second :: rest, _ => exact Iff.rfl
  rw [unfolded, content, and_iff_right ofRole, ← items_eq_pieces_iff, List.flatMap_map,
    List.flatMap_map]

/-- The result stands for the runs exactly when no entry is swallowed, no plain text merged, and
what is not merged is as it should be. -/
theorem forall₂_replaces_iff (named : role ≠ "") (arrays : MergesArrays role merge)
    {prepare : Entry × List Entry → Entry} (prepares : Prepares role prepare)
    (single : Entry × List Entry → Entry → Prop) (turns : List (Entry × List Entry)) :
    List.Forall₂ (Replaces role single) (turns.splitBy (bothTurns role))
        (validateTurnsWithConsecutiveMerge role merge (turns.map prepare)) ↔
      MergesCleanly role (turns.map Prod.fst) ∧
        ∀ turn, [turn] ∈ turns.splitBy (bothTurns role) → single turn (prepare turn) := by
  have runsOfEntries := (prepares_fst role).splitBy_map turns
  have runsOfPrepared := prepares.splitBy_map turns
  -- whether an entry is swallowed shows in the number of messages left
  have counted := length_validateTurns named merge (turns.map prepare)
  rw [runsOfPrepared, List.length_map] at counted
  have swallowing := (swallowedIn_eq_zero_iff role (turns.map Prod.fst)).symm
  rw [← prepares.swallowedIn_map] at swallowing
  have aligned (clean : swallowedIn role (turns.map prepare) = 0) :
      List.Forall₂ (Replaces role single) (turns.splitBy (bothTurns role))
          (validateTurnsWithConsecutiveMerge role merge (turns.map prepare)) ↔
        ∀ run ∈ turns.splitBy (bothTurns role),
          Replaces role single run (mergeRun merge (run.map prepare)) := by
    rw [validateTurns_eq_map named merge clean, runsOfPrepared, List.map_map,
      List.forall₂_map_right_iff, List.forall₂_same]
    rfl
  constructor
  · intro replaced
    have clean : swallowedIn role (turns.map prepare) = 0 := by
      have := replaced.length_eq
      omega
    have each := (aligned clean).1 replaced
    refine ⟨⟨swallowing.2 clean, ?_⟩, fun turn member => each [turn] member⟩
    intro run member several entry inRun
    rw [runsOfEntries] at member
    obtain ⟨run, isRun, rfl⟩ := List.mem_map.1 member
    rw [List.length_map] at several
    exact (replaces_mergeRun_iff arrays prepares single several
      (hasRole_of_mem_turnRun isRun several)).1 (each run isRun) entry inRun
  · rintro ⟨clean, singles⟩
    refine (aligned (swallowing.1 clean.noRoleless)).2 fun run member => ?_
    match run, member with
    | [], member => exact absurd member (List.nil_notMem_splitBy _ _)
    | [turn], member => exact singles turn member
    | first :: second :: rest, member =>
      have several : 2 ≤ (first :: second :: rest).length := by simp only [List.length_cons]; omega
      refine (replaces_mergeRun_iff arrays prepares single several
        (hasRole_of_mem_turnRun member several)).2 ?_
      refine clean.noPlainText _ ?_ (by rw [List.length_map]; exact several)
      rw [runsOfEntries]
      exact List.mem_map_of_mem member

end OpenClaw.Turns
