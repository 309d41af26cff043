/-
This file says when the rewriting of tool-call ids keeps calls and results paired.

A message list is read as the raw ids its calls and results use, in order. Ids
handed out are fresh as long as one of the ids the allocator tries is unused, and the
queue of a raw id holds the rewritten ids of its unanswered calls, oldest first.
A turn therefore starts a queue of its own only if no earlier call with that raw
id is still unanswered: `sanitized_iff` shows that the results of every turn
carry the ids of its calls exactly when this holds for each raw id the turn's
results use, and no such id is used by more results than calls.
-/

import OpenClaw.Base.Sections
import OpenClaw.Transcript.ToolCallIds

namespace OpenClaw.Transcript

/-! ### Uses of ids -/

def Entry.callIds : Entry → List String
  | .object message =>
    if message.isAssistant then (extractToolCallsFromAssistant message).map ToolCallLike.id else []
  | .other _ => []

/-- The raw ids of a result, once when both fields carry the same one. -/
def Message.resultIds (message : Message) : List String :=
  ([message.toolCallId, message.toolUseId].filterMap Value.nonEmptyString).dedup

def Entry.resultIds : Entry → List String
  | .object message => if message.isToolResult then message.resultIds else []
  | .other _ => []

/-- The ids an entry uses, as calls or as results. -/
def Entry.idUses (entry : Entry) : List IdUse :=
  entry.callIds.map .call ++ entry.resultIds.map .result

section Resolver

variable (options : ResolverOptions)

/-- Resolving ids one after the other. -/
def resolveAll : List IdUse → ResolverState → List String × ResolverState
  | [], state => ([], state)
  | use :: rest, state =>
    ((resolveId options use state).1 :: (resolveAll rest (resolveId options use state).2).1,
      (resolveAll rest (resolveId options use state).2).2)

/-- The seed a use of an id makes the allocator work with, if it does. -/
def allocationSeed (use : IdUse) (state : ResolverState) : Option String :=
  match use with
  | .call id =>
    if preserves options id (state.assistantOccurrences id + 1) state then none
    else some (if state.assistantOccurrences id + 1 = 1 then id
      else id ++ ":" ++ toString (state.assistantOccurrences id + 1))
  | .result id =>
    if state.pendingByRawId id ≠ [] ∨
      preserves options id (state.orphanToolResultOccurrences id + 1) state then none
    else some (id ++ ":tool_result:" ++ toString (state.orphanToolResultOccurrences id + 1))

/-- The ids the allocator tries for a seed, the one made of the clock last. -/
def triedToolIds (seed : String) (state : ResolverState) : List String :=
  toolIdCandidates options.digest options.mode seed ++
    [clockToolId options.digest options.mode seed (options.now state.clockReads)]

/-- One of the ids the allocator tries is not in use. -/
def SearchFinds (use : IdUse) (state : ResolverState) : Prop :=
  ∀ seed ∈ allocationSeed options use state, ∃ tried ∈ triedToolIds options seed state, tried ∉ state.used

/-- The allocator finds one at every use of a list. -/
def SearchSucceeds : List IdUse → ResolverState → Prop
  | [], _ => True
  | use :: rest, state =>
    SearchFinds options use state ∧ SearchSucceeds rest (resolveId options use state).2

/-- A valid id, or a native one that is preserved. -/
def AcceptedId (id : String) : Prop :=
  isValidCloudCodeAssistToolId options.mode id = true ∨
    options.preserveNativeAnthropicToolUseIds = true ∧ isNativeAnthropicToolUseId id = true

variable {options} {state : ResolverState}

theorem AcceptedId.ne_empty {id : String} (accepted : AcceptedId options id) : id ≠ "" := by
  rintro rfl
  rcases accepted with valid | ⟨-, native⟩
  · cases mode : options.mode <;> simp [mode, isValidCloudCodeAssistToolId] at valid
  · revert native
    decide

/-- What an allocation that succeeds gives: an accepted id nobody used. -/
theorem allocate_spec {seed : String}
    (found : ∃ tried ∈ triedToolIds options seed state, tried ∉ state.used) :
    ∃ next, AcceptedId options next ∧ next ∉ state.used ∧ allocate options seed state =
      (next, { state with used := insert next state.used, clockReads := state.clockReads + 1 }) := by
  cases first : (toolIdCandidates options.digest options.mode seed).find?
      fun candidate => candidate ∉ state.used with
  | some next =>
    refine ⟨next, Or.inl (valid_of_mem_toolIdCandidates (List.mem_of_find?_eq_some first)),
      by simpa using List.find?_some first, ?_⟩
    simp only [allocate, makeUniqueToolId, first, Option.getD_some]
  | none =>
    obtain ⟨tried, member, unused⟩ := found
    have taken := List.find?_eq_none.1 first
    rcases List.mem_append.1 member with candidate | clock
    · exact absurd (decide_eq_true unused) (taken tried candidate)
    · obtain rfl := List.mem_singleton.1 clock
      refine ⟨_, Or.inl (valid_clockToolId _ _ _ _), unused, ?_⟩
      simp only [allocate, makeUniqueToolId, first, Option.getD_none]

theorem accepted_of_preserves {id : String} {occurrence : Nat}
    (preserved : preserves options id occurrence state = true) :
    AcceptedId options id ∧ id ∉ state.used := by
  simp only [preserves, Bool.and_eq_true, decide_eq_true_iff] at preserved
  exact ⟨Or.inr ⟨preserved.1.1.1, preserved.1.1.2⟩, preserved.2⟩

/-- A call gets an accepted id nobody used, which joins the queue of its raw id. -/
theorem resolve_call {id : String} (finds : SearchFinds options (.call id) state) :
    ∃ next, AcceptedId options next ∧ next ∉ state.used ∧
      (resolveId options (.call id) state).1 = next ∧
      (resolveId options (.call id) state).2.used = insert next state.used ∧
      (resolveId options (.call id) state).2.pendingByRawId =
        Function.update state.pendingByRawId id (state.pendingByRawId id ++ [next]) := by
  obtain ⟨counted, counted_eq⟩ : ∃ counted : ResolverState, counted = { state with
      assistantOccurrences :=
        Function.update state.assistantOccurrences id (state.assistantOccurrences id + 1) } := ⟨_, rfl⟩
  have used : counted.used = state.used := by rw [counted_eq]
  have pending : counted.pendingByRawId = state.pendingByRawId := by rw [counted_eq]
  have tries : ∀ seed, triedToolIds options seed counted = triedToolIds options seed state := fun seed => by
    rw [counted_eq, triedToolIds, triedToolIds]
  have same : preserves options id (state.assistantOccurrences id + 1) counted =
      preserves options id (state.assistantOccurrences id + 1) state := by rw [preserves, used, preserves]
  simp only [resolveId, resolveAssistantId, allocatePreservingNativeAnthropicId, ← counted_eq, same]
  split
  · rename_i preserved
    obtain ⟨accepted, unused⟩ := accepted_of_preserves preserved
    exact ⟨id, accepted, unused, rfl, rfl, rfl⟩
  · rename_i notPreserved
    have found := finds _ (by rw [allocationSeed, if_neg notPreserved]; rfl)
    rw [← used, ← tries] at found
    rw [← used]
    obtain ⟨next, accepted, unused, allocated⟩ := allocate_spec found
    rw [allocated]
    exact ⟨next, accepted, unused, rfl, rfl, by rw [pending]⟩

/-- A result with an unanswered call gets the id of the oldest one. -/
theorem resolve_result_of_pending {id next : String} {pending : List String}
    (queued : state.pendingByRawId id = next :: pending) :
    resolveId options (.result id) state =
      (next, { state with pendingByRawId := Function.update state.pendingByRawId id pending }) := by
  rw [resolveId, resolveToolResultId, queued]

/-- A result without one gets an accepted id nobody used. -/
theorem resolve_result_of_none {id : String}
    (unqueued : state.pendingByRawId id = []) (finds : SearchFinds options (.result id) state) :
    ∃ next, AcceptedId options next ∧ next ∉ state.used ∧
      (resolveId options (.result id) state).1 = next ∧
      (resolveId options (.result id) state).2.used = insert next state.used ∧
      (resolveId options (.result id) state).2.pendingByRawId = state.pendingByRawId := by
  obtain ⟨counted, counted_eq⟩ : ∃ counted : ResolverState, counted = { state with
      orphanToolResultOccurrences := Function.update state.orphanToolResultOccurrences id
        (state.orphanToolResultOccurrences id + 1) } := ⟨_, rfl⟩
  have used : counted.used = state.used := by rw [counted_eq]
  have pending : counted.pendingByRawId = state.pendingByRawId := by rw [counted_eq]
  have tries : ∀ seed, triedToolIds options seed counted = triedToolIds options seed state := fun seed => by
    rw [counted_eq, triedToolIds, triedToolIds]
  have same : preserves options id (state.orphanToolResultOccurrences id + 1) counted =
      preserves options id (state.orphanToolResultOccurrences id + 1) state := by
    rw [preserves, used, preserves]
  simp only [resolveId, resolveToolResultId, unqueued, ← counted_eq, same]
  split
  · rename_i preserved
    obtain ⟨accepted, unused⟩ := accepted_of_preserves preserved
    exact ⟨id, accepted, unused, rfl, rfl, rfl⟩
  · rename_i notPreserved
    have found := finds _ (by rw [allocationSeed, if_neg (by simp [unqueued, notPreserved])]; rfl)
    rw [← used, ← tries] at found
    rw [← used]
    obtain ⟨next, accepted, unused, allocated⟩ := allocate_spec found
    rw [allocated]
    exact ⟨next, accepted, unused, rfl, rfl, pending⟩

end Resolver

/-! ### Uses of one turn -/

/-- The rewritten ids that stand for a raw id, in order. -/
def idsFor (raw : String) (pairs : List (String × String)) : List String :=
  (pairs.filter fun pair => pair.1 = raw).map Prod.snd

theorem idsFor_cons (raw other new : String) (pairs : List (String × String)) :
    idsFor raw ((other, new) :: pairs) =
      if other = raw then new :: idsFor raw pairs else idsFor raw pairs := by
  by_cases same : other = raw <;> simp [idsFor, same]

theorem mem_of_mem_idsFor {raw id : String} {raws news : List String}
    (member : id ∈ idsFor raw (raws.zip news)) : id ∈ news := by
  obtain ⟨pair, inPairs, rfl⟩ := List.mem_map.1 member
  exact (List.of_mem_zip (List.mem_of_mem_filter inPairs)).2

section Turn

variable {options : ResolverOptions}

/-- The ids waiting in the queues are accepted and in use. -/
def ResolverState.Sound (options : ResolverOptions) (state : ResolverState) : Prop :=
  ∀ raw, ∀ id ∈ state.pendingByRawId raw, AcceptedId options id ∧ id ∈ state.used

/-- What resolving the calls of a turn does: fresh ids, queued under their raw ids. -/
structure CallsResolved (options : ResolverOptions) (raws news : List String)
    (state final : ResolverState) : Prop where
  length : news.length = raws.length
  accepted : ∀ new ∈ news, AcceptedId options new
  fresh : ∀ new ∈ news, new ∉ state.used
  distinct : news.Nodup
  used : final.used = state.used ∪ news.toFinset
  pending : ∀ raw, final.pendingByRawId raw = state.pendingByRawId raw ++ idsFor raw (raws.zip news)

theorem resolveAll_calls (raws : List String) : ∀ state : ResolverState,
    SearchSucceeds options (raws.map .call) state →
      CallsResolved options raws (resolveAll options (raws.map .call) state).1 state
        (resolveAll options (raws.map .call) state).2 := by
  induction raws with
  | nil => exact fun state _ => ⟨rfl, by simp [resolveAll], by simp [resolveAll], by simp [resolveAll],
      by simp [resolveAll], by simp [resolveAll, idsFor]⟩
  | cons raw rest inductionHypothesis =>
    rintro state ⟨finds, succeeds⟩
    obtain ⟨next, accepted, unused, new, used, pending⟩ := resolve_call finds
    have resolved := inductionHypothesis _ succeeds
    simp only [List.map_cons, resolveAll, new]
    refine ⟨congrArg Nat.succ resolved.length, ?_, ?_, ?_, ?_, fun other => ?_⟩
    · exact List.forall_mem_cons.2 ⟨accepted, resolved.accepted⟩
    · refine List.forall_mem_cons.2 ⟨unused, fun id member old => resolved.fresh id member ?_⟩
      rw [used]
      exact Finset.mem_insert_of_mem old
    · refine List.nodup_cons.2 ⟨fun member => resolved.fresh next member ?_, resolved.distinct⟩
      rw [used]
      exact Finset.mem_insert_self _ _
    · rw [resolved.used, used, List.toFinset_cons, Finset.insert_union, Finset.union_insert]
    · rw [resolved.pending, pending, List.zip_cons_cons, idsFor_cons]
      by_cases same : raw = other
      · subst same
        simp
      · rw [Function.update_of_ne (Ne.symm same), if_neg same]

theorem CallsResolved.sound {raws news : List String} {state final : ResolverState}
    (resolved : CallsResolved options raws news state final) (sound : state.Sound options) :
    final.Sound options := by
  intro raw id member
  rw [resolved.pending] at member
  rw [resolved.used]
  rcases List.mem_append.1 member with old | own
  · exact ⟨(sound raw id old).1, Finset.mem_union_left _ (sound raw id old).2⟩
  · have isNew := mem_of_mem_idsFor own
    exact ⟨resolved.accepted id isNew, Finset.mem_union_right _ (List.mem_toFinset.2 isNew)⟩

/-- What resolving results does: the n-th result with a raw id takes the n-th id queued for it, and
an id nobody used when the queue is that short. -/
structure ResultsResolved (options : ResolverOptions) (raws news : List String)
    (state final : ResolverState) : Prop where
  length : news.length = raws.length
  accepted : state.Sound options → ∀ new ∈ news, AcceptedId options new
  used : state.used ⊆ final.used
  queued : ∀ raw index id, (idsFor raw (raws.zip news))[index]? = some id →
    index < (state.pendingByRawId raw).length → (state.pendingByRawId raw)[index]? = some id
  fresh : ∀ raw index id, (idsFor raw (raws.zip news))[index]? = some id →
    (state.pendingByRawId raw).length ≤ index → id ∉ state.used
  pending : ∀ raw, final.pendingByRawId raw =
    (state.pendingByRawId raw).drop (idsFor raw (raws.zip news)).length

theorem resolveAll_results (raws : List String) : ∀ state : ResolverState,
    SearchSucceeds options (raws.map .result) state →
      ResultsResolved options raws (resolveAll options (raws.map .result) state).1 state
        (resolveAll options (raws.map .result) state).2 := by
  induction raws with
  | nil => exact fun state _ => ⟨rfl, by simp [resolveAll], fun _ member => member,
      by simp [resolveAll, idsFor], by simp [resolveAll, idsFor], by simp [resolveAll, idsFor]⟩
  | cons raw rest inductionHypothesis =>
    rintro state ⟨finds, succeeds⟩
    have resolved := inductionHypothesis _ succeeds
    cases queue : state.pendingByRawId raw with
    | cons next waiting =>
      have step : resolveId options (.result raw) state = (next, { state with
          pendingByRawId := Function.update state.pendingByRawId raw waiting }) :=
        resolve_result_of_pending queue
      rw [step] at resolved
      simp only [List.map_cons, resolveAll, step]
      have ownQueue : ∀ other, Function.update state.pendingByRawId raw waiting other =
          if raw = other then waiting else state.pendingByRawId other := fun other => by
        rw [Function.update_apply]
        simp only [eq_comm]
      refine ⟨congrArg Nat.succ resolved.length, fun sound => ?_, resolved.used, fun other index id => ?_,
        fun other index id => ?_, fun other => ?_⟩
      · refine List.forall_mem_cons.2 ⟨(sound raw next (by simp [queue])).1, resolved.accepted ?_⟩
        intro other id member
        simp only [ownQueue] at member
        by_cases same : raw = other
        · subst same
          rw [if_pos rfl] at member
          exact sound raw id (by simp [queue, member])
        · rw [if_neg same] at member
          exact sound other id member
      · have later := resolved.queued other
        simp only [ownQueue] at later
        rw [List.zip_cons_cons, idsFor_cons]
        by_cases same : raw = other
        · subst same
          simp only [if_true] at later ⊢
          rw [queue]
          cases index with
          | zero => exact fun found _ => found
          | succ index =>
            exact fun found short => later index id found (Nat.lt_of_succ_lt_succ short)
        · simp only [same, if_false] at later ⊢
          exact later index id
      · have later := resolved.fresh other
        simp only [ownQueue] at later
        rw [List.zip_cons_cons, idsFor_cons]
        by_cases same : raw = other
        · subst same
          simp only [if_true] at later ⊢
          rw [queue]
          cases index with
          | zero => exact fun _ long => absurd long (by simp)
          | succ index =>
            exact fun found long => later index id found (Nat.le_of_succ_le_succ long)
        · simp only [same, if_false] at later ⊢
          exact later index id
      · rw [resolved.pending, List.zip_cons_cons, idsFor_cons]
        simp only [ownQueue]
        by_cases same : raw = other
        · subst same
          simp [queue]
        · simp only [same, if_false]
    | nil =>
      obtain ⟨next, accepted, unused, new, used, pending⟩ := resolve_result_of_none queue finds
      simp only [List.map_cons, resolveAll, new]
      refine ⟨congrArg Nat.succ resolved.length, fun sound => ?_, ?_, fun other index id => ?_,
        fun other index id => ?_, fun other => ?_⟩
      · refine List.forall_mem_cons.2 ⟨accepted, resolved.accepted fun other id member => ?_⟩
        rw [pending] at member
        rw [used]
        exact ⟨(sound other id member).1, Finset.mem_insert_of_mem (sound other id member).2⟩
      · refine Finset.Subset.trans ?_ resolved.used
        rw [used]
        exact Finset.subset_insert _ _
      · have later := resolved.queued other
        rw [pending] at later
        rw [List.zip_cons_cons, idsFor_cons]
        by_cases same : raw = other
        · subst same
          rw [queue]
          exact fun _ short => absurd short (Nat.not_lt_zero index)
        · simp only [same, if_false]
          exact later index id
      · have later := resolved.fresh other
        rw [pending] at later
        have stillFresh : id ∉ (resolveId options (.result raw) state).2.used → id ∉ state.used :=
          fun fresh old => fresh (by rw [used]; exact Finset.mem_insert_of_mem old)
        rw [List.zip_cons_cons, idsFor_cons]
        by_cases same : raw = other
        · subst same
          rw [if_pos rfl]
          cases index with
          | zero =>
            intro found _
            obtain rfl : next = id := by simpa using found
            exact unused
          | succ index =>
            exact fun found _ => stillFresh (later index id found (by simp [queue]))
        · rw [if_neg same]
          exact fun found long => stillFresh (later index id found long)
      · rw [resolved.pending, pending, List.zip_cons_cons, idsFor_cons]
        by_cases same : raw = other
        · subst same
          simp [queue]
        · rw [if_neg same]

theorem ResultsResolved.sound {raws news : List String} {state final : ResolverState}
    (resolved : ResultsResolved options raws news state final) (sound : state.Sound options) :
    final.Sound options := by
  intro raw id member
  rw [resolved.pending] at member
  obtain ⟨accepted, old⟩ := sound raw id (List.mem_of_mem_drop member)
  exact ⟨accepted, resolved.used old⟩

/-- The results of a turn carry the ids of its calls, the n-th result with a raw id that of the
n-th call with it. -/
def Carries (own mentions : List String) : Prop :=
  ∀ (index : Nat) (id : String), mentions[index]? = some id →
    id ∈ own ∧ ∀ call, own[index]? = some call → id = call

/-- The results with a raw id carry the ids of the turn's calls with it exactly when no earlier
call is waiting and the results are no more than the calls, unless there is no such result. -/
theorem carries_iff {raws news results newResults : List String} {state middle final : ResolverState}
    (sound : state.Sound options) (calls : CallsResolved options raws news state middle)
    (answers : ResultsResolved options results newResults middle final) {raw : String}
    (called : raw ∈ raws) :
    Carries (idsFor raw (raws.zip news)) (idsFor raw (results.zip newResults)) ↔
      (idsFor raw (results.zip newResults) = [] ∨ state.pendingByRawId raw = [] ∧
        (idsFor raw (results.zip newResults)).length ≤ (idsFor raw (raws.zip news)).length) := by
  have queue : middle.pendingByRawId raw = state.pendingByRawId raw ++ idsFor raw (raws.zip news) :=
    calls.pending raw
  have nonempty : 0 < (idsFor raw (raws.zip news)).length := by
    obtain ⟨index, bound, rfl⟩ := List.getElem_of_mem called
    have newBound : index < news.length := calls.length ▸ bound
    refine List.length_pos_of_mem (List.mem_map.2 ⟨(raws[index], news[index]), ?_, rfl⟩)
    refine List.mem_filter.2 ⟨?_, by simp⟩
    exact List.mem_iff_getElem.2 ⟨index, by simp [bound, newBound], by simp⟩
  constructor
  · intro carries
    by_cases none : idsFor raw (results.zip newResults) = []
    · exact Or.inl none
    · have unqueued : state.pendingByRawId raw = [] := by
        by_contra waiting
        obtain ⟨oldest, others, waiting⟩ := List.exists_cons_of_ne_nil waiting
        obtain ⟨first, rest, mentions⟩ := List.exists_cons_of_ne_nil none
        have found : (idsFor raw (results.zip newResults))[0]? = some first := by rw [mentions]; rfl
        have taken := answers.queued raw 0 first found (by rw [queue, List.length_append]; omega)
        rw [queue, waiting] at taken
        obtain rfl : oldest = first := by simpa using taken
        have inUse := (sound raw oldest (by simp [waiting])).2
        exact calls.fresh oldest (mem_of_mem_idsFor (carries 0 oldest found).1) inUse
      refine Or.inr ⟨unqueued, ?_⟩
      by_contra more
      rw [not_le] at more
      have found := List.getElem?_eq_getElem more
      have unused := answers.fresh raw _ _ found (by rw [queue, unqueued, List.nil_append])
      refine unused ?_
      rw [calls.used]
      exact Finset.mem_union_right _
        (List.mem_toFinset.2 (mem_of_mem_idsFor (carries _ _ found).1))
  · rintro (none | ⟨unqueued, enough⟩) index id found
    · simp [none] at found
    · have bound : index < (idsFor raw (results.zip newResults)).length :=
        (List.getElem?_eq_some_iff.1 found).1
      rw [unqueued, List.nil_append] at queue
      have taken := answers.queued raw index id found (by rw [queue]; omega)
      rw [queue] at taken
      refine ⟨List.mem_of_getElem? taken, fun call own => ?_⟩
      rw [taken] at own
      exact Option.some.inj own

end Turn

/-! ### Rewritten entries -/

def ContentItem.withoutId (item : ContentItem) : ContentItem :=
  match item, item.toolCall? with
  | .block record, some _ => .block { record with id := .undefined }
  | _, _ => item

/-- A value without the id it may be. -/
def Value.withoutId (value : Value) : Value := if value.nonEmptyString.isSome then .undefined else value

/-- A message without the ids of its tool calls or of the calls it answers. -/
def Message.withoutIds (message : Message) : Message :=
  if message.isAssistant then
    match message.content with
    | .array items => { message with content := .array (items.map ContentItem.withoutId) }
    | .other _ => message
  else if message.isToolResult then
    { message with
      toolCallId := message.toolCallId.withoutId
      toolUseId := message.toolUseId.withoutId }
  else message

def Entry.withoutIds : Entry → Entry
  | .object message => .object message.withoutIds
  | .other value => .other value

/-- The raw ids of a result with the ids that stand in their place. -/
def Entry.mentions : Entry → Entry → List (String × String)
  | .object source, .object output =>
    if source.isToolResult then
      ([(source.toolCallId, output.toolCallId), (source.toolUseId, output.toolUseId)].filterMap
        fun field => field.1.nonEmptyString.map fun raw => (raw, field.2.readString.getD "")).dedup
    else []
  | _, _ => []

/-- What rewriting an entry with the given ids makes of it. -/
structure EntryRewritten (source output : Entry) (news : List String) : Prop where
  isAssistant : output.isAssistant = source.isAssistant
  callIds : output.callIds = if source.isAssistant then news else []
  mentions : source.isAssistant = false → source.mentions output = source.resultIds.zip news
  resultIds : ∀ id ∈ output.resultIds, id ∈ news
  withoutIds : output.withoutIds = source.withoutIds

theorem nonEmptyString_string {id : String} (named : id ≠ "") :
    (Value.string id).nonEmptyString = some id := (Text.nonEmpty_eq_some_iff _ _).2 ⟨rfl, named⟩

section Rewrite

variable (options : ResolverOptions)

theorem rewriteContent_spec (items : List ContentItem) : ∀ state : ResolverState,
    (rewriteContent options items state).2 = (resolveAll options
        ((items.filterMap ContentItem.toolCall?).map fun call => .call call.id) state).2 ∧
      ((∀ new ∈ (resolveAll options
          ((items.filterMap ContentItem.toolCall?).map fun call => .call call.id) state).1, new ≠ "") →
        ((rewriteContent options items state).1.filterMap ContentItem.toolCall?).map ToolCallLike.id =
            (resolveAll options
              ((items.filterMap ContentItem.toolCall?).map fun call => .call call.id) state).1 ∧
          (rewriteContent options items state).1.map ContentItem.withoutId =
            items.map ContentItem.withoutId) := by
  induction items with
  | nil => exact fun state => ⟨rfl, fun _ => ⟨rfl, rfl⟩⟩
  | cons item rest inductionHypothesis =>
    intro state
    cases read : item.toolCall? with
    | none =>
      have kept : rewriteToolCallBlock options item state = (item, state) := by
        cases item <;> simp only [rewriteToolCallBlock, read]
      obtain ⟨final, ids⟩ := inductionHypothesis state
      simp only [rewriteContent, kept, List.filterMap_cons, read]
      refine ⟨final, fun named => ⟨(ids named).1, ?_⟩⟩
      rw [List.map_cons, List.map_cons, (ids named).2]
    | some call =>
      cases item with
      | other value => cases read
      | block record =>
        have rewritten : rewriteToolCallBlock options (.block record) state =
            (.block { record with id := .string (resolveAssistantId options call.id state).1 },
              (resolveAssistantId options call.id state).2) := by
          simp only [rewriteToolCallBlock, read]
        obtain ⟨final, ids⟩ := inductionHypothesis (resolveAssistantId options call.id state).2
        simp only [rewriteContent, rewritten, List.filterMap_cons, read, List.map_cons, resolveAll,
          resolveId]
        refine ⟨final, fun named => ?_⟩
        obtain ⟨firstNamed, restNamed⟩ := List.forall_mem_cons.1 named
        have type : isToolCallType record.type = true := by
          simp only [ContentItem.toolCall?] at read
          split at read
          · split at read
            · assumption
            · cases read
          · cases read
        have newCall : ContentItem.toolCall?
            (.block { record with id := .string (resolveAssistantId options call.id state).1 }) =
              some ⟨(resolveAssistantId options call.id state).1, record.name.readString⟩ := by
          simp only [ContentItem.toolCall?, nonEmptyString_string firstNamed, type, if_true]
        refine ⟨?_, ?_⟩
        · rw [newCall]
          exact congrArg (_ :: ·) (ids restNamed).1
        · rw [(ids restNamed).2]
          simp only [ContentItem.withoutId, newCall, read]

theorem rewriteAssistant_spec {message : Message} (assistant : message.isAssistant = true)
    (state : ResolverState) :
    (rewriteAssistantToolCallIds options message state).2 =
        (resolveAll options (Entry.object message).idUses state).2 ∧
      ((∀ new ∈ (resolveAll options (Entry.object message).idUses state).1, new ≠ "") →
        EntryRewritten (.object message) (.object (rewriteAssistantToolCallIds options message state).1)
          (resolveAll options (Entry.object message).idUses state).1) := by
  have notResult := message.isToolResult_eq_false assistant
  have uses : (Entry.object message).idUses =
      (extractToolCallsFromAssistant message).map fun call => .call call.id := by
    simp [Entry.idUses, Entry.callIds, Entry.resultIds, assistant, notResult]
  rw [uses]
  cases content : message.content with
  | other value =>
    have none : extractToolCallsFromAssistant message = [] := by
      rw [extractToolCallsFromAssistant, content]
    have kept : rewriteAssistantToolCallIds options message state = (message, state) := by
      rw [rewriteAssistantToolCallIds, content]
    rw [none, kept]
    refine ⟨rfl, fun _ => ⟨rfl, ?_, ?_, ?_, rfl⟩⟩
    · simp [Entry.callIds, none, resolveAll]
    · exact fun other => absurd assistant (by simpa [Entry.isAssistant] using other)
    · simp [Entry.resultIds, notResult]
  | array items =>
    have calls : extractToolCallsFromAssistant message = items.filterMap ContentItem.toolCall? := by
      rw [extractToolCallsFromAssistant, content]
    have rewritten : rewriteAssistantToolCallIds options message state =
        ({ message with content := .array (rewriteContent options items state).1 },
          (rewriteContent options items state).2) := by
      rw [rewriteAssistantToolCallIds, content]
    obtain ⟨final, ids⟩ := rewriteContent_spec options items state
    rw [calls, rewritten]
    refine ⟨final, fun named => ?_⟩
    obtain ⟨newIds, kept⟩ := ids named
    have sameRole : ∀ content : Content, ({ message with content } : Message).isAssistant = true :=
      fun _ => assistant
    refine ⟨rfl, ?_, ?_, ?_, ?_⟩
    · simp only [Entry.callIds, Entry.isAssistant, sameRole, if_true, extractToolCallsFromAssistant]
      exact newIds
    · exact fun other => absurd assistant (by simpa [Entry.isAssistant] using other)
    · have none : ∀ content : Content, ({ message with content } : Message).isToolResult = false :=
        fun _ => notResult
      simp [Entry.resultIds, none]
    · simp only [Entry.withoutIds, Message.withoutIds, sameRole, if_true, content, kept]

theorem withoutId_string {id : String} (named : id ≠ "") : (Value.string id).withoutId = .undefined := by
  rw [Value.withoutId, nonEmptyString_string named]
  rfl

theorem withoutId_of_nonEmptyString {value : Value} {id : String}
    (read : value.nonEmptyString = some id) : value.withoutId = .undefined := by
  rw [Value.withoutId, read]
  rfl

/-- A result whose id fields are replaced. -/
theorem entryRewritten_result {message : Message} (result : message.isToolResult = true)
    (notAssistant : message.isAssistant = false) {toolCallId toolUseId : Value} {news : List String}
    (mentions : (Entry.object message).mentions (.object { message with toolCallId, toolUseId }) =
      message.resultIds.zip news)
    (resultIds : ∀ id ∈ ({ message with toolCallId, toolUseId } : Message).resultIds, id ∈ news)
    (callErased : toolCallId.withoutId = message.toolCallId.withoutId)
    (useErased : toolUseId.withoutId = message.toolUseId.withoutId) :
    EntryRewritten (.object message) (.object { message with toolCallId, toolUseId }) news := by
  have sameRole : ({ message with toolCallId, toolUseId } : Message).isAssistant = false := notAssistant
  have sameResult : ({ message with toolCallId, toolUseId } : Message).isToolResult = true := result
  refine ⟨rfl, ?_, fun _ => ?_, ?_, ?_⟩
  · simp [Entry.callIds, Entry.isAssistant, sameRole, notAssistant]
  · rw [mentions, Entry.resultIds, if_pos result]
  · rwa [Entry.resultIds, if_pos sameResult]
  · simp [Entry.withoutIds, Message.withoutIds, sameRole, sameResult, notAssistant, result, callErased,
      useErased]

theorem rewriteResult_spec {message : Message} (result : message.isToolResult = true)
    (state : ResolverState) :
    (rewriteToolResultIds options message state).2 =
        (resolveAll options (Entry.object message).idUses state).2 ∧
      ((∀ new ∈ (resolveAll options (Entry.object message).idUses state).1, new ≠ "") →
        EntryRewritten (.object message) (.object (rewriteToolResultIds options message state).1)
          (resolveAll options (Entry.object message).idUses state).1) := by
  have notAssistant : message.isAssistant = false := by
    cases assistant : message.isAssistant with
    | false => rfl
    | true => simp [message.isToolResult_eq_false assistant] at result
  have uses : (Entry.object message).idUses = message.resultIds.map .result := by
    simp [Entry.idUses, Entry.callIds, Entry.resultIds, result, notAssistant]
  rw [uses]
  cases callId : message.toolCallId.nonEmptyString with
  | none =>
    cases useId : message.toolUseId.nonEmptyString with
    | none =>
      have ids : message.resultIds = [] := by simp [Message.resultIds, callId, useId]
      have kept : rewriteToolResultIds options message state = (message, state) := by
        simp only [rewriteToolResultIds, callId, useId]
      rw [ids, kept]
      refine ⟨rfl, fun _ => entryRewritten_result result notAssistant ?_ ?_ rfl rfl⟩
      · simp [Entry.mentions, callId, useId, ids]
      · simp [ids]
    | some toolUseId =>
      have ids : message.resultIds = [toolUseId] := by simp [Message.resultIds, callId, useId]
      have written : rewriteToolResultIds options message state =
          ({ message with toolUseId := .string (resolveToolResultId options toolUseId state).1 },
            (resolveToolResultId options toolUseId state).2) := by
        simp only [rewriteToolResultIds, callId, useId]
      rw [ids, written]
      simp only [List.map_cons, List.map_nil, resolveAll, resolveId, List.mem_singleton, forall_eq]
      refine ⟨trivial, fun named => entryRewritten_result result notAssistant ?_ ?_ rfl ?_⟩
      · simp [Entry.mentions, callId, useId, ids, result, Value.readString]
      · simp [Message.resultIds, callId, nonEmptyString_string named]
      · rw [withoutId_string named, withoutId_of_nonEmptyString useId]
  | some toolCallId =>
    cases useId : message.toolUseId.nonEmptyString with
    | none =>
      have ids : message.resultIds = [toolCallId] := by simp [Message.resultIds, callId, useId]
      have written : rewriteToolResultIds options message state =
          ({ message with toolCallId := .string (resolveToolResultId options toolCallId state).1 },
            (resolveToolResultId options toolCallId state).2) := by
        simp only [rewriteToolResultIds, callId, useId]
      rw [ids, written]
      simp only [List.map_cons, List.map_nil, resolveAll, resolveId, List.mem_singleton, forall_eq]
      refine ⟨trivial, fun named => entryRewritten_result result notAssistant ?_ ?_ ?_ rfl⟩
      · simp [Entry.mentions, callId, useId, ids, result, Value.readString]
      · simp [Message.resultIds, useId, nonEmptyString_string named]
      · rw [withoutId_string named, withoutId_of_nonEmptyString callId]
    | some toolUseId =>
      by_cases shared : toolCallId = toolUseId
      · subst shared
        have ids : message.resultIds = [toolCallId] := by simp [Message.resultIds, callId, useId]
        have written : rewriteToolResultIds options message state =
            ({ message with
              toolCallId := .string (resolveToolResultId options toolCallId state).1
              toolUseId := .string (resolveToolResultId options toolCallId state).1 },
              (resolveToolResultId options toolCallId state).2) := by
          simp only [rewriteToolResultIds, callId, useId, if_true]
        rw [ids, written]
        simp only [List.map_cons, List.map_nil, resolveAll, resolveId, List.mem_singleton, forall_eq]
        refine ⟨trivial, fun named => entryRewritten_result result notAssistant ?_ ?_ ?_ ?_⟩
        · simp [Entry.mentions, callId, useId, ids, result, Value.readString]
        · simp [Message.resultIds, nonEmptyString_string named]
        · rw [withoutId_string named, withoutId_of_nonEmptyString callId]
        · rw [withoutId_string named, withoutId_of_nonEmptyString useId]
      · have ids : message.resultIds = [toolCallId, toolUseId] := by
          simp [Message.resultIds, callId, useId, shared]
        obtain ⟨first, first_eq⟩ : ∃ first, first = resolveToolResultId options toolCallId state :=
          ⟨_, rfl⟩
        obtain ⟨second, second_eq⟩ : ∃ second, second = resolveToolResultId options toolUseId first.2 :=
          ⟨_, rfl⟩
        have written : rewriteToolResultIds options message state =
            ({ message with toolCallId := .string first.1, toolUseId := .string second.1 },
              second.2) := by
          simp only [rewriteToolResultIds, callId, useId, if_neg shared, ← first_eq, ← second_eq]
        rw [ids, written]
        simp only [List.map_cons, List.map_nil, resolveAll, resolveId, ← first_eq, ← second_eq,
          List.mem_cons, List.not_mem_nil, or_false, forall_eq_or_imp, forall_eq]
        refine ⟨trivial, fun named => entryRewritten_result result notAssistant ?_ ?_ ?_ ?_⟩
        · simp [Entry.mentions, callId, useId, ids, result, Value.readString, shared]
        · intro id member
          simpa [Message.resultIds, nonEmptyString_string named.1, nonEmptyString_string named.2]
            using member
        · rw [withoutId_string named.1, withoutId_of_nonEmptyString callId]
        · rw [withoutId_string named.2, withoutId_of_nonEmptyString useId]

theorem rewriteEntry_spec (entry : Entry) (state : ResolverState) :
    (rewriteEntry options entry state).2 = (resolveAll options entry.idUses state).2 ∧
      ((∀ new ∈ (resolveAll options entry.idUses state).1, new ≠ "") →
        EntryRewritten entry (rewriteEntry options entry state).1
          (resolveAll options entry.idUses state).1) := by
  cases entry with
  | other value => exact ⟨rfl, fun _ => ⟨rfl, rfl, fun _ => rfl, by simp [rewriteEntry, Entry.resultIds], rfl⟩⟩
  | object message =>
    cases assistant : message.isAssistant with
    | true =>
      simpa only [rewriteEntry, assistant, if_true] using rewriteAssistant_spec options assistant state
    | false =>
      cases result : message.isToolResult with
      | true =>
        simpa only [rewriteEntry, assistant, result, if_true, Bool.false_eq_true, if_false] using
          rewriteResult_spec options result state
      | false =>
        have uses : (Entry.object message).idUses = [] := by
          simp [Entry.idUses, Entry.callIds, Entry.resultIds, assistant, result]
        have kept : rewriteEntry options (.object message) state = (.object message, state) := by
          simp [rewriteEntry, assistant, result]
        rw [uses, kept]
        refine ⟨rfl, fun _ => ⟨rfl, ?_, fun _ => ?_, ?_, rfl⟩⟩
        · simp [Entry.callIds, Entry.isAssistant, assistant]
        · simp [Entry.mentions, Entry.resultIds, result]
        · simp [Entry.resultIds, result]

end Rewrite

/-! ### Rewritten spans -/

theorem resolveAll_append (options : ResolverOptions) (first second : List IdUse) :
    ∀ state : ResolverState, resolveAll options (first ++ second) state =
      ((resolveAll options first state).1 ++
          (resolveAll options second (resolveAll options first state).2).1,
        (resolveAll options second (resolveAll options first state).2).2) := by
  induction first with
  | nil => exact fun _ => rfl
  | cons use rest inductionHypothesis =>
    intro state
    simp only [List.cons_append, resolveAll, inductionHypothesis]

theorem searchSucceeds_append (options : ResolverOptions) (first second : List IdUse) :
    ∀ state : ResolverState, SearchSucceeds options (first ++ second) state ↔
      SearchSucceeds options first state ∧
        SearchSucceeds options second (resolveAll options first state).2 := by
  induction first with
  | nil => exact fun _ => by simp [SearchSucceeds, resolveAll]
  | cons use rest inductionHypothesis =>
    intro state
    simp only [List.cons_append, SearchSucceeds, inductionHypothesis, resolveAll, and_assoc]

theorem length_resolveAll (options : ResolverOptions) (uses : List IdUse) :
    ∀ state : ResolverState, (resolveAll options uses state).1.length = uses.length := by
  induction uses with
  | nil => exact fun _ => rfl
  | cons use rest inductionHypothesis =>
    exact fun state => congrArg Nat.succ (inductionHypothesis _)

theorem rewriteEntries_append (options : ResolverOptions) (first second : List Entry) :
    ∀ state : ResolverState, rewriteEntries options (first ++ second) state =
      ((rewriteEntries options first state).1 ++
          (rewriteEntries options second (rewriteEntries options first state).2).1,
        (rewriteEntries options second (rewriteEntries options first state).2).2) := by
  induction first with
  | nil => exact fun _ => rfl
  | cons entry rest inductionHypothesis =>
    intro state
    simp only [List.cons_append, rewriteEntries, inductionHypothesis]

/-- The raw ids the results of a span use, with the ids that stand in their place. -/
def spanMentions (source output : List Entry) : List (String × String) :=
  (List.zipWith Entry.mentions source output).flatten

/-- What rewriting entries without an assistant turn makes of them. -/
structure SpanRewritten (source output : List Entry) (news : List String) : Prop where
  isAssistant : ∀ entry ∈ output, entry.isAssistant = false
  callIds : output.flatMap Entry.callIds = []
  mentions : spanMentions source output = (source.flatMap Entry.resultIds).zip news
  resultIds : ∀ entry ∈ output, ∀ id ∈ entry.resultIds, id ∈ news
  withoutIds : output.map Entry.withoutIds = source.map Entry.withoutIds

theorem Entry.idUses_of_not_assistant {entry : Entry} (notAssistant : entry.isAssistant = false) :
    entry.idUses = entry.resultIds.map .result := by
  cases entry with
  | other value => rfl
  | object message =>
    have notAssistant : message.isAssistant = false := notAssistant
    simp [Entry.idUses, Entry.callIds, notAssistant]

theorem rewriteSpan_spec (options : ResolverOptions) (span : List Entry) :
    (∀ entry ∈ span, entry.isAssistant = false) → ∀ state : ResolverState,
      (rewriteEntries options span state).2 =
          (resolveAll options ((span.flatMap Entry.resultIds).map .result) state).2 ∧
        ((∀ new ∈ (resolveAll options ((span.flatMap Entry.resultIds).map .result) state).1, new ≠ "") →
          SpanRewritten span (rewriteEntries options span state).1
            (resolveAll options ((span.flatMap Entry.resultIds).map .result) state).1) := by
  induction span with
  | nil => exact fun _ state => ⟨rfl, fun _ => ⟨by simp [rewriteEntries], rfl, rfl, by simp [rewriteEntries], rfl⟩⟩
  | cons entry rest inductionHypothesis =>
    intro unmarked state
    have notAssistant := unmarked entry List.mem_cons_self
    obtain ⟨entryFinal, entryRewritten⟩ := rewriteEntry_spec options entry state
    rw [Entry.idUses_of_not_assistant notAssistant] at entryFinal entryRewritten
    obtain ⟨final, rewritten⟩ := inductionHypothesis
      (fun other member => unmarked other (List.mem_cons_of_mem _ member))
      (rewriteEntry options entry state).2
    rw [entryFinal] at final rewritten
    rw [List.flatMap_cons, List.map_append, resolveAll_append]
    simp only [rewriteEntries, entryFinal]
    refine ⟨final, fun named => ?_⟩
    have first := entryRewritten fun new member => named new (List.mem_append_left _ member)
    have others := rewritten fun new member => named new (List.mem_append_right _ member)
    refine ⟨?_, ?_, ?_, ?_, ?_⟩
    · exact List.forall_mem_cons.2 ⟨first.isAssistant.trans notAssistant, others.isAssistant⟩
    · rw [List.flatMap_cons, first.callIds, others.callIds]
      simp [notAssistant]
    · have length := length_resolveAll options (entry.resultIds.map .result) state
      rw [List.length_map] at length
      rw [List.flatMap_cons, List.zip_append length.symm, ← first.mentions notAssistant,
        ← others.mentions]
      rfl
    · refine List.forall_mem_cons.2 ⟨fun id member => ?_, fun other member id used => ?_⟩
      · exact List.mem_append_left _ (first.resultIds id member)
      · exact List.mem_append_right _ (others.resultIds other member id used)
    · rw [List.map_cons, List.map_cons, first.withoutIds, others.withoutIds]

/-! ### Sanitised lists -/

/-- The results of a turn's span carry the rewritten ids of the turn's calls. -/
def CarriesIds (source output : Entry × List Entry) : Prop :=
  ∀ raw ∈ source.1.callIds, Carries (idsFor raw (source.1.callIds.zip output.1.callIds))
    (idsFor raw (spanMentions source.2 output.2))

/-- What the rewriting promises of its output. -/
structure SanitizedIds (options : ResolverOptions) (messages output : List Entry) : Prop where
  accepted : ∀ entry ∈ output, ∀ id, id ∈ entry.callIds ∨ id ∈ entry.resultIds → AcceptedId options id
  distinct : (output.flatMap Entry.callIds).Nodup
  carried : List.Forall₂ CarriesIds (Sections.cut Entry.isAssistant messages).2
    (Sections.cut Entry.isAssistant output).2
  onlyIds : output.map Entry.withoutIds = messages.map Entry.withoutIds

/-- The calls with a raw id that have no result yet, after some uses of ids. -/
def openCalls (uses : List IdUse) (raw : String) : Nat :=
  uses.foldl (fun waiting use =>
    match use with
    | .call id => if id = raw then waiting + 1 else waiting
    | .result id => if id = raw then waiting - 1 else waiting) 0

/-- The uses of ids in a turn and its span. -/
def turnUses (turn : Entry × List Entry) : List IdUse :=
  turn.1.idUses ++ turn.2.flatMap Entry.idUses

/-- A turn whose results use the raw id of a call finds no earlier call with it waiting, and has no
more results for it than calls. -/
def PairableTurn (earlier : List IdUse) (turn : Entry × List Entry) : Prop :=
  ∀ raw ∈ turn.1.callIds, raw ∈ turn.2.flatMap Entry.resultIds →
    openCalls earlier raw = 0 ∧ (turn.2.flatMap Entry.resultIds).count raw ≤ turn.1.callIds.count raw

def PairableTurns : List IdUse → List (Entry × List Entry) → Prop
  | _, [] => True
  | earlier, turn :: rest => PairableTurn earlier turn ∧ PairableTurns (earlier ++ turnUses turn) rest

instance (earlier : List IdUse) (turn : Entry × List Entry) : Decidable (PairableTurn earlier turn) :=
  inferInstanceAs (Decidable (∀ raw ∈ turn.1.callIds, raw ∈ turn.2.flatMap Entry.resultIds →
    openCalls earlier raw = 0 ∧ (turn.2.flatMap Entry.resultIds).count raw ≤ turn.1.callIds.count raw))

instance PairableTurns.decidable : ∀ (earlier : List IdUse) (turns : List (Entry × List Entry)),
    Decidable (PairableTurns earlier turns)
  | _, [] => .isTrue trivial
  | earlier, turn :: rest =>
    have := PairableTurns.decidable (earlier ++ turnUses turn) rest
    inferInstanceAs (Decidable (_ ∧ _))

/-- The lists in which every turn is pairable. -/
def PairableIds (messages : List Entry) : Prop :=
  PairableTurns ((Sections.cut Entry.isAssistant messages).1.flatMap Entry.idUses)
    (Sections.cut Entry.isAssistant messages).2

instance (messages : List Entry) : Decidable (PairableIds messages) := PairableTurns.decidable _ _

theorem openCalls_append (first second : List IdUse) (raw : String) :
    openCalls (first ++ second) raw = second.foldl (fun waiting use =>
      match use with
      | .call id => if id = raw then waiting + 1 else waiting
      | .result id => if id = raw then waiting - 1 else waiting) (openCalls first raw) := by
  rw [openCalls, List.foldl_append, openCalls]

theorem openCalls_calls (earlier : List IdUse) (raws : List String) (raw : String) :
    openCalls (earlier ++ raws.map .call) raw = openCalls earlier raw + raws.count raw := by
  induction raws generalizing earlier with
  | nil => simp
  | cons other rest inductionHypothesis =>
    rw [List.map_cons, List.append_cons, inductionHypothesis, openCalls_append, List.count_cons]
    by_cases same : other = raw <;> simp [same]
    omega

theorem openCalls_results (earlier : List IdUse) (raws : List String) (raw : String) :
    openCalls (earlier ++ raws.map .result) raw = openCalls earlier raw - raws.count raw := by
  induction raws generalizing earlier with
  | nil => simp
  | cons other rest inductionHypothesis =>
    rw [List.map_cons, List.append_cons, inductionHypothesis, openCalls_append, List.count_cons]
    by_cases same : other = raw <;> simp [same]
    omega

theorem length_idsFor {raws news : List String} (length : news.length = raws.length) (raw : String) :
    (idsFor raw (raws.zip news)).length = raws.count raw := by
  induction raws generalizing news with
  | nil => simp [idsFor]
  | cons other rest inductionHypothesis =>
    cases news with
    | nil => cases length
    | cons new news =>
      rw [List.zip_cons_cons, idsFor_cons, List.count_cons]
      by_cases same : other = raw
      · simp [same, inductionHypothesis (Nat.succ.inj length)]
      · simp [same, inductionHypothesis (Nat.succ.inj length)]

/-- The queues hold as many ids as calls are waiting. -/
def ResolverState.Counts (state : ResolverState) (uses : List IdUse) : Prop :=
  ∀ raw, (state.pendingByRawId raw).length = openCalls uses raw

section Turns

variable {options : ResolverOptions} {earlier : List IdUse}

theorem CallsResolved.counts {raws news : List String} {state final : ResolverState}
    (resolved : CallsResolved options raws news state final)
    (counts : state.Counts earlier) : final.Counts (earlier ++ raws.map .call) := fun raw => by
  rw [resolved.pending, List.length_append, counts, openCalls_calls, length_idsFor resolved.length]

theorem ResultsResolved.counts {raws news : List String} {state final : ResolverState}
    (resolved : ResultsResolved options raws news state final)
    (counts : state.Counts earlier) : final.Counts (earlier ++ raws.map .result) := fun raw => by
  rw [resolved.pending, List.length_drop, counts, openCalls_results, length_idsFor resolved.length]

/-- What rewriting a turn and its span makes of them. -/
structure TurnRewritten (options : ResolverOptions) (earlier : List IdUse)
    (source output : Entry × List Entry) (state final : ResolverState) : Prop where
  sound : final.Sound options
  counts : final.Counts (earlier ++ turnUses source)
  used : state.used ⊆ final.used
  marked : output.1.isAssistant = true
  unmarked : ∀ entry ∈ output.2, entry.isAssistant = false
  accepted : ∀ entry ∈ output.1 :: output.2, ∀ id, id ∈ entry.callIds ∨ id ∈ entry.resultIds →
    AcceptedId options id
  spanCallIds : output.2.flatMap Entry.callIds = []
  distinct : output.1.callIds.Nodup
  fresh : ∀ id ∈ output.1.callIds, id ∉ state.used ∧ id ∈ final.used
  withoutIds : (output.1 :: output.2).map Entry.withoutIds = (source.1 :: source.2).map Entry.withoutIds
  carries : CarriesIds source output ↔ PairableTurn earlier source

theorem Entry.idUses_of_assistant {entry : Entry} (assistant : entry.isAssistant = true) :
    entry.idUses = entry.callIds.map .call := by
  cases entry with
  | other value => cases assistant
  | object message =>
    have notResult := message.isToolResult_eq_false assistant
    simp [Entry.idUses, Entry.resultIds, notResult]

theorem idUses_span {span : List Entry} (unmarked : ∀ entry ∈ span, entry.isAssistant = false) :
    span.flatMap Entry.idUses = (span.flatMap Entry.resultIds).map .result := by
  rw [List.map_flatMap]
  exact List.flatMap_congr fun entry member => Entry.idUses_of_not_assistant (unmarked entry member)

theorem Entry.resultIds_of_assistant {entry : Entry} (assistant : entry.isAssistant = true) :
    entry.resultIds = [] := by
  cases entry with
  | other value => cases assistant
  | object message =>
    have notResult := message.isToolResult_eq_false assistant
    simp [Entry.resultIds, notResult]

/-- One turn and its span: what is written, and when its results carry its calls' ids. -/
theorem rewriteTurn_spec {turn : Entry × List Entry} (marked : turn.1.isAssistant = true)
    (unmarked : ∀ entry ∈ turn.2, entry.isAssistant = false) {state : ResolverState}
    (sound : state.Sound options) (counts : state.Counts earlier)
    (succeeds : SearchSucceeds options (turnUses turn) state) :
    ∃ output, rewriteEntries options (turn.1 :: turn.2) state =
        (output.1 :: output.2, (resolveAll options (turnUses turn) state).2) ∧
      TurnRewritten options earlier turn output state (resolveAll options (turnUses turn) state).2 := by
  have uses : turnUses turn =
      turn.1.callIds.map .call ++ (turn.2.flatMap Entry.resultIds).map .result := by
    rw [turnUses, Entry.idUses_of_assistant marked, idUses_span unmarked]
  rw [uses, searchSucceeds_append] at succeeds
  have calls := resolveAll_calls turn.1.callIds state succeeds.1
  obtain ⟨headFinal, head⟩ := rewriteEntry_spec options turn.1 state
  rw [Entry.idUses_of_assistant marked] at headFinal head
  have answers := resolveAll_results (turn.2.flatMap Entry.resultIds) _ succeeds.2
  obtain ⟨spanFinal, span⟩ := rewriteSpan_spec options turn.2 unmarked
    (resolveAll options (turn.1.callIds.map .call) state).2
  replace head := head fun new member => (calls.accepted new member).ne_empty
  replace span := span fun new member => (answers.accepted (calls.sound sound) new member).ne_empty
  rw [uses, resolveAll_append]
  refine ⟨((rewriteEntry options turn.1 state).1, (rewriteEntries options turn.2
    (resolveAll options (turn.1.callIds.map .call) state).2).1), ?_, ?_⟩
  · simp only [rewriteEntries, headFinal, spanFinal]
  obtain ⟨news, news_eq⟩ : ∃ news, news = resolveAll options (turn.1.callIds.map .call) state := ⟨_, rfl⟩
  rw [← news_eq] at calls head span answers ⊢
  obtain ⟨newResults, newResults_eq⟩ : ∃ newResults, newResults =
    resolveAll options ((turn.2.flatMap Entry.resultIds).map .result) news.2 := ⟨_, rfl⟩
  rw [← newResults_eq] at span answers ⊢
  have headIds := head.callIds
  rw [if_pos marked] at headIds
  refine ⟨answers.sound (calls.sound sound), ?_, ?_, head.isAssistant.trans marked, span.isAssistant,
    ?_, span.callIds, ?_, ?_, ?_, ?_⟩
  · rw [uses, ← List.append_assoc]
    exact answers.counts (calls.counts counts)
  · refine Finset.Subset.trans ?_ answers.used
    rw [calls.used]
    exact Finset.subset_union_left
  · refine List.forall_mem_cons.2 ⟨fun id named => ?_, fun entry member id named => ?_⟩
    · rw [headIds] at named
      refine calls.accepted id (named.resolve_right fun result => ?_)
      simp [Entry.resultIds_of_assistant (head.isAssistant.trans marked)] at result
    · refine answers.accepted (calls.sound sound) id (span.resultIds entry member id ?_)
      refine named.resolve_left fun called => ?_
      exact List.ne_nil_of_mem (List.mem_flatMap.2 ⟨entry, member, called⟩) span.callIds
  · rw [headIds]
    exact calls.distinct
  · intro id called
    rw [headIds] at called
    refine ⟨calls.fresh id called, answers.used ?_⟩
    rw [calls.used]
    exact Finset.mem_union_right _ (List.mem_toFinset.2 called)
  · rw [List.map_cons, List.map_cons, head.withoutIds, span.withoutIds]
  · refine forall₂_congr fun raw called => ?_
    rw [headIds, span.mentions, carries_iff sound calls answers called, ← List.length_eq_zero_iff,
      ← List.length_eq_zero_iff, counts raw, length_idsFor calls.length, length_idsFor answers.length,
      List.count_eq_zero]
    exact Decidable.imp_iff_not_or.symm

/-- What rewriting turns that follow each other makes of them. -/
structure TurnsRewritten (options : ResolverOptions) (earlier : List IdUse)
    (source output : List (Entry × List Entry)) (state : ResolverState) : Prop where
  heads : ∀ part ∈ output, part.1.isAssistant = true
  bodies : ∀ part ∈ output, ∀ entry ∈ part.2, entry.isAssistant = false
  accepted : ∀ entry ∈ Sections.join [] output, ∀ id, id ∈ entry.callIds ∨ id ∈ entry.resultIds →
    AcceptedId options id
  distinct : ((Sections.join [] output).flatMap Entry.callIds).Nodup
  fresh : ∀ id ∈ (Sections.join [] output).flatMap Entry.callIds, id ∉ state.used
  withoutIds : (Sections.join [] output).map Entry.withoutIds =
    (Sections.join [] source).map Entry.withoutIds
  carries : List.Forall₂ CarriesIds source output ↔ PairableTurns earlier source

theorem join_nil_cons (part : Entry × List Entry) (sections : List (Entry × List Entry)) :
    Sections.join [] (part :: sections) = (part.1 :: part.2) ++ Sections.join [] sections := by
  simp [Sections.join]

/-- By induction on the turns: each is rewritten in the state the earlier ones leave. -/
theorem rewriteTurns_spec (sections : List (Entry × List Entry)) :
    (∀ part ∈ sections, part.1.isAssistant = true) →
    (∀ part ∈ sections, ∀ entry ∈ part.2, entry.isAssistant = false) →
    ∀ (state : ResolverState) (earlier : List IdUse), state.Sound options → state.Counts earlier →
      SearchSucceeds options (sections.flatMap turnUses) state →
      ∃ output, (rewriteEntries options (Sections.join [] sections) state).1 = Sections.join [] output ∧
        TurnsRewritten options earlier sections output state := by
  induction sections with
  | nil =>
    intro _ _ state earlier _ _ _
    exact ⟨[], rfl, by simp, by simp, by simp [Sections.join], by simp [Sections.join],
      by simp [Sections.join], rfl, by simp [PairableTurns]⟩
  | cons turn rest inductionHypothesis =>
    intro heads bodies state earlier sound counts succeeds
    rw [List.flatMap_cons, searchSucceeds_append] at succeeds
    obtain ⟨output, written, turnRewritten⟩ := rewriteTurn_spec (heads turn List.mem_cons_self)
      (bodies turn List.mem_cons_self) sound counts succeeds.1
    obtain ⟨outputs, othersWritten, rewritten⟩ := inductionHypothesis
      (fun part member => heads part (List.mem_cons_of_mem _ member))
      (fun part member => bodies part (List.mem_cons_of_mem _ member))
      _ _ turnRewritten.sound turnRewritten.counts succeeds.2
    have ownIds : (output.1 :: output.2).flatMap Entry.callIds = output.1.callIds := by
      rw [List.flatMap_cons, turnRewritten.spanCallIds, List.append_nil]
    refine ⟨output :: outputs, ?_, ?_, ?_, ?_, ?_, ?_, ?_, ?_⟩
    · rw [join_nil_cons, join_nil_cons, rewriteEntries_append, written, othersWritten]
    · exact List.forall_mem_cons.2 ⟨turnRewritten.marked, rewritten.heads⟩
    · exact List.forall_mem_cons.2 ⟨turnRewritten.unmarked, rewritten.bodies⟩
    · rw [join_nil_cons]
      exact List.forall_mem_append.2 ⟨turnRewritten.accepted, rewritten.accepted⟩
    · rw [join_nil_cons, List.flatMap_append, ownIds]
      refine List.nodup_append'.2 ⟨turnRewritten.distinct, rewritten.distinct, fun id own later => ?_⟩
      exact rewritten.fresh id later (turnRewritten.fresh id own).2
    · rw [join_nil_cons, List.flatMap_append, ownIds]
      refine List.forall_mem_append.2 ⟨fun id own => (turnRewritten.fresh id own).1, fun id later old => ?_⟩
      exact rewritten.fresh id later (turnRewritten.used old)
    · rw [join_nil_cons, join_nil_cons, List.map_append, List.map_append, turnRewritten.withoutIds,
        rewritten.withoutIds]
    · rw [List.forall₂_cons, turnRewritten.carries, rewritten.carries, PairableTurns]

end Turns

/-! ### The whole list -/

theorem flatMap_idUses_sections {sections : List (Entry × List Entry)} :
    (Sections.join [] sections).flatMap Entry.idUses = sections.flatMap turnUses := by
  rw [Sections.join_nil, List.flatMap_assoc]
  exact List.flatMap_congr fun part _ => by rw [List.flatMap_cons, turnUses]

/-- When every search for an unused id succeeds, the rewriting keeps calls and results paired
exactly on the lists whose turns are pairable. -/
theorem sanitized_iff (options : ResolverOptions) (messages : List Entry)
    (succeeds : SearchSucceeds options (messages.flatMap Entry.idUses) {}) :
    SanitizedIds options messages (sanitizeToolCallIdsForCloudCodeAssist options messages) ↔
      PairableIds messages := by
  obtain ⟨preamble, preamble_eq⟩ : ∃ preamble,
    preamble = (Sections.cut Entry.isAssistant messages).1 := ⟨_, rfl⟩
  obtain ⟨sections, sections_eq⟩ : ∃ sections,
    sections = (Sections.cut Entry.isAssistant messages).2 := ⟨_, rfl⟩
  have shaped : Sections.Shaped Entry.isAssistant preamble sections := by
    rw [preamble_eq, sections_eq]
    exact Sections.shaped_cut messages
  have whole : messages = preamble ++ Sections.join [] sections := by
    have joined : Sections.join (Sections.cut Entry.isAssistant messages).1
      (Sections.cut Entry.isAssistant messages).2 = messages := Sections.join_cut messages
    rw [← preamble_eq, ← sections_eq] at joined
    simpa [Sections.join] using joined.symm
  have preambleUses := idUses_span shaped.preamble
  rw [whole, List.flatMap_append, searchSucceeds_append, flatMap_idUses_sections, preambleUses] at succeeds
  have answers := resolveAll_results _ _ succeeds.1
  have sound : ({} : ResolverState).Sound options := fun raw id member => by cases member
  have counts : ({} : ResolverState).Counts [] := fun raw => rfl
  obtain ⟨preambleFinal, preambleRewritten⟩ := rewriteSpan_spec options preamble shaped.preamble {}
  replace preambleRewritten := preambleRewritten fun new member => (answers.accepted sound new member).ne_empty
  have laterCounts := answers.counts counts
  rw [List.nil_append] at laterCounts
  obtain ⟨outputs, written, rewritten⟩ := rewriteTurns_spec sections shaped.heads shaped.bodies _ _
    (answers.sound sound) laterCounts succeeds.2
  have output : sanitizeToolCallIdsForCloudCodeAssist options messages =
      Sections.join (rewriteEntries options preamble {}).1 outputs := by
    rw [sanitizeToolCallIdsForCloudCodeAssist, whole, rewriteEntries_append, preambleFinal, written]
    simp [Sections.join]
  have outputCut : Sections.cut Entry.isAssistant (sanitizeToolCallIdsForCloudCodeAssist options messages) =
      ((rewriteEntries options preamble {}).1, outputs) := by
    rw [output]
    exact Sections.cut_join ⟨preambleRewritten.isAssistant, rewritten.heads, rewritten.bodies⟩
  have joined : ∀ front (parts : List (Entry × List Entry)),
      Sections.join front parts = front ++ Sections.join [] parts := fun front parts => by simp [Sections.join]
  refine Iff.trans ?_ rewritten.carries |>.trans ?_
  · refine ⟨fun sanitized => ?_, fun carries => ⟨?_, ?_, ?_, ?_⟩⟩
    · have carried := sanitized.carried
      rwa [outputCut, ← sections_eq] at carried
    · rw [output, joined]
      refine List.forall_mem_append.2 ⟨fun entry member id named => ?_, rewritten.accepted⟩
      refine answers.accepted sound id (preambleRewritten.resultIds entry member id ?_)
      refine named.resolve_left fun called => ?_
      exact List.ne_nil_of_mem (List.mem_flatMap.2 ⟨entry, member, called⟩) preambleRewritten.callIds
    · rw [output, joined, List.flatMap_append, preambleRewritten.callIds, List.nil_append]
      exact rewritten.distinct
    · rw [outputCut, ← sections_eq]
      exact carries
    · rw [output, joined, whole, List.map_append, List.map_append, preambleRewritten.withoutIds,
        rewritten.withoutIds]
  · rw [PairableIds, ← preamble_eq, ← sections_eq, preambleUses]

section Examples

/-- Options under which no id of the lists below is hashed. -/
private def strictOptions : ResolverOptions where
  digest := ⟨fun _ => List.replicate 64 '0', by simp,
    fun _ digit member => by rw [List.eq_of_mem_replicate member]; decide⟩
  mode := .strict
  preserveNativeAnthropicToolUseIds := false
  now := fun _ => 0

private def callTurn (id stopReason : String) : Entry :=
  .object { role := .string "assistant", stopReason := .string stopReason,
            content := .array [.block { type := .string "toolCall", id := .string id }] }

private def answerTo (id : String) : Entry :=
  .object { role := .string "toolResult", toolCallId := .string id }

private def answeredCall : List Entry := [callTurn "call_1" "toolUse", answerTo "call_1"]

theorem sanitized_iff_on_an_answered_call : PairableIds answeredCall ∧
    SanitizedIds strictOptions answeredCall
      (sanitizeToolCallIdsForCloudCodeAssist strictOptions answeredCall) := by
  have pairable : PairableIds answeredCall := by decide +kernel
  refine ⟨pairable, (sanitized_iff strictOptions answeredCall ⟨?_, ?_, trivial⟩).2 pairable⟩
  · intro seed isSeed
    obtain rfl : "call_1" = seed := by
      have expected : allocationSeed strictOptions (.call "call_1") {} = some "call_1" := by decide +kernel
      exact Option.some.inj (expected.symm.trans isSeed)
    exact ⟨"call1", List.mem_append_left _ (List.mem_cons.2 (Or.inl (by decide +kernel))), by decide⟩
  · intro seed isSeed
    have expected : allocationSeed strictOptions (.result "call_1")
        (resolveId strictOptions (.call "call_1") {}).2 = none := by decide +kernel
    rw [Option.mem_def] at isSeed
    exact absurd (expected.symm.trans isSeed) (by simp)

/-- An aborted turn calls an id that the next turn calls again. -/
private def repeatedCall : List Entry :=
  [callTurn "a" "aborted", callTurn "a" "toolUse", answerTo "a"]

/-- The result answers the second call and gets the id of the first. -/
theorem repeated_id_is_not_carried : ¬ SanitizedIds strictOptions repeatedCall
    (sanitizeToolCallIdsForCloudCodeAssist strictOptions repeatedCall) := by
  intro sanitized
  have written : sanitizeToolCallIdsForCloudCodeAssist strictOptions repeatedCall =
      [callTurn "a" "aborted", callTurn "a2" "toolUse", answerTo "a"] := by decide +kernel
  have carried := sanitized.carried
  rw [written] at carried
  have sources : (Sections.cut Entry.isAssistant repeatedCall).2 =
      [(callTurn "a" "aborted", []), (callTurn "a" "toolUse", [answerTo "a"])] := by decide +kernel
  have outputs : (Sections.cut Entry.isAssistant
      [callTurn "a" "aborted", callTurn "a2" "toolUse", answerTo "a"]).2 =
      [(callTurn "a" "aborted", []), (callTurn "a2" "toolUse", [answerTo "a"])] := by decide +kernel
  rw [sources, outputs, List.forall₂_cons, List.forall₂_cons] at carried
  have own := (carried.2.1 "a" (by decide +kernel) 0 "a" (by decide +kernel)).1
  revert own
  decide +kernel

end Examples

end OpenClaw.Transcript
