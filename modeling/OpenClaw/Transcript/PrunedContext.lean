/-
This file says what the pruning of a context keeps, and when it only shrinks it.

Both loops replace tool results one at a time and carry the total along, so the running total
is the estimate of what has been made so far, the ratio the loops stop at is that of the
result, and each message's fate is known: trimmed when it is prunable, cleared when hard
clearing comes to it. That the kept text is the head and the tail of the joined text holds of
the walks over the segments whatever the lengths are.

What does not hold of every input is that a replacement is no larger. The trimmed text gets a
separator and a note, the joined text a newline between segments, and the placeholder has its
own length; none of them is compared with what it replaces.
-/

import OpenClaw.Transcript.ContextPruning

namespace OpenClaw.ContextPruning

open Markdown (CodeUnit units newline)

/-! ### What pruning has to do -/

def joinedText (content : List ContentBlock) : Text :=
  Delimited.join newline (resultParts content)

def SoftTrim.head (softTrim : SoftTrim) : ℕ := (max 0 softTrim.headChars).toNat

def SoftTrim.tail (softTrim : SoftTrim) : ℕ := (max 0 softTrim.tailChars).toNat

/-- A text that starts with the head and ends with the tail of the joined text, and after it,
when something was left out, the note that says so. -/
def KeepsEnds (settings : PruningSettings) (before after : List ContentBlock) : Prop :=
  ∃ kept note, after = [.text (kept ++ note)] ∧
    (note = [] ∨ note = trimNote settings.softTrim.head settings.softTrim.tail
      (joinedText before).length) ∧
    (joinedText before).take settings.softTrim.head <+: kept ∧
    (joinedText before).rtake settings.softTrim.tail <:+ kept

def cleared (settings : PruningSettings) (result : ToolResultMessage) : ToolResultMessage :=
  { result with content := [.text settings.hardClear.placeholder] }

/-- A result of a prunable tool after the first user message and before the last assistant turns
that are protected. -/
def isPrunableAt (params : PruneParams) (index : ℕ) : Bool :=
  match params.messages[index]? with
  | some (.toolResult result) =>
    params.isToolPrunable result.toolName && (params.messages.take index).any Message.isUser &&
      params.settings.keepLastAssistants ≤
        ((params.messages.drop index).countP Message.isAssistant : ℕ)
  | _ => false

def prunableIndexes (params : PruneParams) : List ℕ :=
  (List.range params.messages.length).filter (isPrunableAt params)

/-- The window in characters, when there is one. -/
def PruneParams.charWindow (params : PruneParams) : Option ℚ :=
  (params.contextWindowTokens.filter (0 < ·)).map (· * charsPerTokenEstimate)

/-- What the estimate is made of. -/
def PruneParams.view (params : PruneParams) (messages : List Message) : List Message :=
  if params.dropThinkingBlocksForEstimate then dropThinkingBlocks messages else messages

def PruneParams.ratio (params : PruneParams) (charWindow : ℚ) (messages : List Message) : ℚ :=
  (estimateContextChars (params.view messages) : ℤ) / charWindow

def softened (settings : PruningSettings) (result : ToolResultMessage) : ToolResultMessage :=
  (softTrimToolResultMessage result settings).getD result

def resultChars (result : ToolResultMessage) : ℕ := estimateTextAndImageChars result.content

/-- The estimate of the result at an index, after something has been done to it. -/
def charsAt (params : PruneParams) (change : ToolResultMessage → ToolResultMessage)
    (index : ℕ) : ℕ :=
  match params.messages[index]? with
  | some (.toolResult result) => resultChars (change result)
  | _ => 0

/-- Hard clearing is called for, by the window, the ratio and the size of what it could clear. -/
def Applicable (params : PruneParams) (charWindow : ℚ) : Prop :=
  params.charWindow = some charWindow ∧
    params.settings.softTrimRatio ≤ params.ratio charWindow params.messages ∧
    params.settings.minPrunableToolChars ≤
      ((prunableIndexes params).map (charsAt params (softened params.settings))).sum

structure Pruned (params : PruneParams) (out : List Message) : Prop where
  length : out.length = params.messages.length
  /-- Only prunable results change, and of them only the content. -/
  changes : ∀ (index : ℕ) (before after : Message), params.messages[index]? = some before →
    out[index]? = some after → after = before ∨
      ∃ result content, isPrunableAt params index = true ∧ before = .toolResult result ∧
        after = .toolResult { result with content } ∧
        (content = [.text params.settings.hardClear.placeholder] ∨
          KeepsEnds params.settings result.content content)
  notLarger : ∀ (index : ℕ) (before after : Message), params.messages[index]? = some before →
    out[index]? = some after → estimateMessageChars after ≤ estimateMessageChars before
  contextNotLarger : estimateContextChars out ≤ estimateContextChars params.messages
  hard : ∀ charWindow, params.settings.hardClear.enabled = true → Applicable params charWindow →
    params.ratio charWindow out < params.settings.hardClearRatio ∨
      ∀ index ∈ prunableIndexes params, ∀ result,
        params.messages[index]? = some (.toolResult result) →
          out[index]? = some (.toolResult (cleared params.settings result))

/-! ### When replacements are no larger -/

/-- The indexes hard clearing takes: in order, while the total is not below the ratio. -/
def clearsFrom (params : PruneParams) (charWindow : ℚ) : ℤ → List ℕ → List ℕ
  | _, [] => []
  | totalChars, index :: indexes =>
    if totalChars / charWindow < params.settings.hardClearRatio then []
    else index :: clearsFrom params charWindow
      (totalChars + ((charsAt params (cleared params.settings) index : ℤ) -
        charsAt params (softened params.settings) index)) indexes

/-- The total after soft trimming. -/
def softTotal (params : PruneParams) : ℤ :=
  estimateContextChars (params.view params.messages) + ((prunableIndexes params).map fun index =>
    (charsAt params (softened params.settings) index : ℤ) - charsAt params id index).sum

def clearedIndexes (params : PruneParams) (charWindow : ℚ) : List ℕ :=
  if params.settings.hardClear.enabled = true ∧
      params.settings.minPrunableToolChars ≤
        ((prunableIndexes params).map (charsAt params (softened params.settings))).sum then
    clearsFrom params charWindow (softTotal params) (prunableIndexes params)
  else []

/-- Where pruning is called for: a prunable result is at least as large as what its soft trimming
gives, unless hard clearing comes to it; and then it is at least as large as the placeholder. -/
def SizesFit (params : PruneParams) : Prop :=
  ∀ charWindow, params.charWindow = some charWindow →
    params.settings.softTrimRatio ≤ params.ratio charWindow params.messages →
      (∀ index ∈ prunableIndexes params, index ∉ clearedIndexes params charWindow →
        charsAt params (softened params.settings) index ≤ charsAt params id index) ∧
      ∀ index ∈ clearedIndexes params charWindow,
        estimateStringChars params.settings.hardClear.placeholder ≤ charsAt params id index

/-! ### Heads and tails -/

theorem length_join (parts : List Text) :
    (Delimited.join newline parts).length = estimateJoinedTextLength parts := by
  induction parts with
  | nil => rfl
  | cons part parts inductionHypothesis =>
    cases parts with
    | nil => simp [Delimited.join, estimateJoinedTextLength]
    | cons next parts =>
      rw [Delimited.join_cons (List.cons_ne_nil _ _), List.length_append, List.length_cons,
        inductionHypothesis]
      simp only [estimateJoinedTextLength, List.length_cons, List.map_cons, List.sum_cons,
        Nat.add_sub_cancel]
      rw [if_neg (Nat.succ_ne_zero _), if_neg (Nat.succ_ne_zero _)]
      omega

/-- The parts still to come, each with the newline before it. -/
def joinedFrom (index : ℕ) (parts : List Text) : Text :=
  if 0 < index ∧ parts ≠ [] then newline :: Delimited.join newline parts
  else Delimited.join newline parts

theorem takeHeadLoop_eq (index remaining : ℕ) (out : Text) (parts : List Text) :
    takeHeadLoop index remaining out parts = out ++ (joinedFrom index parts).take remaining := by
  induction parts generalizing index remaining out with
  | nil => simp [takeHeadLoop, joinedFrom, Delimited.join]
  | cons part parts inductionHypothesis =>
    have whole : joinedFrom index (part :: parts) =
        (if 0 < index then [newline] else []) ++ (part ++ joinedFrom (index + 1) parts) := by
      have rest : Delimited.join newline (part :: parts) =
          part ++ joinedFrom (index + 1) parts := by
        cases parts with
        | nil => simp [joinedFrom, Delimited.join]
        | cons next parts =>
          rw [Delimited.join_cons (List.cons_ne_nil _ _), joinedFrom,
            if_pos ⟨Nat.succ_pos _, List.cons_ne_nil _ _⟩]
      rw [joinedFrom, rest]
      by_cases later : 0 < index
      · rw [if_pos ⟨later, List.cons_ne_nil _ _⟩, if_pos later]; rfl
      · rw [if_neg (fun both => later both.1), if_neg later]; rfl
    rw [takeHeadLoop, whole]
    by_cases none : remaining = 0
    · rw [if_pos none, none, List.take_zero, List.append_nil]
    rw [if_neg none]
    dsimp only
    -- what the newline in front takes
    have separated : ∀ rest : Text,
        out ++ ((if 0 < index then [newline] else []) ++ rest).take remaining =
          (if 0 < index then out ++ [newline] else out) ++
            rest.take (if 0 < index then remaining - 1 else remaining) := by
      intro rest
      split
      · obtain ⟨fewer, rfl⟩ := Nat.exists_eq_succ_of_ne_zero none
        rw [List.singleton_append, List.take_succ_cons, Nat.succ_sub_one, List.append_assoc,
          List.singleton_append]
      · rw [List.nil_append]
    rw [separated]
    generalize (if 0 < index then out ++ [newline] else out) = out
    generalize (if 0 < index then remaining - 1 else remaining) = remaining
    by_cases spent : remaining = 0
    · rw [if_pos spent, spent, List.take_zero, List.append_nil]
    rw [if_neg spent]
    split
    next fits =>
      rw [inductionHypothesis, List.take_append, List.take_of_length_le fits, List.append_assoc]
    next long =>
      rw [List.take_append_of_le_length (by omega)]

theorem takeHead_eq (parts : List Text) (maxChars : ℕ) :
    takeHeadFromJoinedText parts maxChars = (Delimited.join newline parts).take maxChars := by
  rw [takeHeadFromJoinedText]
  split
  next none =>
    rcases none with none | none
    · rw [none, List.take_zero]
    · rw [List.length_eq_zero_iff.1 none, Delimited.join, List.take_nil]
  next =>
    rw [takeHeadLoop_eq, List.nil_append, joinedFrom, if_neg fun both => (lt_irrefl _ both.1)]

theorem rtake_append_of_le {front back : Text} {count : ℕ} (fits : back.length ≤ count) :
    (front ++ back).rtake count = front.rtake (count - back.length) ++ back := by
  rw [List.rtake, List.rtake, List.length_append, List.drop_append]
  congr 1
  · congr 1
    omega
  · have whole : front.length + back.length - count - front.length = 0 := by omega
    rw [whole, List.drop_zero]

theorem rtake_append_of_ge {front back : Text} {count : ℕ} (fits : count ≤ back.length) :
    (front ++ back).rtake count = back.drop (back.length - count) := by
  rw [List.rtake, List.length_append, List.drop_append, List.drop_eq_nil_iff.2 (by omega),
    List.nil_append]
  congr 1
  omega

theorem join_concat {fields : List Text} (filled : fields ≠ []) (last : Text) :
    Delimited.join newline (fields ++ [last]) =
      Delimited.join newline fields ++ [newline] ++ last := by
  induction fields with
  | nil => exact absurd rfl filled
  | cons field fields inductionHypothesis =>
    cases fields with
    | nil => simp [Delimited.join]
    | cons next fields =>
      rw [List.cons_append, Delimited.join_cons (by simp),
        inductionHypothesis (List.cons_ne_nil _ _),
        Delimited.join_cons (List.cons_ne_nil _ _)]
      simp only [List.append_assoc, List.cons_append]

theorem flatten_reverse_concat (out : List Text) (piece : Text) :
    (out ++ [piece]).reverse.flatten = piece ++ out.reverse.flatten := by
  rw [List.reverse_append, List.reverse_singleton, List.singleton_append, List.flatten_cons]

theorem takeTailLoop_eq (remaining : ℕ) (out parts : List Text) :
    (takeTailLoop remaining out parts).reverse.flatten =
      (Delimited.join newline parts.reverse).rtake remaining ++ out.reverse.flatten := by
  induction parts generalizing remaining out with
  | nil => simp [takeTailLoop, Delimited.join, List.rtake]
  | cons part before inductionHypothesis =>
    rw [takeTailLoop]
    by_cases none : remaining = 0
    · rw [if_pos none, none, List.rtake_zero, List.nil_append]
    rw [if_neg none]
    rw [List.reverse_cons]
    by_cases first : before = []
    · subst first
      rw [List.reverse_nil, List.nil_append, Delimited.join]
      split
      next fits =>
        rw [if_neg fun both => both.2 rfl, takeTailLoop, flatten_reverse_concat, List.rtake,
          Nat.sub_eq_zero_of_le fits, List.drop_zero]
      next => rw [flatten_reverse_concat, List.rtake]
    have filled : before.reverse ≠ [] := List.reverse_ne_nil_iff.2 first
    rw [join_concat filled]
    split
    next fits =>
      dsimp only
      rw [rtake_append_of_le fits]
      by_cases room : 0 < remaining - part.length
      · rw [if_pos ⟨room, first⟩, inductionHypothesis, flatten_reverse_concat,
          flatten_reverse_concat, rtake_append_of_le (by rw [List.length_singleton]; exact room),
          List.length_singleton, List.append_assoc, List.append_assoc]
      · have spent : remaining - part.length = 0 := by omega
        rw [if_neg fun both => room both.1, inductionHypothesis, flatten_reverse_concat, spent,
          List.rtake_zero, List.rtake_zero, List.nil_append, List.nil_append]
    next long => rw [flatten_reverse_concat, rtake_append_of_ge (by omega)]

theorem takeTail_eq (parts : List Text) (maxChars : ℕ) :
    takeTailFromJoinedText parts maxChars = (Delimited.join newline parts).rtake maxChars := by
  rw [takeTailFromJoinedText]
  split
  next none =>
    rcases none with none | none
    · rw [none, List.rtake_zero]
    · rw [List.length_eq_zero_iff.1 none, Delimited.join, List.rtake_nil]
  next =>
    rw [takeTailLoop_eq, List.reverse_reverse, List.reverse_nil, List.flatten_nil, List.append_nil]

/-- A soft trim keeps both ends, and all but the content. -/
theorem softTrim_keeps {settings : PruningSettings} {result updated : ToolResultMessage}
    (trimmed : softTrimToolResultMessage result settings = some updated) :
    updated = { result with content := updated.content } ∧
      KeepsEnds settings result.content updated.content := by
  have joinedKeeps : KeepsEnds settings result.content
      [.text (Delimited.join newline (resultParts result.content))] :=
    ⟨joinedText result.content, [], by rw [List.append_nil]; rfl, .inl rfl, List.take_prefix _ _,
      List.drop_suffix _ _⟩
  have whole : (if hasImageBlocks result.content = true then
      some { result with content := [.text (Delimited.join newline (resultParts result.content))] }
      else none) = some updated → updated = { result with content := updated.content } ∧
        KeepsEnds settings result.content updated.content := by
    intro replaced
    split at replaced
    · obtain rfl := Option.some.inj replaced
      exact ⟨rfl, joinedKeeps⟩
    · cases replaced
  rw [softTrimToolResultMessage] at trimmed
  dsimp only at trimmed
  split at trimmed
  · exact whole trimmed
  split at trimmed
  · exact whole trimmed
  · obtain rfl := Option.some.inj trimmed
    refine ⟨rfl, _, _, rfl, .inr ?_, ?_, ?_⟩
    · rw [joinedText, length_join]
      rfl
    · rw [takeHead_eq, List.append_assoc]
      exact List.prefix_append _ _
    · rw [takeTail_eq]
      exact List.suffix_append _ _

/-! ### The running total -/

variable {index : ℕ}

theorem sum_map_set {Item : Type*} (size : Item → ℕ) {list : List Item}
    {before : Item} (found : list[index]? = some before) (after : Item) :
    ((list.set index after).map size).sum + size before = (list.map size).sum + size after := by
  induction list generalizing index with
  | nil => cases found
  | cons item list inductionHypothesis =>
    cases index with
    | zero =>
      obtain rfl := Option.some.inj found
      simp only [List.set_cons_zero, List.map_cons, List.sum_cons]
      omega
    | succ index =>
      have rest : ((list.set index after).map size).sum + size before =
          (list.map size).sum + size after := inductionHypothesis found
      simp only [List.set_cons_succ, List.map_cons, List.sum_cons]
      omega

theorem set_of_found {Item : Type*} {list : List Item} {item : Item}
    (found : list[index]? = some item) : list.set index item = list := by
  obtain ⟨inside, rfl⟩ := List.getElem?_eq_some_iff.1 found
  exact List.set_getElem_self inside

variable {out : List Message} {before : ToolResultMessage}

theorem latestAssistantIndex_set
    (found : out[index]? = some (.toolResult before)) (after : ToolResultMessage) :
    latestAssistantIndex (out.set index (.toolResult after)) = latestAssistantIndex out := by
  have sameRoles : ∀ other : ℕ, ((out.set index (.toolResult after))[other]?.map
      Message.isAssistant).getD false = (out[other]?.map Message.isAssistant).getD false := by
    intro other
    rw [List.getElem?_set]
    split
    next same =>
      subst same
      obtain ⟨inside, -⟩ := List.getElem?_eq_some_iff.1 found
      rw [if_pos inside, found]
      rfl
    next => rfl
  rw [latestAssistantIndex, latestAssistantIndex, List.length_set]
  simp only [sameRoles]

/-- What the estimate is made of changes where a result is replaced, and only there. -/
theorem view_set (params : PruneParams)
    (found : out[index]? = some (.toolResult before)) (after : ToolResultMessage) :
    params.view (out.set index (.toolResult after)) =
        (params.view out).set index (.toolResult after) ∧
      (params.view out)[index]? = some (.toolResult before) := by
  rw [PruneParams.view, PruneParams.view]
  split
  · refine ⟨?_, ?_⟩
    · rw [dropThinkingBlocks, latestAssistantIndex_set found, List.mapIdx_set, dropThinkingBlocks]
    · rw [dropThinkingBlocks, List.getElem?_mapIdx, found]
      rfl
  · exact ⟨rfl, found⟩

/-- The running total is the estimate of what has been made. -/
def Totals (params : PruneParams) (state : PruneState) : Prop :=
  state.totalChars = estimateContextChars (params.view state.output)

variable {params : PruneParams}

theorem Totals.replaceResult {state : PruneState}
    (totals : Totals params state)
    (found : state.output[index]? = some (.toolResult before)) (after : ToolResultMessage) :
    Totals params (ContextPruning.replaceResult state index before after) := by
  obtain ⟨same, inView⟩ := view_set params found after
  have summed := sum_map_set estimateMessageChars inView (.toolResult after)
  rw [Totals] at totals ⊢
  rw [ContextPruning.replaceResult]
  dsimp only
  rw [same, totals, estimateContextChars, estimateContextChars]
  omega

/-! ### The two loops -/

def changedAt (change : ToolResultMessage → ToolResultMessage) : Message → Message
  | .toolResult result => .toolResult (change result)
  | message => message

/-- A tool result the settings let be pruned. -/
def isPrunableResult (params : PruneParams) (index : ℕ) : Bool :=
  match params.messages[index]? with
  | some (.toolResult result) => params.isToolPrunable result.toolName
  | _ => false

theorem isPrunableResult_iff :
    isPrunableResult params index = true ↔ ∃ result,
      params.messages[index]? = some (.toolResult result) ∧
        params.isToolPrunable result.toolName = true := by
  rw [isPrunableResult]
  split
  next result found =>
    refine ⟨fun prunable => ⟨result, found, prunable⟩, ?_⟩
    rintro ⟨other, same, prunable⟩
    rw [found] at same
    obtain rfl := Message.toolResult.inj (Option.some.inj same)
    exact prunable
  next none =>
    refine iff_of_false Bool.false_ne_true ?_
    rintro ⟨result, found, -⟩
    exact none result found

theorem charsAt_of_found {result : ToolResultMessage}
    (found : params.messages[index]? = some (.toolResult result))
    (change : ToolResultMessage → ToolResultMessage) :
    charsAt params change index = resultChars (change result) := by
  rw [charsAt, found]

/-- One turn of soft trimming, at a result that may be pruned. -/
theorem softTrimStep_of_prunable {state : PruneState}
    {result : ToolResultMessage} (found : params.messages[index]? = some (.toolResult result))
    (prunable : params.isToolPrunable result.toolName = true)
    (untouched : state.output[index]? = params.messages[index]?) :
    (softTrimStep params state index).prunableToolIndexes = state.prunableToolIndexes ++ [index] ∧
      (softTrimStep params state index).output =
        state.output.set index (.toolResult (softened params.settings result)) ∧
      (softTrimStep params state index).totalChars = state.totalChars +
        ((charsAt params (softened params.settings) index : ℤ) - charsAt params id index) ∧
      (Totals params state → Totals params (softTrimStep params state index)) := by
  rw [charsAt_of_found found, charsAt_of_found found, softTrimStep, found]
  dsimp only
  rw [prunable, if_neg (by decide), softened]
  cases trimmed : softTrimToolResultMessage result params.settings with
  | none =>
    refine ⟨rfl, ?_, ?_, fun totals => totals⟩
    · rw [Option.getD_none]
      exact (set_of_found (untouched.trans found)).symm
    · rw [Option.getD_none, id, sub_self, add_zero]
  | some updated =>
    refine ⟨rfl, rfl, rfl, fun totals => ?_⟩
    have totalsNext : Totals params
        { state with prunableToolIndexes := state.prunableToolIndexes ++ [index] } := totals
    exact totalsNext.replaceResult (untouched.trans found) updated

theorem softTrimStep_of_not (kept : isPrunableResult params index = false) (state : PruneState) :
    softTrimStep params state index = state := by
  rw [softTrimStep]
  rw [isPrunableResult] at kept
  split
  next result found =>
    rw [found] at kept
    have notPrunable : params.isToolPrunable result.toolName = false := kept
    rw [notPrunable]
    rfl
  next => rfl

/-- What soft trimming makes of a list of indexes. -/
theorem foldl_softTrimStep {params : PruneParams} {indexes : List ℕ} (distinct : indexes.Nodup)
    {state : PruneState}
    (untouched : ∀ index ∈ indexes, state.output[index]? = params.messages[index]?) :
    (indexes.foldl (softTrimStep params) state).prunableToolIndexes =
        state.prunableToolIndexes ++ indexes.filter (isPrunableResult params) ∧
      (∀ index : ℕ, (indexes.foldl (softTrimStep params) state).output[index]? =
        if index ∈ indexes.filter (isPrunableResult params) then
          params.messages[index]?.map (changedAt (softened params.settings))
        else state.output[index]?) ∧
      (indexes.foldl (softTrimStep params) state).totalChars = state.totalChars +
        ((indexes.filter (isPrunableResult params)).map fun index =>
          (charsAt params (softened params.settings) index : ℤ) - charsAt params id index).sum ∧
      (Totals params state → Totals params (indexes.foldl (softTrimStep params) state)) := by
  induction indexes generalizing state with
  | nil => simp
  | cons first rest inductionHypothesis =>
    obtain ⟨fresh, distinctRest⟩ := List.nodup_cons.1 distinct
    rw [List.foldl_cons]
    cases prunable : isPrunableResult params first with
    | false =>
      rw [softTrimStep_of_not prunable, List.filter_cons_of_neg (by rw [prunable]; decide)]
      exact inductionHypothesis distinctRest fun index member =>
        untouched index (List.mem_cons_of_mem _ member)
    | true =>
      obtain ⟨result, found, allowed⟩ := isPrunableResult_iff.1 prunable
      obtain ⟨indexesNext, outputNext, totalNext, totalsNext⟩ := softTrimStep_of_prunable found
        allowed (untouched first List.mem_cons_self)
      have untouchedRest : ∀ index ∈ rest,
          (softTrimStep params state first).output[index]? = params.messages[index]? := by
        intro index member
        have apart : first ≠ index := fun same => fresh (same ▸ member)
        rw [outputNext, List.getElem?_set_ne apart]
        exact untouched index (List.mem_cons_of_mem _ member)
      obtain ⟨allIndexes, allOutput, allTotal, allTotals⟩ :=
        inductionHypothesis distinctRest untouchedRest
      rw [List.filter_cons_of_pos prunable]
      refine ⟨?_, fun index => ?_, ?_, fun totals => allTotals (totalsNext totals)⟩
      · rw [allIndexes, indexesNext, List.append_assoc, List.singleton_append]
      · rw [allOutput, outputNext]
        by_cases here : index = first
        · subst here
          have notLater : index ∉ rest.filter (isPrunableResult params) := fun member =>
            fresh (List.mem_of_mem_filter member)
          obtain ⟨inside, -⟩ := List.getElem?_eq_some_iff.1
            ((untouched index List.mem_cons_self).trans found)
          rw [if_neg notLater, if_pos List.mem_cons_self, List.getElem?_set_self inside, found]
          rfl
        · rw [List.getElem?_set_ne (Ne.symm here)]
          have same : index ∈ rest.filter (isPrunableResult params) ↔
              index ∈ first :: rest.filter (isPrunableResult params) := by
            rw [List.mem_cons, or_iff_right here]
          exact if_congr same rfl rfl
      · rw [allTotal, totalNext, List.map_cons, List.sum_cons, add_assoc]

theorem cleared_softened (settings : PruningSettings) (result : ToolResultMessage) :
    cleared settings (softened settings result) = cleared settings result := by
  rw [softened]
  cases trimmed : softTrimToolResultMessage result settings with
  | none => rfl
  | some updated =>
    rw [Option.getD_some, cleared, cleared, (softTrim_keeps trimmed).1]

theorem clearsFrom_subset (params : PruneParams) (charWindow : ℚ) (total : ℤ)
    (indexes : List ℕ) : ∀ index ∈ clearsFrom params charWindow total indexes, index ∈ indexes := by
  induction indexes generalizing total with
  | nil => exact fun _ member => member
  | cons first rest inductionHypothesis =>
    intro index member
    rw [clearsFrom] at member
    split at member
    · cases member
    · exact (List.mem_cons.1 member).elim (fun same => same ▸ List.mem_cons_self)
        fun later => List.mem_cons_of_mem _ (inductionHypothesis _ index later)

/-- What hard clearing makes of a list of trimmed results: it clears those it comes to, and it
comes to all unless the ratio is met. -/
theorem hardClearLoop_spec {params : PruneParams} {charWindow : ℚ} {indexes : List ℕ}
    (distinct : indexes.Nodup) {state : PruneState}
    (softOnes : ∀ index ∈ indexes, ∃ result,
      params.messages[index]? = some (.toolResult result) ∧
        state.output[index]? = some (.toolResult (softened params.settings result))) :
    (∀ index : ℕ, (hardClearLoop params.settings charWindow indexes state).output[index]? =
        if index ∈ clearsFrom params charWindow state.totalChars indexes then
          params.messages[index]?.map (changedAt (cleared params.settings))
        else state.output[index]?) ∧
      (clearsFrom params charWindow state.totalChars indexes = indexes ∨
        (hardClearLoop params.settings charWindow indexes state).totalChars / charWindow <
          params.settings.hardClearRatio) ∧
      (Totals params state →
        Totals params (hardClearLoop params.settings charWindow indexes state)) := by
  induction indexes generalizing state with
  | nil => exact ⟨fun _ => rfl, .inl rfl, id⟩
  | cons first rest inductionHypothesis =>
    obtain ⟨fresh, distinctRest⟩ := List.nodup_cons.1 distinct
    obtain ⟨result, found, soft⟩ := softOnes first List.mem_cons_self
    rw [hardClearLoop, clearsFrom, soft]
    dsimp only
    split
    next below =>
      exact ⟨fun index => (if_neg List.not_mem_nil).symm, .inr below, id⟩
    next =>
      have clearedSame : ({ softened params.settings result with
          content := [.text params.settings.hardClear.placeholder] } : ToolResultMessage) =
          cleared params.settings result := cleared_softened params.settings result
      rw [clearedSame]
      have totalNext : (replaceResult state first (softened params.settings result)
          (cleared params.settings result)).totalChars = state.totalChars +
            ((charsAt params (cleared params.settings) first : ℤ) -
              charsAt params (softened params.settings) first) := by
        rw [charsAt_of_found found, charsAt_of_found found]
        rfl
      have untouched : ∀ index : ℕ, index ≠ first →
          (replaceResult state first (softened params.settings result)
            (cleared params.settings result)).output[index]? = state.output[index]? :=
        fun index apart => List.getElem?_set_ne (Ne.symm apart)
      have softRest : ∀ index ∈ rest, ∃ other,
          params.messages[index]? = some (.toolResult other) ∧
            (replaceResult state first (softened params.settings result)
              (cleared params.settings result)).output[index]? =
                some (.toolResult (softened params.settings other)) := by
        intro index member
        rw [untouched index fun same => fresh (same ▸ member)]
        exact softOnes index (List.mem_cons_of_mem _ member)
      obtain ⟨outputs, ends, totals⟩ := inductionHypothesis distinctRest softRest
      rw [totalNext] at outputs ends
      refine ⟨fun index => ?_, ends.imp_left fun all => by rw [all],
        fun before => totals (before.replaceResult soft _)⟩
      rw [outputs]
      by_cases here : index = first
      · subst here
        have notLater : ∀ total, index ∉ clearsFrom params charWindow total rest :=
          fun total member => fresh (clearsFrom_subset params charWindow total rest index member)
        obtain ⟨inside, -⟩ := List.getElem?_eq_some_iff.1 soft
        rw [if_neg (notLater _), if_pos List.mem_cons_self, found]
        exact List.getElem?_set_self inside
      · rw [untouched index here]
        refine if_congr ?_ rfl rfl
        rw [List.mem_cons, or_iff_right here]

/-! ### Which results are prunable -/

def assistantsIn (messages : List Message) : ℕ := messages.countP Message.isAssistant

variable {messages : List Message} {soft : PruneState}

theorem take_succ_of_lt (inside : index < messages.length) :
    messages.take (index + 1) = messages.take index ++ [messages[index]] := by
  rw [List.take_add_one, List.getElem?_eq_getElem inside, Option.toList_some]

theorem getD_isAssistant (inside : index < messages.length) :
    (messages[index]?.map Message.isAssistant).getD false = messages[index].isAssistant := by
  rw [List.getElem?_eq_getElem inside]
  rfl

/-- The scan ends at an assistant turn with as many of them from there on as were asked for. -/
theorem scanAssistants_some {bound cutoff : ℕ} {remaining : ℤ} (within : bound ≤ messages.length)
    (found : scanAssistants messages bound remaining = some cutoff) :
    ∃ inside : cutoff < messages.length, cutoff < bound ∧ messages[cutoff].isAssistant = true ∧
      (assistantsIn ((messages.take bound).drop cutoff) : ℤ) = remaining := by
  induction bound generalizing remaining with
  | zero => cases found
  | succ bound inductionHypothesis =>
    have inside : bound < messages.length := within
    rw [scanAssistants, getD_isAssistant inside] at found
    -- what the last message adds behind a cutoff below it
    have behind : cutoff < bound → ((messages.take (bound + 1)).drop cutoff) =
        ((messages.take bound).drop cutoff) ++ [messages[bound]] := fun below => by
      rw [take_succ_of_lt inside, List.drop_append_of_le_length]
      rw [List.length_take]
      omega
    cases assistant : messages[bound].isAssistant with
    | true =>
      rw [assistant, if_pos rfl] at found
      split at found
      next last =>
        obtain rfl := Option.some.inj found
        refine ⟨inside, Nat.lt_succ_self _, assistant, ?_⟩
        rw [take_succ_of_lt inside, List.drop_append_of_le_length (by rw [List.length_take]; omega),
          List.drop_eq_nil_of_le (by rw [List.length_take]; omega), List.nil_append, assistantsIn,
          List.countP_singleton, if_pos assistant]
        omega
      next =>
        obtain ⟨isInside, below, isAssistant, counted⟩ := inductionHypothesis (by omega) found
        refine ⟨isInside, by omega, isAssistant, ?_⟩
        rw [behind below, assistantsIn, List.countP_append, List.countP_singleton, if_pos assistant]
        rw [assistantsIn] at counted
        omega
    | false =>
      rw [assistant, if_neg Bool.false_ne_true] at found
      obtain ⟨isInside, below, isAssistant, counted⟩ := inductionHypothesis (by omega) found
      refine ⟨isInside, by omega, isAssistant, ?_⟩
      rw [behind below, assistantsIn, List.countP_append, List.countP_singleton,
        if_neg (by rw [assistant]; decide)]
      rw [assistantsIn] at counted
      omega

/-- The scan finds nothing only where there are fewer assistant turns than were asked for. -/
theorem scanAssistants_none {bound : ℕ} {remaining : ℤ}
    (positive : 0 < remaining) (within : bound ≤ messages.length)
    (absent : scanAssistants messages bound remaining = none) :
    (assistantsIn (messages.take bound) : ℤ) < remaining := by
  induction bound generalizing remaining with
  | zero => simpa [assistantsIn] using positive
  | succ bound inductionHypothesis =>
    have inside : bound < messages.length := within
    rw [scanAssistants, getD_isAssistant inside] at absent
    rw [take_succ_of_lt inside, assistantsIn, List.countP_append, List.countP_singleton]
    cases assistant : messages[bound].isAssistant with
    | true =>
      rw [assistant, if_pos rfl] at absent
      split at absent
      next => cases absent
      next more =>
        have counted := inductionHypothesis (by omega) (by omega) absent
        rw [assistantsIn] at counted
        rw [if_pos rfl]
        omega
    | false =>
      rw [assistant, if_neg Bool.false_ne_true] at absent
      have counted := inductionHypothesis positive (by omega) absent
      rw [assistantsIn] at counted
      rw [if_neg (by decide)]
      omega

/-- What is no assistant turn is before the cutoff exactly when the protected turns are behind. -/
theorem lt_cutoff_iff {keepLastAssistants : ℤ} {cutoff index : ℕ}
    (found : findAssistantCutoffIndex messages keepLastAssistants = some cutoff)
    (inside : index < messages.length) (other : messages[index].isAssistant = false) :
    index < cutoff ↔ keepLastAssistants ≤ (assistantsIn (messages.drop index) : ℕ) := by
  rw [findAssistantCutoffIndex] at found
  split at found
  next all =>
    obtain rfl := Option.some.inj found
    exact iff_of_true inside (by omega)
  next some =>
    obtain ⟨cutoffInside, -, assistant, counted⟩ := scanAssistants_some le_rfl found
    rw [List.take_length] at counted
    constructor
    · intro before
      have more : assistantsIn (messages.drop cutoff) ≤ assistantsIn (messages.drop index) :=
        (List.drop_sublist_drop_left messages before.le).countP_le
      omega
    · intro enough
      by_contra behind
      have apart : cutoff ≠ index := by
        rintro rfl
        rw [assistant] at other
        cases other
      have fewer : assistantsIn (messages.drop index) ≤ assistantsIn (messages.drop (cutoff + 1)) :=
        (List.drop_sublist_drop_left messages (by omega)).countP_le
      have atCutoff : assistantsIn (messages.drop cutoff) =
          assistantsIn (messages.drop (cutoff + 1)) + 1 := by
        rw [List.drop_eq_getElem_cons cutoffInside, assistantsIn, List.countP_cons_of_pos assistant]
        rfl
      omega

theorem not_enough_of_no_cutoff {keepLastAssistants : ℤ}
    (absent : findAssistantCutoffIndex messages keepLastAssistants = none) (index : ℕ) :
    ¬ keepLastAssistants ≤ (assistantsIn (messages.drop index) : ℕ) := by
  rw [findAssistantCutoffIndex] at absent
  split at absent
  next => cases absent
  next some =>
    have counted := scanAssistants_none (by omega) le_rfl absent
    rw [List.take_length] at counted
    have fewer : assistantsIn (messages.drop index) ≤ assistantsIn messages :=
      (List.drop_sublist index messages).countP_le
    omega

/-- What is no user message is behind the first of them exactly when there is one before it. -/
theorem start_le_iff (inside : index < messages.length) (other : messages[index].isUser = false) :
    (findFirstUserIndex messages).getD messages.length ≤ index ↔
      (messages.take index).any Message.isUser = true := by
  rw [findFirstUserIndex]
  cases first : messages.findIdx? Message.isUser with
  | none =>
    rw [List.findIdx?_eq_none_iff] at first
    rw [Option.getD_none]
    refine iff_of_false (by omega) fun any => ?_
    obtain ⟨message, member, isUser⟩ := List.any_eq_true.1 any
    rw [first message (List.mem_of_mem_take member)] at isUser
    cases isUser
  | some start =>
    obtain ⟨startInside, isUser, before⟩ := List.findIdx?_eq_some_iff_getElem.1 first
    rw [Option.getD_some, List.any_eq_true]
    constructor
    · intro behind
      have apart : start ≠ index := by
        rintro rfl
        rw [isUser] at other
        cases other
      exact ⟨messages[start], List.mem_take_iff_getElem.2 ⟨start, by omega, rfl⟩, isUser⟩
    · rintro ⟨message, member, ofUser⟩
      obtain ⟨earlier, bound, rfl⟩ := List.mem_take_iff_getElem.1 member
      by_contra ahead
      exact before earlier (by omega) ofUser

theorem isPrunableAt_iff {cutoff : ℕ}
    (found : findAssistantCutoffIndex params.messages params.settings.keepLastAssistants =
      some cutoff) (index : ℕ) :
    isPrunableAt params index = true ↔ isPrunableResult params index = true ∧
      (findFirstUserIndex params.messages).getD params.messages.length ≤ index ∧
        index < cutoff := by
  rw [isPrunableAt, isPrunableResult]
  split
  next result isResult =>
    obtain ⟨inside, here⟩ := List.getElem?_eq_some_iff.1 isResult
    have notAssistant : params.messages[index].isAssistant = false := by rw [here]; rfl
    have notUser : params.messages[index].isUser = false := by rw [here]; rfl
    rw [start_le_iff inside notUser, lt_cutoff_iff found inside notAssistant, Bool.and_eq_true,
      Bool.and_eq_true, decide_eq_true_iff, and_assoc]
    rfl
  next => exact iff_of_false Bool.false_ne_true fun both => Bool.false_ne_true both.1

/-- The prunable indexes are those the loop of soft trimming meets. -/
theorem prunableIndexes_eq {cutoff : ℕ}
    (found : findAssistantCutoffIndex params.messages params.settings.keepLastAssistants =
      some cutoff) :
    prunableIndexes params =
      (List.range' ((findFirstUserIndex params.messages).getD params.messages.length)
        (cutoff - (findFirstUserIndex params.messages).getD params.messages.length)).filter
          (isPrunableResult params) := by
  have ascending := (List.pairwise_lt_range (n := params.messages.length)).filter
    (isPrunableAt params)
  have ascendingWindow := (List.pairwise_lt_range' 1
    (s := (findFirstUserIndex params.messages).getD params.messages.length)
    (n := cutoff - (findFirstUserIndex params.messages).getD params.messages.length)).filter
      (isPrunableResult params)
  refine List.Perm.eq_of_pairwise (fun _ _ _ _ less more => absurd more less.asymm) ascending
    ascendingWindow ((List.perm_ext_iff_of_nodup (ascending.imp fun less => less.ne)
      (ascendingWindow.imp fun less => less.ne)).2 fun index => ?_)
  rw [List.mem_filter, List.mem_filter, List.mem_range, List.mem_range'_1,
    isPrunableAt_iff found]
  have inside : isPrunableResult params index = true → index < params.messages.length := by
    intro prunable
    obtain ⟨result, isResult, -⟩ := isPrunableResult_iff.1 prunable
    exact (List.getElem?_eq_some_iff.1 isResult).1
  constructor
  · rintro ⟨-, prunable, behind, before⟩
    exact ⟨⟨behind, by omega⟩, prunable⟩
  · rintro ⟨⟨behind, before⟩, prunable⟩
    exact ⟨inside prunable, prunable, behind, by omega⟩

theorem prunableIndexes_of_no_cutoff
    (absent : findAssistantCutoffIndex params.messages params.settings.keepLastAssistants = none) :
    prunableIndexes params = [] := by
  rw [prunableIndexes, List.filter_eq_nil_iff]
  intro index _ prunable
  rw [isPrunableAt] at prunable
  split at prunable
  · exact not_enough_of_no_cutoff absent index
      (of_decide_eq_true (Bool.and_eq_true_iff.1 prunable).2)
  · cases prunable

/-! ### What becomes of a message -/

/-- The messages after pruning, where pruning is called for. -/
structure Outcome (params : PruneParams) (charWindow : ℚ) (out : List Message) : Prop where
  messages : ∀ index : ℕ, out[index]? =
    if index ∈ clearedIndexes params charWindow then
      params.messages[index]?.map (changedAt (cleared params.settings))
    else if index ∈ prunableIndexes params then
      params.messages[index]?.map (changedAt (softened params.settings))
    else params.messages[index]?
  goal : params.settings.hardClear.enabled = true →
    params.settings.minPrunableToolChars ≤
        ((prunableIndexes params).map (charsAt params (softened params.settings))).sum →
      clearedIndexes params charWindow = prunableIndexes params ∨
        params.ratio charWindow out < params.settings.hardClearRatio

theorem clearedIndexes_subset (params : PruneParams) (charWindow : ℚ) :
    ∀ index ∈ clearedIndexes params charWindow, index ∈ prunableIndexes params := by
  intro index member
  rw [clearedIndexes] at member
  split at member
  · exact clearsFrom_subset params charWindow _ _ index member
  · cases member

/-- What soft trimming leaves for hard clearing. -/
structure Softened (params : PruneParams) (soft : PruneState) : Prop where
  indexes : soft.prunableToolIndexes = prunableIndexes params
  output : ∀ index : ℕ, soft.output[index]? =
    if index ∈ prunableIndexes params then
      params.messages[index]?.map (changedAt (softened params.settings))
    else params.messages[index]?
  total : soft.totalChars = softTotal params
  totals : Totals params soft

theorem softTrimAll_softened {cutoff : ℕ}
    (found : findAssistantCutoffIndex params.messages params.settings.keepLastAssistants =
      some cutoff) : Softened params (softTrimAll params cutoff) := by
  obtain ⟨indexes, output, total, totals⟩ := @foldl_softTrimStep params _
    (List.nodup_range' (s := (findFirstUserIndex params.messages).getD params.messages.length)
      (n := cutoff - (findFirstUserIndex params.messages).getD params.messages.length))
    ⟨[], params.messages, estimateContextChars params.estimatedMessages⟩ fun _ _ => rfl
  rw [← prunableIndexes_eq found] at indexes output total
  exact ⟨indexes, output, total, totals rfl⟩

theorem Softened.resultAt (done : Softened params soft)
    (member : index ∈ prunableIndexes params) : ∃ result,
      params.messages[index]? = some (.toolResult result) ∧
        soft.output[index]? = some (.toolResult (softened params.settings result)) := by
  have prunable := (List.mem_filter.1 member).2
  rw [isPrunableAt] at prunable
  split at prunable
  next result found =>
    refine ⟨result, found, ?_⟩
    rw [done.output, if_pos member, found]
    rfl
  next => cases prunable

theorem Softened.prunableToolChars
    (done : Softened params soft) : ContextPruning.prunableToolChars soft =
      ((prunableIndexes params).map (charsAt params (softened params.settings))).sum := by
  rw [ContextPruning.prunableToolChars, done.indexes]
  refine congrArg List.sum (List.map_congr_left fun index member => ?_)
  obtain ⟨result, found, soft⟩ := done.resultAt member
  rw [soft, charsAt_of_found found]
  rfl

variable {charWindow : ℚ}

theorem Softened.outcome_of_kept
    (done : Softened params soft) (none : clearedIndexes params charWindow = [])
    (goal : params.settings.hardClear.enabled = true →
      params.settings.minPrunableToolChars ≤
        ((prunableIndexes params).map (charsAt params (softened params.settings))).sum →
      soft.totalChars / charWindow < params.settings.hardClearRatio) :
    Outcome params charWindow soft.output where
  messages index := by rw [none, if_neg List.not_mem_nil, done.output]
  goal enabled large := .inr (by
    have below := goal enabled large
    rw [done.totals] at below
    exact below)

theorem Softened.outcome_of_cleared
    (done : Softened params soft) (enabled : params.settings.hardClear.enabled = true)
    (large : params.settings.minPrunableToolChars ≤
      ((prunableIndexes params).map (charsAt params (softened params.settings))).sum) :
    Outcome params charWindow
      (hardClearLoop params.settings charWindow soft.prunableToolIndexes soft).output := by
  have clears : clearedIndexes params charWindow =
      clearsFrom params charWindow (softTotal params) (prunableIndexes params) :=
    if_pos ⟨enabled, large⟩
  obtain ⟨messages, ends, totals⟩ := @hardClearLoop_spec params charWindow _
    (List.nodup_range.filter (isPrunableAt params)) soft fun _ => done.resultAt
  rw [done.indexes]
  refine ⟨fun index => ?_, fun _ _ => ?_⟩
  · rw [clears, ← done.output, ← done.total]
    exact messages index
  · rw [clears, ← done.total]
    refine ends.imp_right fun below => ?_
    have sizes := totals done.totals
    rw [Totals] at sizes
    rw [sizes] at below
    exact below

theorem charWindow_eq_some :
    params.charWindow = some charWindow ↔ ∃ tokens, params.contextWindowTokens = some tokens ∧
      0 < tokens ∧ charWindow = tokens * charsPerTokenEstimate := by
  rw [PruneParams.charWindow, Option.map_eq_some_iff]
  constructor
  · rintro ⟨tokens, kept, rfl⟩
    obtain ⟨found, positive⟩ := Option.filter_eq_some_iff.1 kept
    exact ⟨tokens, found, of_decide_eq_true positive, rfl⟩
  · rintro ⟨tokens, found, positive, rfl⟩
    exact ⟨tokens, Option.filter_eq_some_iff.2 ⟨found, decide_eq_true positive⟩, rfl⟩

theorem pruneContextMessages_outcome (window : params.charWindow = some charWindow)
    (full : params.settings.softTrimRatio ≤ params.ratio charWindow params.messages) :
    Outcome params charWindow (pruneContextMessages params) := by
  obtain ⟨tokens, found, positive, rfl⟩ := charWindow_eq_some.1 window
  have wide : ¬ tokens * (charsPerTokenEstimate : ℚ) ≤ 0 := by
    rw [charsPerTokenEstimate]
    push_cast
    linarith
  rw [pruneContextMessages, found]
  dsimp only
  rw [if_neg (not_le.2 positive), if_neg wide]
  cases cutoff : findAssistantCutoffIndex params.messages params.settings.keepLastAssistants with
  | none =>
    have none := prunableIndexes_of_no_cutoff cutoff
    have noneCleared : clearedIndexes params (tokens * charsPerTokenEstimate) = [] :=
      List.eq_nil_iff_forall_not_mem.2 fun index member => by
        have prunable := clearedIndexes_subset params _ index member
        rw [none] at prunable
        cases prunable
    refine ⟨fun index => ?_, fun _ _ => .inl (noneCleared.trans none.symm)⟩
    rw [noneCleared, none, if_neg List.not_mem_nil, if_neg List.not_mem_nil]
  | some cutoffIndex =>
    have done := softTrimAll_softened cutoff
    have called : ¬ ((estimateContextChars params.estimatedMessages : ℤ) : ℚ) /
        (tokens * charsPerTokenEstimate) < params.settings.softTrimRatio := not_lt.2 full
    dsimp only
    rw [if_neg called]
    split
    next below =>
      refine done.outcome_of_kept ?_ fun _ _ => below
      rw [clearedIndexes]
      split
      · rw [done.total] at below
        cases prunableIndexes params with
        | nil => rfl
        | cons first rest => exact if_pos below
      · rfl
    split
    next disabled =>
      rw [Bool.not_eq_true'] at disabled
      refine done.outcome_of_kept (if_neg fun both => ?_) fun enabled => ?_
      · exact Bool.false_ne_true (disabled.symm.trans both.1)
      · exact absurd (disabled.symm.trans enabled) Bool.false_ne_true
    next enabled =>
      rw [done.prunableToolChars]
      split
      next small =>
        exact done.outcome_of_kept (if_neg fun both => not_le.2 small both.2) fun _ large =>
          absurd small (not_lt.2 large)
      next large =>
        refine done.outcome_of_cleared ?_ (not_lt.1 large)
        rwa [Bool.not_eq_true', Bool.not_eq_false] at enabled

theorem pruneContextMessages_unchanged
    (uncalled : ∀ charWindow, params.charWindow = some charWindow →
      ¬ params.settings.softTrimRatio ≤ params.ratio charWindow params.messages) :
    pruneContextMessages params = params.messages := by
  rw [pruneContextMessages]
  cases found : params.contextWindowTokens with
  | none => rfl
  | some tokens =>
    dsimp only
    split
    · rfl
    next positive =>
      split
      · rfl
      split
      · rfl
      have small := not_le.1
        (uncalled _ (charWindow_eq_some.2 ⟨tokens, found, not_le.1 positive, rfl⟩))
      exact if_pos small

/-! ### When pruning does what it should -/

theorem resultChars_cleared (settings : PruningSettings) (result : ToolResultMessage) :
    resultChars (cleared settings result) = estimateStringChars settings.hardClear.placeholder :=
  Nat.add_zero _

theorem prunable_of_mem
    (member : index ∈ prunableIndexes params) : isPrunableAt params index = true ∧
      ∃ result, params.messages[index]? = some (.toolResult result) := by
  have prunable := (List.mem_filter.1 member).2
  refine ⟨prunable, ?_⟩
  rw [isPrunableAt] at prunable
  split at prunable
  next result found => exact ⟨result, found⟩
  next => cases prunable

/-- What happens to a message: nothing, or it is a prunable result that is cleared or trimmed. -/
theorem Outcome.cases (outcome : Outcome params charWindow out) (index : ℕ) :
    (∃ result, index ∈ clearedIndexes params charWindow ∧
        params.messages[index]? = some (.toolResult result) ∧
          out[index]? = some (.toolResult (cleared params.settings result))) ∨
      (∃ result, index ∈ prunableIndexes params ∧ index ∉ clearedIndexes params charWindow ∧
        params.messages[index]? = some (.toolResult result) ∧
          out[index]? = some (.toolResult (softened params.settings result))) ∨
      out[index]? = params.messages[index]? := by
  have here := outcome.messages index
  split at here
  next member =>
    obtain ⟨-, result, found⟩ := prunable_of_mem (clearedIndexes_subset params _ index member)
    rw [found] at here
    exact .inl ⟨result, member, found, here⟩
  next kept =>
    split at here
    next member =>
      obtain ⟨-, result, found⟩ := prunable_of_mem member
      rw [found] at here
      exact .inr (.inl ⟨result, member, kept, found, here⟩)
    next => exact .inr (.inr here)

theorem Outcome.length
    (outcome : Outcome params charWindow out) : out.length = params.messages.length := by
  refine eq_of_forall_ge_iff fun index => ?_
  rw [← List.getElem?_eq_none_iff, ← List.getElem?_eq_none_iff]
  rcases outcome.cases index with ⟨_, _, found, now⟩ | ⟨_, _, _, found, now⟩ | same
  · rw [found, now]
    exact iff_of_false nofun nofun
  · rw [found, now]
    exact iff_of_false nofun nofun
  · rw [same]

/-- A change of a prunable result, to what is cleared or what is trimmed. -/
def ChangedTo (params : PruneParams) (index : ℕ) (before after : Message) : Prop :=
  after = before ∨ ∃ result content, isPrunableAt params index = true ∧
    before = .toolResult result ∧ after = .toolResult { result with content } ∧
      (content = [.text params.settings.hardClear.placeholder] ∨
        KeepsEnds params.settings result.content content)

theorem Outcome.changes (outcome : Outcome params charWindow out) {before after : Message}
    (found : params.messages[index]? = some before) (now : out[index]? = some after) :
    ChangedTo params index before after := by
  rcases outcome.cases index with ⟨result, member, isResult, isAfter⟩ |
    ⟨result, member, -, isResult, isAfter⟩ | same
  · obtain rfl := Option.some.inj (isResult.symm.trans found)
    obtain rfl := Option.some.inj (isAfter.symm.trans now)
    exact .inr ⟨result, _, (prunable_of_mem (clearedIndexes_subset params _ index member)).1, rfl,
      rfl, .inl rfl⟩
  · obtain rfl := Option.some.inj (isResult.symm.trans found)
    obtain rfl := Option.some.inj (isAfter.symm.trans now)
    rw [softened]
    cases trimmed : softTrimToolResultMessage result params.settings with
    | none => exact .inl rfl
    | some updated =>
      obtain ⟨sameRest, keeps⟩ := softTrim_keeps trimmed
      refine .inr ⟨result, updated.content, (prunable_of_mem member).1, rfl, ?_, .inr keeps⟩
      rw [Option.getD_some]
      exact congrArg Message.toolResult sameRest
  · rw [found, now] at same
    exact .inl (Option.some.inj same)

/-- Sizes at an index: what `SizesFit` compares is what the estimate counts. -/
theorem Outcome.sizes (outcome : Outcome params charWindow out) :
    (∀ (index : ℕ) (before after : Message), params.messages[index]? = some before →
      out[index]? = some after → estimateMessageChars after ≤ estimateMessageChars before) ↔
    (∀ index ∈ prunableIndexes params, index ∉ clearedIndexes params charWindow →
        charsAt params (softened params.settings) index ≤ charsAt params id index) ∧
      ∀ index ∈ clearedIndexes params charWindow,
        estimateStringChars params.settings.hardClear.placeholder ≤ charsAt params id index := by
  constructor
  · intro smaller
    refine ⟨fun index member kept => ?_, fun index member => ?_⟩
    · obtain ⟨-, result, found⟩ := prunable_of_mem member
      have now := outcome.messages index
      rw [if_neg kept, if_pos member, found] at now
      rw [charsAt_of_found found, charsAt_of_found found]
      exact smaller index _ _ found now
    · obtain ⟨-, result, found⟩ := prunable_of_mem (clearedIndexes_subset params _ index member)
      have now := outcome.messages index
      rw [if_pos member, found] at now
      rw [charsAt_of_found found, ← resultChars_cleared params.settings result]
      exact smaller index _ _ found now
  · rintro ⟨trimmedFit, clearedFit⟩ index before after found now
    rcases outcome.cases index with ⟨result, member, isResult, isAfter⟩ |
      ⟨result, member, kept, isResult, isAfter⟩ | same
    · obtain rfl := Option.some.inj (isResult.symm.trans found)
      obtain rfl := Option.some.inj (isAfter.symm.trans now)
      have fits := clearedFit index member
      rw [charsAt_of_found isResult, ← resultChars_cleared params.settings result] at fits
      exact fits
    · obtain rfl := Option.some.inj (isResult.symm.trans found)
      obtain rfl := Option.some.inj (isAfter.symm.trans now)
      have fits := trimmedFit index member kept
      rw [charsAt_of_found isResult, charsAt_of_found isResult] at fits
      exact fits
    · rw [found, now] at same
      rw [Option.some.inj same]

theorem sum_map_le_of_getElem? {Item : Type*} (size : Item → ℕ) {after before : List Item}
    (sameLength : after.length = before.length)
    (smaller : ∀ (index : ℕ) (old new : Item), before[index]? = some old →
      after[index]? = some new → size new ≤ size old) :
    (after.map size).sum ≤ (before.map size).sum := by
  induction after generalizing before with
  | nil => exact Nat.zero_le _
  | cons new after inductionHypothesis =>
    cases before with
    | nil => cases sameLength
    | cons old before =>
      simp only [List.map_cons, List.sum_cons]
      exact Nat.add_le_add (smaller 0 old new rfl rfl)
        (inductionHypothesis (Nat.succ.inj sameLength) fun index => smaller (index + 1))

/-- Results of more than ten characters are cut to five from each end. -/
def smallTrim : PruneParams where
  messages := [.user (.plain (units "hi")) "",
    .toolResult { toolName := "read", content := [.text (units "hello world")] }]
  settings :=
    { keepLastAssistants := 0, softTrimRatio := 0, hardClearRatio := 1
      minPrunableToolChars := 0
      softTrim := { maxChars := 10, headChars := 5, tailChars := 5 }
      hardClear := { enabled := true, placeholder := units "[cleared]" } }
  modelContextWindow := some 1000
  contextWindowTokensOverride := none
  isToolPrunable := fun _ => true
  dropThinkingBlocksForEstimate := false

end OpenClaw.ContextPruning
