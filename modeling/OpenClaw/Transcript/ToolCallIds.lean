/-
This file is the id rewriting of `tool-call-id.ts`: every tool call and every tool
result of a message list gets an id its provider accepts. An allocator hands out
unused ids, a resolver gives each call a fresh one and each result the oldest
unanswered one of its raw id, and two rewriters write them into the messages.

SHA-256 is a parameter, `Digest`, that carries the shape of its output. The maps
of the resolver are total functions, a missing entry being zero or the empty
queue. The n-th reading of the clock is `now n`.
-/

import OpenClaw.Transcript.Messages

namespace OpenClaw.Transcript

/-! ### Ids -/

inductive ToolCallIdMode
  | strict | strict9
  deriving DecidableEq, Repr

/-- The hexadecimal digest of a text. -/
structure Digest where
  digits : String → List Char
  length_digits : ∀ text, (digits text).length = 64
  alphanumeric_digits : ∀ text, ∀ digit ∈ digits text, digit.isAlphanum = true

def Digest.shortHash (digest : Digest) (text : String) (length : Nat) : String :=
  String.ofList ((digest.digits text).take length)

/-- The letters and digits of an id. -/
def alphanumericOnly (id : String) : List Char := id.toList.filter Char.isAlphanum

def sanitizeToolCallId (digest : Digest) (mode : ToolCallIdMode) (id : String) : String :=
  if id = "" then
    match mode with
    | .strict9 => "defaultid"
    | .strict => "defaulttoolid"
  else
    match mode with
    | .strict9 =>
      if 9 ≤ (alphanumericOnly id).length then String.ofList ((alphanumericOnly id).take 9)
      else if 0 < (alphanumericOnly id).length then
        digest.shortHash (String.ofList (alphanumericOnly id)) 9
      else digest.shortHash "sanitized" 9
    | .strict =>
      if 0 < (alphanumericOnly id).length then String.ofList (alphanumericOnly id)
      else "sanitizedtoolid"

def isValidCloudCodeAssistToolId (mode : ToolCallIdMode) (id : String) : Bool :=
  match mode with
  | .strict9 => id.toList.all Char.isAlphanum && id.toList.length = 9
  | .strict => id.toList.all Char.isAlphanum && !id.toList.isEmpty

/-- `/^toolu_[A-Za-z0-9_]+$/`. -/
def isNativeAnthropicToolUseId (id : String) : Bool :=
  id.toList.take 6 = "toolu_".toList && !(id.toList.drop 6).isEmpty &&
    (id.toList.drop 6).all fun character => character.isAlphanum || character = '_'

/-- `text.slice(0, bound)`, which counts a negative bound from the end. -/
def sliceTo (text : List Char) (bound : Int) : List Char :=
  if 0 ≤ bound then text.take bound.toNat else text.take (text.length - (-bound).toNat)

/-- The text shortened to what fits in front of a suffix. -/
def withSuffix (text : List Char) (suffix : String) : String :=
  String.ofList (sliceTo text (40 - (suffix.toList.length : Int)) ++ suffix.toList)

/-- The candidates of `makeUniqueToolId`, in the order they are tried. -/
def toolIdCandidates (digest : Digest) (mode : ToolCallIdMode) (id : String) : List String :=
  match mode with
  | .strict9 =>
    let base := sanitizeToolCallId digest .strict9 id
    (if 9 ≤ base.toList.length then [String.ofList (base.toList.take 9)] else []) ++
      (List.range 1000).map fun i => digest.shortHash (id ++ ":" ++ toString i) 9
  | .strict =>
    let base := (sanitizeToolCallId digest .strict id).toList.take 40
    let candidate := base.take 32 ++ (digest.shortHash id 8).toList
    String.ofList base :: String.ofList candidate ::
      (List.range' 2 998).map fun i => withSuffix candidate ("x" ++ toString i)

/-- What is used when every candidate is taken. -/
def clockToolId (digest : Digest) (mode : ToolCallIdMode) (id : String) (now : Nat) : String :=
  match mode with
  | .strict9 => digest.shortHash (id ++ ":" ++ toString now) 9
  | .strict =>
    let base := (sanitizeToolCallId digest .strict id).toList.take 40
    withSuffix (base.take 32 ++ (digest.shortHash id 8).toList) ("t" ++ toString now)

def makeUniqueToolId (digest : Digest) (mode : ToolCallIdMode) (id : String) (used : Finset String)
    (now : Nat) : String :=
  ((toolIdCandidates digest mode id).find? fun candidate => candidate ∉ used).getD
    (clockToolId digest mode id now)

/-! ### The resolver -/

/-- What the resolver is made with. -/
structure ResolverOptions where
  digest : Digest
  mode : ToolCallIdMode
  preserveNativeAnthropicToolUseIds : Bool
  now : Nat → Nat

structure ResolverState where
  used : Finset String := ∅
  assistantOccurrences : String → Nat := fun _ => 0
  orphanToolResultOccurrences : String → Nat := fun _ => 0
  pendingByRawId : String → List String := fun _ => []
  clockReads : Nat := 0

/-- A tool call or a tool result that carries a raw id. -/
inductive IdUse
  | call (id : String)
  | result (id : String)
  deriving DecidableEq, Repr

section Resolver

variable (options : ResolverOptions)

def allocate (seed : String) (state : ResolverState) : String × ResolverState :=
  let next := makeUniqueToolId options.digest options.mode seed state.used (options.now state.clockReads)
  (next, { state with used := insert next state.used, clockReads := state.clockReads + 1 })

/-- Whether a raw id is kept as it is. -/
def preserves (id : String) (occurrence : Nat) (state : ResolverState) : Bool :=
  options.preserveNativeAnthropicToolUseIds && isNativeAnthropicToolUseId id &&
    occurrence = 1 && id ∉ state.used

def allocatePreservingNativeAnthropicId (id : String) (occurrence : Nat) (state : ResolverState) :
    String × ResolverState :=
  if preserves options id occurrence state then (id, { state with used := insert id state.used })
  else allocate options (if occurrence = 1 then id else id ++ ":" ++ toString occurrence) state

def resolveAssistantId (id : String) (state : ResolverState) : String × ResolverState :=
  let occurrence := state.assistantOccurrences id + 1
  let counted := { state with
    assistantOccurrences := Function.update state.assistantOccurrences id occurrence }
  let (next, allocated) := allocatePreservingNativeAnthropicId options id occurrence counted
  (next, { allocated with
    pendingByRawId := Function.update allocated.pendingByRawId id (allocated.pendingByRawId id ++ [next]) })

def resolveToolResultId (id : String) (state : ResolverState) : String × ResolverState :=
  match state.pendingByRawId id with
  | next :: pending =>
    (next, { state with pendingByRawId := Function.update state.pendingByRawId id pending })
  | [] =>
    let occurrence := state.orphanToolResultOccurrences id + 1
    let counted := { state with
      orphanToolResultOccurrences := Function.update state.orphanToolResultOccurrences id occurrence }
    if preserves options id occurrence counted then
      (id, { counted with used := insert id counted.used })
    else allocate options (id ++ ":tool_result:" ++ toString occurrence) counted

def resolveId : IdUse → ResolverState → String × ResolverState
  | .call id, state => resolveAssistantId options id state
  | .result id, state => resolveToolResultId options id state

/-! ### The rewriters -/

/-- A content block with the id of its tool call rewritten. -/
def rewriteToolCallBlock (item : ContentItem) (state : ResolverState) : ContentItem × ResolverState :=
  match item, item.toolCall? with
  | .block record, some call =>
    let (nextId, resolved) := resolveAssistantId options call.id state
    (.block { record with id := .string nextId }, resolved)
  | _, _ => (item, state)

def rewriteContent : List ContentItem → ResolverState → List ContentItem × ResolverState
  | [], state => ([], state)
  | item :: rest, state =>
    let (next, resolved) := rewriteToolCallBlock options item state
    let (others, final) := rewriteContent rest resolved
    (next :: others, final)

def rewriteAssistantToolCallIds (message : Message) (state : ResolverState) : Message × ResolverState :=
  match message.content with
  | .array items =>
    let (next, resolved) := rewriteContent options items state
    ({ message with content := .array next }, resolved)
  | .other _ => (message, state)

/-- The id fields of a result, resolved once when they are equal. -/
def rewriteToolResultIds (message : Message) (state : ResolverState) : Message × ResolverState :=
  match message.toolCallId.nonEmptyString, message.toolUseId.nonEmptyString with
  | some toolCallId, some toolUseId =>
    if toolCallId = toolUseId then
      let (next, resolved) := resolveToolResultId options toolCallId state
      ({ message with toolCallId := .string next, toolUseId := .string next }, resolved)
    else
      let (nextToolCallId, first) := resolveToolResultId options toolCallId state
      let (nextToolUseId, second) := resolveToolResultId options toolUseId first
      ({ message with toolCallId := .string nextToolCallId, toolUseId := .string nextToolUseId }, second)
  | some toolCallId, none =>
    let (next, resolved) := resolveToolResultId options toolCallId state
    ({ message with toolCallId := .string next }, resolved)
  | none, some toolUseId =>
    let (next, resolved) := resolveToolResultId options toolUseId state
    ({ message with toolUseId := .string next }, resolved)
  | none, none => (message, state)

def rewriteEntry (entry : Entry) (state : ResolverState) : Entry × ResolverState :=
  match entry with
  | .other value => (.other value, state)
  | .object message =>
    if message.isAssistant then
      let (next, resolved) := rewriteAssistantToolCallIds options message state
      (.object next, resolved)
    else if message.isToolResult then
      let (next, resolved) := rewriteToolResultIds options message state
      (.object next, resolved)
    else (.object message, state)

def rewriteEntries : List Entry → ResolverState → List Entry × ResolverState
  | [], state => ([], state)
  | entry :: rest, state =>
    let (next, resolved) := rewriteEntry options entry state
    let (others, final) := rewriteEntries rest resolved
    (next :: others, final)

end Resolver

def sanitizeToolCallIdsForCloudCodeAssist (options : ResolverOptions) (messages : List Entry) :
    List Entry := (rewriteEntries options messages {}).1

/-! ### Candidates -/

/-- A text that consists of letters and digits. -/
def Alphanumeric (text : List Char) : Prop := ∀ character ∈ text, character.isAlphanum = true

theorem Alphanumeric.append {first second : List Char} (left : Alphanumeric first)
    (right : Alphanumeric second) : Alphanumeric (first ++ second) := fun character member =>
  (List.mem_append.1 member).elim (left character) (right character)

variable {text : List Char}

theorem Alphanumeric.take (whole : Alphanumeric text) (count : Nat) :
    Alphanumeric (text.take count) := fun character member =>
  whole character (List.mem_of_mem_take member)

theorem Alphanumeric.sliceTo (whole : Alphanumeric text) (bound : Int) :
    Alphanumeric (sliceTo text bound) := by
  unfold Transcript.sliceTo
  split
  · exact whole.take _
  · exact whole.take _

theorem alphanumeric_alphanumericOnly (id : String) : Alphanumeric (alphanumericOnly id) :=
  fun _ member => (List.mem_filter.1 member).2

theorem alphanumeric_shortHash (digest : Digest) (text : String) (length : Nat) :
    Alphanumeric (digest.shortHash text length).toList := by
  rw [Digest.shortHash, String.toList_ofList]
  exact Alphanumeric.take (digest.alphanumeric_digits text) length

theorem length_shortHash (digest : Digest) (text : String) {length : Nat} (short : length ≤ 64) :
    (digest.shortHash text length).toList.length = length := by
  rw [Digest.shortHash, String.toList_ofList, List.length_take, digest.length_digits]
  exact Nat.min_eq_left short

theorem alphanumeric_toString (number : Nat) : Alphanumeric (toString number).toList := by
  intro character member
  rw [Nat.toString_eq_ofList_toDigits, String.toList_ofList] at member
  have digit := Nat.isDigit_of_mem_toDigits (by decide) (by decide) member
  simp [Char.isAlphanum, digit]

theorem alphanumeric_sanitizeToolCallId (digest : Digest) (mode : ToolCallIdMode) (id : String) :
    Alphanumeric (sanitizeToolCallId digest mode id).toList := by
  have fixed : ∀ text : String, text.toList.all Char.isAlphanum = true → Alphanumeric text.toList :=
    fun text all => List.all_eq_true.1 all
  have letters : ∀ text : List Char, Alphanumeric text → Alphanumeric (String.ofList text).toList :=
    fun text all => by rwa [String.toList_ofList]
  unfold sanitizeToolCallId
  by_cases empty : id = ""
  · rw [if_pos empty]
    cases mode
    · exact fixed "defaulttoolid" (by decide)
    · exact fixed "defaultid" (by decide)
  · rw [if_neg empty]
    cases mode with
    | strict =>
      dsimp only
      split
      · exact letters _ (alphanumeric_alphanumericOnly id)
      · exact fixed "sanitizedtoolid" (by decide)
    | strict9 =>
      dsimp only
      split
      · exact letters _ ((alphanumeric_alphanumericOnly id).take 9)
      · split
        · exact alphanumeric_shortHash _ _ _
        · exact alphanumeric_shortHash _ _ _

theorem length_sanitizeToolCallId_strict9 (digest : Digest) (id : String) :
    (sanitizeToolCallId digest .strict9 id).toList.length = 9 := by
  unfold sanitizeToolCallId
  by_cases empty : id = ""
  · rw [if_pos empty]
    decide
  · rw [if_neg empty]
    dsimp only
    split
    · rename_i enough
      rw [String.toList_ofList, List.length_take]
      exact Nat.min_eq_left enough
    · split
      · exact length_shortHash digest _ (by decide)
      · exact length_shortHash digest _ (by decide)

theorem sanitizeToolCallId_strict_ne_nil (digest : Digest) (id : String) :
    (sanitizeToolCallId digest .strict id).toList ≠ [] := by
  unfold sanitizeToolCallId
  split
  · decide
  · dsimp only
    split
    · rename_i some
      rw [String.toList_ofList]
      exact List.ne_nil_of_length_pos some
    · decide

theorem isValid_strict_iff (id : String) : isValidCloudCodeAssistToolId .strict id = true ↔
    Alphanumeric id.toList ∧ id.toList ≠ [] := by
  simp [isValidCloudCodeAssistToolId, Alphanumeric]

theorem isValid_strict9_iff (id : String) : isValidCloudCodeAssistToolId .strict9 id = true ↔
    Alphanumeric id.toList ∧ id.toList.length = 9 := by
  simp [isValidCloudCodeAssistToolId, Alphanumeric]

theorem withSuffix_ne_empty {suffix : String} (named : suffix.toList ≠ []) :
    (withSuffix text suffix).toList ≠ [] := by
  rw [withSuffix, String.toList_ofList]
  exact fun none => named (List.append_eq_nil_iff.1 none).2

theorem alphanumeric_withSuffix (whole : Alphanumeric text) {letter : Char}
    (isLetter : letter.isAlphanum = true) (number : Nat) :
    Alphanumeric (withSuffix text (String.ofList [letter] ++ toString number)).toList := by
  rw [withSuffix, String.toList_ofList]
  refine (whole.sliceTo _).append ?_
  rw [String.toList_append, String.toList_ofList]
  exact Alphanumeric.append (List.forall_mem_singleton.2 isLetter) (alphanumeric_toString number)

/-- The text in front of the suffixes that `strict` ids are made unique with. -/
theorem alphanumeric_strictStem (digest : Digest) (id : String) :
    Alphanumeric (((sanitizeToolCallId digest .strict id).toList.take 40).take 32 ++
      (digest.shortHash id 8).toList) :=
  Alphanumeric.append (((alphanumeric_sanitizeToolCallId digest .strict id).take 40).take 32)
    (alphanumeric_shortHash digest id 8)

/-- Every candidate is a valid id. -/
theorem valid_of_mem_toolIdCandidates {digest : Digest} {mode : ToolCallIdMode} {id candidate : String}
    (member : candidate ∈ toolIdCandidates digest mode id) :
    isValidCloudCodeAssistToolId mode candidate = true := by
  have base := alphanumeric_sanitizeToolCallId digest mode id
  cases mode with
  | strict9 =>
    rw [isValid_strict9_iff]
    have baseLength := length_sanitizeToolCallId_strict9 digest id
    simp only [toolIdCandidates, baseLength, le_refl, if_true, List.cons_append, List.nil_append,
      List.mem_cons, List.mem_map] at member
    rcases member with rfl | ⟨index, -, rfl⟩
    · rw [String.toList_ofList, List.length_take, baseLength]
      exact ⟨base.take 9, rfl⟩
    · exact ⟨alphanumeric_shortHash _ _ _, length_shortHash _ _ (by decide)⟩
  | strict =>
    rw [isValid_strict_iff]
    have hashLength := length_shortHash digest id (show 8 ≤ 64 by decide)
    have stem := alphanumeric_strictStem digest id
    simp only [toolIdCandidates, List.mem_cons, List.mem_map] at member
    rcases member with rfl | rfl | ⟨index, -, rfl⟩
    · rw [String.toList_ofList]
      refine ⟨base.take 40, ?_⟩
      simpa using sanitizeToolCallId_strict_ne_nil digest id
    · rw [String.toList_ofList]
      refine ⟨stem, fun none => ?_⟩
      rw [(List.append_eq_nil_iff.1 none).2] at hashLength
      cases hashLength
    · exact ⟨alphanumeric_withSuffix stem (show 'x'.isAlphanum = true by decide) index, withSuffix_ne_empty (by simp)⟩

theorem valid_clockToolId (digest : Digest) (mode : ToolCallIdMode) (id : String) (now : Nat) :
    isValidCloudCodeAssistToolId mode (clockToolId digest mode id now) = true := by
  cases mode with
  | strict9 =>
    rw [isValid_strict9_iff]
    exact ⟨alphanumeric_shortHash _ _ _, length_shortHash _ _ (by decide)⟩
  | strict =>
    rw [isValid_strict_iff]
    exact ⟨alphanumeric_withSuffix (alphanumeric_strictStem digest id) (show 't'.isAlphanum = true by decide) now,
      withSuffix_ne_empty (by simp)⟩

end OpenClaw.Transcript
