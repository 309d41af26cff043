/-
This file is the session keys of `routing/session-key.ts`, with `account-id.ts` and
`buildAgentSessionKey` of `routing/resolve-route.ts`.

`toLowerCase` is a parameter: what it does to letters outside ASCII is the language's.
What the keys rely on is `Lowers`: a lowered text is its own lower case, and lowering
brings in neither white space at the ends nor a colon, empties no text, and does to a text
in ASCII what everybody knows.
-/

import OpenClaw.Base.Delimited
import OpenClaw.Shared.Text

namespace OpenClaw.Routing

open Delimited Text

/-! ### Ids -/

inductive ChatType
  | direct
  | group
  | channel
  deriving DecidableEq, Repr

def ChatType.name : ChatType → String
  | .direct => "direct"
  | .group => "group"
  | .channel => "channel"

inductive DmScope
  | main
  | perPeer
  | perChannelPeer
  | perAccountChannelPeer
  deriving DecidableEq, Repr

def defaultAgentId : String := "main"

def defaultMainKey : String := "main"

def defaultAccountId : String := "default"

/-- What stands for a text in a condition such as `text || fallback`. -/
def orElse (text fallback : String) : String := if text = "" then fallback else text

/-- `VALID_ID_RE`. -/
def isValidId (value : String) : Bool :=
  match value.toList with
  | [] => false
  | first :: rest => first.isAlphanum && rest.length ≤ 63 &&
    rest.all fun character => character.isAlphanum || character == '_' || character == '-'

/-- A character that `INVALID_CHARS_RE` does not match. -/
def isIdCharacter (character : Char) : Bool :=
  character.isLower || character.isDigit || character == '_' || character == '-'

/-- Replaces runs of characters `INVALID_CHARS_RE` matches; the flag says that one has begun. -/
def dashInvalid : Bool → List Char → List Char
  | _, [] => []
  | begun, character :: rest =>
    if isIdCharacter character then character :: dashInvalid false rest
    else if begun then dashInvalid true rest
    else '-' :: dashInvalid true rest

/-- The replacements for an id that is not valid. -/
def slugOf (normalized : String) : String :=
  String.ofList ((((dashInvalid false normalized.toList).dropWhile (· == '-')).rdropWhile
    (· == '-')).take 64)

/-- `isBlockedObjectKey`. -/
def isBlockedObjectKey (key : String) : Bool :=
  key == "__proto__" || key == "prototype" || key == "constructor"

section Keys

variable (toLowerCase : String → String)

/-- `normalizeLowercaseStringOrEmpty`. -/
def normalizeToken (value : Option String) : String :=
  ((normalizeOptionalString value).map toLowerCase).getD ""

/-- `canonicalizeAccountId`, and the same steps of `normalizeAgentId`. -/
def canonicalizeId (value : String) : String :=
  let normalized := normalizeToken toLowerCase (some value)
  if isValidId value then normalized else slugOf normalized

def normalizeAgentId (value : String) : String :=
  let trimmed := trim value
  if trimmed = "" then defaultAgentId else orElse (canonicalizeId toLowerCase trimmed) defaultAgentId

def normalizeAccountId (value : Option String) : String :=
  let trimmed := trim (value.getD "")
  if trimmed = "" then defaultAccountId
  else
    let canonical := canonicalizeId toLowerCase trimmed
    if canonical = "" ∨ isBlockedObjectKey canonical then defaultAccountId else canonical

def normalizeMainKey (value : Option String) : String :=
  orElse (normalizeToken toLowerCase value) defaultMainKey

/-! ### Keys -/

def buildAgentMainSessionKey (agentId : String) (mainKey : Option String) : String :=
  joinText ':' ["agent", normalizeAgentId toLowerCase agentId, normalizeMainKey toLowerCase mainKey]

/-- The identity links in the order of `Object.entries`. -/
abbrev IdentityLinks := List (String × List String)

/-- The `candidates` of `resolveLinkedPeerId` for a peer id that is not blank. -/
def linkCandidates (channel peerId : String) : List String :=
  let channel := normalizeToken toLowerCase (some channel)
  [normalizeToken toLowerCase (some peerId)] ++
    if channel = "" then [] else [normalizeToken toLowerCase (some (channel ++ ":" ++ peerId))]

/-- Whether one of the ids of an entry is among the candidates. -/
def linksCandidate (candidates ids : List String) : Bool :=
  ids.any fun id => normalizeToken toLowerCase (some id) ≠ "" &&
    candidates.contains (normalizeToken toLowerCase (some id))

/-- The canonical name of the first entry that lists the peer. -/
def resolveLinkedPeerId (identityLinks : Option IdentityLinks) (channel peerId : String) :
    Option String :=
  identityLinks.bind fun links =>
    let peerId := trim peerId
    if peerId = "" then none
    else
      (links.find? fun entry => trim entry.1 ≠ "" &&
        linksCandidate toLowerCase (linkCandidates toLowerCase channel peerId) entry.2).map
          fun entry => trim entry.1

structure PeerKeyParams where
  agentId : String
  mainKey : Option String
  channel : String
  accountId : Option String
  peerKind : ChatType
  peerId : Option String
  identityLinks : Option IdentityLinks
  dmScope : DmScope

def buildAgentPeerSessionKey (params : PeerKeyParams) : String :=
  let agentId := normalizeAgentId toLowerCase params.agentId
  let channel := orElse (normalizeToken toLowerCase (some params.channel)) "unknown"
  match params.peerKind with
  | .direct =>
    let trimmed := trim (params.peerId.getD "")
    let linkedPeerId :=
      if params.dmScope = .main then none
      else resolveLinkedPeerId toLowerCase params.identityLinks params.channel trimmed
    let peerId := normalizeToken toLowerCase (some (linkedPeerId.getD trimmed))
    if peerId = "" then buildAgentMainSessionKey toLowerCase params.agentId params.mainKey
    else match params.dmScope with
      | .perAccountChannelPeer => joinText ':' ["agent", agentId, channel,
          normalizeAccountId toLowerCase params.accountId, "direct", peerId]
      | .perChannelPeer => joinText ':' ["agent", agentId, channel, "direct", peerId]
      | .perPeer => joinText ':' ["agent", agentId, "direct", peerId]
      | .main => buildAgentMainSessionKey toLowerCase params.agentId params.mainKey
  | kind =>
    let peerId := orElse (normalizeToken toLowerCase params.peerId) "unknown"
    joinText ':' ["agent", agentId, channel, kind.name, peerId]

structure RoutePeer where
  kind : ChatType
  id : String
  deriving DecidableEq, Repr

def buildAgentSessionKey (agentId channel : String) (accountId : Option String)
    (peer : Option RoutePeer) (dmScope : DmScope) (identityLinks : Option IdentityLinks) : String :=
  buildAgentPeerSessionKey toLowerCase
    { agentId
      mainKey := some defaultMainKey
      channel := orElse (normalizeToken toLowerCase (some channel)) "unknown"
      accountId
      peerKind := (peer.map RoutePeer.kind).getD .direct
      peerId := peer.map fun peer => orElse (trim peer.id) "unknown"
      identityLinks
      dmScope }

end Keys

/-! ### Lowering -/

/-- `toLowerCase` on texts in ASCII. -/
def asciiLower (text : String) : String := String.ofList (text.toList.map Char.toLower)

/-- What the keys rely on of `toLowerCase`. -/
structure Lowers (toLowerCase : String → String) : Prop where
  again : ∀ text, toLowerCase (toLowerCase text) = toLowerCase text
  trimmed : ∀ text, trim text = text → trim (toLowerCase text) = toLowerCase text
  colon : ∀ text, Free ':' text → Free ':' (toLowerCase text)
  nonempty : ∀ text, toLowerCase text = "" → text = ""
  ascii : ∀ text, (text.toList.all (·.toNat < 128)) → toLowerCase text = asciiLower text

section Tokens

variable {toLowerCase : String → String}

theorem normalizeToken_some (value : String) : normalizeToken toLowerCase (some value) =
    if trim value = "" then "" else toLowerCase (trim value) := by
  rw [normalizeToken, normalizeOptionalString, Option.map_some, nonEmpty]
  by_cases blank : trim value = ""
  · rw [if_pos blank, Option.filter_some_neg (by simpa using blank)]
    rfl
  · rw [if_neg blank, Option.filter_some_pos (by simpa using blank)]
    rfl

theorem Lowers.normalizeToken_eq_empty (lowers : Lowers toLowerCase) {value : String} :
    normalizeToken toLowerCase (some value) = "" ↔ trim value = "" := by
  rw [normalizeToken_some]
  split
  next blank => exact iff_of_true rfl blank
  next filled => exact iff_of_false (fun empty => filled (lowers.nonempty _ empty)) filled

/-- A token is its own token. -/
theorem Lowers.normalizeToken_again (lowers : Lowers toLowerCase) (value : String) :
    normalizeToken toLowerCase (some (normalizeToken toLowerCase (some value))) =
      normalizeToken toLowerCase (some value) := by
  rw [normalizeToken_some value]
  split
  · rw [normalizeToken_some, trim_empty, if_pos rfl]
  next filled =>
    have stays := lowers.trimmed (trim value) (trim_trim value)
    rw [normalizeToken_some, stays, lowers.again, if_neg]
    exact fun empty => filled (lowers.nonempty _ empty)

theorem Lowers.normalizeToken_trim (value : String) :
    normalizeToken toLowerCase (some (trim value)) = normalizeToken toLowerCase (some value) := by
  rw [normalizeToken_some, normalizeToken_some, trim_trim]

/-- A trimmed word in small letters is its own token. -/
theorem Lowers.normalizeToken_word (lowers : Lowers toLowerCase) {word : String}
    (trimmed : trim word = word) (nonempty : word ≠ "")
    (ascii : (word.toList.all (·.toNat < 128)) = true) (small : asciiLower word = word) :
    normalizeToken toLowerCase (some word) = word := by
  rw [normalizeToken_some, trimmed, if_neg nonempty, lowers.ascii word ascii, small]

/-- Trimming takes characters away. -/
theorem mem_of_mem_trim {character : Char} {text : String} (member : character ∈ (trim text).toList) :
    character ∈ text.toList := by
  rw [trim, trimWith, String.toList_ofList] at member
  exact (List.dropWhile_suffix _).mem ((List.rdropWhile_prefix _ _).mem member)

theorem Lowers.free_normalizeToken (lowers : Lowers toLowerCase) {value : String}
    (free : Free ':' value) : Free ':' (normalizeToken toLowerCase (some value)) := by
  rw [normalizeToken_some]
  split
  · decide
  · exact lowers.colon _ fun member => free (mem_of_mem_trim member)

theorem mem_dashInvalid {begun : Bool} {characters : List Char} {character : Char}
    (member : character ∈ dashInvalid begun characters) :
    isIdCharacter character = true ∨ character = '-' := by
  induction characters generalizing begun with
  | nil => exact absurd member List.not_mem_nil
  | cons first rest inductionHypothesis =>
    rw [dashInvalid] at member
    split at member
    next valid =>
      rcases List.mem_cons.1 member with rfl | member
      · exact .inl valid
      · exact inductionHypothesis member
    next =>
      split at member
      · exact inductionHypothesis member
      · rcases List.mem_cons.1 member with rfl | member
        · exact .inr rfl
        · exact inductionHypothesis member

theorem free_slugOf (normalized : String) : Free ':' (slugOf normalized) := by
  intro member
  rw [slugOf, String.toList_ofList] at member
  rcases mem_dashInvalid ((List.dropWhile_suffix _).mem
    ((List.rdropWhile_prefix _ _).mem (List.mem_of_mem_take member))) with valid | dash
  · exact absurd valid (by decide)
  · exact absurd dash (by decide)

theorem free_of_isValidId {value : String} (valid : isValidId value = true) : Free ':' value := by
  intro member
  unfold isValidId at valid
  split at valid
  next => exact absurd valid Bool.false_ne_true
  next first rest is =>
    rw [is] at member
    rw [Bool.and_eq_true, Bool.and_eq_true] at valid
    rcases List.mem_cons.1 member with rfl | member
    · exact absurd valid.1.1 (by decide)
    · exact absurd (List.all_eq_true.1 valid.2 _ member) (by decide)

theorem Lowers.free_canonicalizeId (lowers : Lowers toLowerCase) (value : String) :
    Free ':' (canonicalizeId toLowerCase value) := by
  rw [canonicalizeId]
  split
  next valid => exact lowers.free_normalizeToken (free_of_isValidId valid)
  next => exact free_slugOf _

theorem free_orElse {separator : Char} {text fallback : String} (free : Free separator text)
    (fallbackFree : Free separator fallback) : Free separator (orElse text fallback) := by
  rw [orElse]
  split
  · exact fallbackFree
  · exact free

theorem Lowers.free_normalizeAgentId (lowers : Lowers toLowerCase) (value : String) :
    Free ':' (normalizeAgentId toLowerCase value) := by
  rw [normalizeAgentId]
  split
  · decide
  · exact free_orElse (lowers.free_canonicalizeId _) (by decide)

theorem Lowers.free_normalizeAccountId (lowers : Lowers toLowerCase) (value : Option String) :
    Free ':' (normalizeAccountId toLowerCase value) := by
  rw [normalizeAccountId]
  split
  · decide
  · dsimp only
    split
    · decide
    · exact lowers.free_canonicalizeId _

end Tokens

/-! ### Lowering in ASCII -/

theorem toNat_toLower (character : Char) : character.toLower.toNat =
    if 65 ≤ character.toNat ∧ character.toNat ≤ 90 then character.toNat + 32
    else character.toNat := by
  unfold Char.toLower
  split
  next upper =>
    have low : 65 ≤ character.toNat := UInt32.le_iff_toNat_le.1 upper.1
    have high : character.toNat ≤ 90 := UInt32.le_iff_toNat_le.1 upper.2
    rw [if_pos ⟨low, high⟩]
    show (character.val + ('a'.val - 'A'.val)).toNat = character.toNat + 32
    rw [UInt32.toNat_add]
    show (character.toNat + 32) % 4294967296 = _
    omega
  next other =>
    rw [if_neg]
    exact fun bounds =>
      other ⟨UInt32.le_iff_toNat_le.2 bounds.1, UInt32.le_iff_toNat_le.2 bounds.2⟩

theorem isWhiteSpace_toLower (character : Char) :
    isWhiteSpace character.toLower = isWhiteSpace character := by
  unfold isWhiteSpace
  rw [toNat_toLower]
  split
  · rw [Bool.eq_iff_iff]
    simp only [Bool.or_eq_true, Bool.and_eq_true, decide_eq_true_eq, beq_iff_eq]
    omega
  · rfl

theorem toLower_toLower (character : Char) : character.toLower.toLower = character.toLower := by
  refine Char.toNat_inj.1 ?_
  rw [toNat_toLower, if_neg]
  rw [toNat_toLower]
  split <;> omega

/-! ### Characters of ids -/

theorem isIdCharacter_iff (character : Char) : isIdCharacter character = true ↔
    (97 ≤ character.toNat ∧ character.toNat ≤ 122) ∨
      (48 ≤ character.toNat ∧ character.toNat ≤ 57) ∨ character.toNat = 95 ∨
        character.toNat = 45 := by
  have code : ∀ other : Char, character = other ↔ character.toNat = other.toNat :=
    fun other => Char.toNat_inj.symm
  have under : ('_' : Char).toNat = 95 := rfl
  have dash : ('-' : Char).toNat = 45 := rfl
  simp only [isIdCharacter, Char.isLower, Char.isDigit, Bool.or_eq_true, decide_eq_true_eq,
    beq_iff_eq, code, under, dash, ge_iff_le, UInt32.le_iff_toNat_le, Bool.and_eq_true]
  show (((97 ≤ character.toNat ∧ character.toNat ≤ 122) ∨
    (48 ≤ character.toNat ∧ character.toNat ≤ 57)) ∨ _) ∨ _ ↔ _
  rw [or_assoc, or_assoc]

theorem isIdCharacter_toLower {character : Char}
    (valid : (character.isAlphanum || character == '_' || character == '-') = true) :
    isIdCharacter character.toLower = true ∧ character.toNat < 128 := by
  have code : ∀ other : Char, character = other ↔ character.toNat = other.toNat :=
    fun other => Char.toNat_inj.symm
  have under : ('_' : Char).toNat = 95 := rfl
  have dash : ('-' : Char).toNat = 45 := rfl
  simp only [Char.isAlphanum, Char.isAlpha, Char.isUpper, Char.isLower, Char.isDigit,
    Bool.or_eq_true, decide_eq_true_eq, beq_iff_eq, code, under, dash, ge_iff_le,
    UInt32.le_iff_toNat_le, Bool.and_eq_true] at valid
  change ((((65 ≤ character.toNat ∧ character.toNat ≤ 90) ∨
    (97 ≤ character.toNat ∧ character.toNat ≤ 122)) ∨
      (48 ≤ character.toNat ∧ character.toNat ≤ 57)) ∨ _) ∨ _ at valid
  rw [isIdCharacter_iff, toNat_toLower]
  split <;> omega

theorem validCharacter_of_isValidId {value : String} (valid : isValidId value = true) {character : Char}
    (member : character ∈ value.toList) :
    (character.isAlphanum || character == '_' || character == '-') = true := by
  unfold isValidId at valid
  split at valid
  next => exact absurd valid Bool.false_ne_true
  next first rest is =>
    rw [is] at member
    rw [Bool.and_eq_true, Bool.and_eq_true] at valid
    rcases List.mem_cons.1 member with rfl | member
    · rw [valid.1.1, Bool.true_or, Bool.true_or]
    · exact List.all_eq_true.1 valid.2 character member

/-- A canonical id is made of the characters of ids. -/
theorem Lowers.isIdCharacter_canonicalizeId {toLowerCase : String → String}
    (lowers : Lowers toLowerCase) {value : String} {character : Char}
    (member : character ∈ (canonicalizeId toLowerCase value).toList) :
    isIdCharacter character = true := by
  rw [canonicalizeId] at member
  split at member
  next valid =>
    have kept : ∀ other ∈ (trim value).toList, isIdCharacter other.toLower = true ∧
        other.toNat < 128 := fun other isOther =>
      isIdCharacter_toLower (validCharacter_of_isValidId valid (mem_of_mem_trim isOther))
    rw [normalizeToken_some] at member
    split at member
    · exact absurd member List.not_mem_nil
    · rw [lowers.ascii _ (List.all_eq_true.2 fun other isOther =>
        decide_eq_true (kept other isOther).2), asciiLower, String.toList_ofList] at member
      obtain ⟨other, isOther, rfl⟩ := List.mem_map.1 member
      exact (kept other isOther).1
  next =>
    rw [slugOf, String.toList_ofList] at member
    rcases mem_dashInvalid ((List.dropWhile_suffix _).mem
      ((List.rdropWhile_prefix _ _).mem (List.mem_of_mem_take member))) with valid | rfl
    · exact valid
    · decide

/-- An account id is free of every character that no id has. -/
theorem Lowers.free_accountId {toLowerCase : String → String} (lowers : Lowers toLowerCase)
    {separator : Char} (foreign : isIdCharacter separator = false) (value : Option String) :
    Free separator (normalizeAccountId toLowerCase value) := by
  intro member
  have inDefault : separator ∈ defaultAccountId.toList → False := fun isDefault => by
    have all : (defaultAccountId.toList.all isIdCharacter) = true := by decide
    rw [List.all_eq_true.1 all separator isDefault] at foreign
    exact absurd foreign (by decide)
  rw [normalizeAccountId] at member
  split at member
  · exact inDefault member
  · dsimp only at member
    split at member
    · exact inDefault member
    · rw [lowers.isIdCharacter_canonicalizeId member] at foreign
      exact absurd foreign (by decide)

/-- Lowering and trimming change places. -/
theorem trim_asciiLower (text : String) : trim (asciiLower text) = asciiLower (trim text) := by
  have blank : isWhiteSpace ∘ Char.toLower = isWhiteSpace := funext isWhiteSpace_toLower
  rw [trim, trimWith, asciiLower, asciiLower, trim, trimWith, String.toList_ofList,
    String.toList_ofList, List.dropWhile_map, blank, List.rdropWhile, List.rdropWhile,
    ← List.map_reverse, List.dropWhile_map, blank, List.map_reverse]

theorem lowers_asciiLower : Lowers asciiLower where
  again text := by
    rw [asciiLower, asciiLower, String.toList_ofList, List.map_map]
    exact congrArg String.ofList (List.map_congr_left fun character _ => toLower_toLower character)
  trimmed text same := by rw [trim_asciiLower, same]
  colon text free member := by
    rw [asciiLower, String.toList_ofList] at member
    obtain ⟨character, isCharacter, lowered⟩ := List.mem_map.1 member
    have code := toNat_toLower character
    rw [lowered] at code
    have same : character.toNat = (':' : Char).toNat := by
      have colon : (':' : Char).toNat = 58 := rfl
      split at code <;> omega
    exact free (Char.toNat_inj.1 same ▸ isCharacter)
  nonempty text empty := by
    have lengths := congrArg (fun text => text.toList.length) empty
    rw [asciiLower, String.toList_ofList] at lengths
    exact String.toList_inj.1 (List.length_eq_zero_iff.1 (by simpa using lengths))
  ascii _ _ := rfl

end OpenClaw.Routing
