/-
This file is the policy of safe binaries: the profile of a binary, and the validation of the
arguments that it is called with.

The loop over the arguments goes from a word to the next one, or over the next one where an option
takes it as its value; so it stands here as a recursion on the words that are left.
-/

import OpenClaw.Base.OrderedMap
import OpenClaw.Shared.Text

namespace OpenClaw.Exec

open Text

/-! ### Words -/

/-- `parseExecArgvToken`. The flags of a cluster are its letters. -/
inductive ExecArgvToken
  | empty | terminator | stdin | positional
  | long (flag : String) (inlineValue : Option String)
  | shortCluster (cluster : List Char)
  deriving DecidableEq

def parseExecArgvToken (raw : String) : ExecArgvToken :=
  if raw = "" then .empty
  else if raw = "--" then .terminator
  else if raw = "-" then .stdin
  else if !"-".toList.isPrefixOf raw.toList then .positional
  else if "--".toList.isPrefixOf raw.toList then
    if '=' ∈ raw.toList then
      .long (String.ofList (raw.toList.takeWhile (· ≠ '=')))
        (some (String.ofList (raw.toList.dropWhile (· ≠ '=')).tail))
    else .long raw none
  else .shortCluster raw.toList.tail

def isPathLikeToken (value : String) : Bool :=
  let trimmed := (trim value).toList
  if trimmed = [] then false
  else if trimmed = ['-'] then false
  else if "./".toList.isPrefixOf trimmed || "../".toList.isPrefixOf trimmed ||
      "~".toList.isPrefixOf trimmed then true
  else if "/".toList.isPrefixOf trimmed then true
  else match trimmed with
    | drive :: ':' :: slash :: _ => drive.isAlpha && (slash = '\\' || slash = '/')
    | _ => false

def hasGlobToken (value : String) : Bool := value.toList.any (· ∈ ['*', '?', '[', ']'])

def isSafeLiteralToken (value : String) : Bool :=
  if value = "" || value = "-" then true else !hasGlobToken value && !isPathLikeToken value

def isInvalidValueToken (value : Option String) : Bool :=
  match nonEmpty value with
  | none => true
  | some value => !isSafeLiteralToken value

/-! ### Profiles -/

/-- A `SafeBinProfile`. What else it may have is computed from this. -/
structure SafeBinProfile where
  minPositional : Option ℕ := none
  maxPositional : Option ℕ := none
  allowedValueFlags : List String := []
  deniedFlags : List String := []

def isLongFlag (flag : String) : Bool := "--".toList.isPrefixOf flag.toList

def collectKnownLongFlags (allowedValueFlags deniedFlags : List String) : List String :=
  (allowedValueFlags.filter isLongFlag ++ deniedFlags.filter isLongFlag).dedup

abbrev LongFlagPrefixMap := OrderedMap String (Option String)

/-- A prefix is entered for a flag. It stands for none once there are two. -/
def enterPrefix (flag : String) (prefixMap : LongFlagPrefixMap) (length : ℕ) :
    LongFlagPrefixMap :=
  let flagPrefix := String.ofList (flag.toList.take length)
  match prefixMap.get flagPrefix with
  | none => prefixMap.set flagPrefix (some flag)
  | some existing =>
    if existing ≠ some flag then prefixMap.set flagPrefix none else prefixMap

/-- The prefixes of a flag from three characters on. -/
def enterFlag (prefixMap : LongFlagPrefixMap) (flag : String) : LongFlagPrefixMap :=
  if !isLongFlag flag || flag.toList.length ≤ 2 then prefixMap
  else (List.range' 3 (flag.toList.length - 2)).foldl (enterPrefix flag) prefixMap

def buildLongFlagPrefixMap (knownLongFlags : List String) : LongFlagPrefixMap :=
  knownLongFlags.foldl enterFlag ∅

namespace SafeBinProfile

variable (profile : SafeBinProfile)

def knownLongFlags : List String :=
  collectKnownLongFlags profile.allowedValueFlags profile.deniedFlags

/-! ### Options -/

def resolveCanonicalLongFlag (flag : String) : Option String :=
  if !isLongFlag flag || flag.toList.length ≤ 2 then none
  else if flag ∈ profile.knownLongFlags then some flag
  else ((buildLongFlagPrefixMap profile.knownLongFlags).get flag).join

/-- How many words an option takes. -/
inductive Consumed
  | one | two
  deriving DecidableEq

/-- `consumeLongOptionToken`, with the word behind it. -/
def consumeLongOptionToken (next : Option String) (flag : String) (inlineValue : Option String) :
    Option Consumed :=
  match profile.resolveCanonicalLongFlag flag with
  | none => none
  | some canonicalFlag =>
    if canonicalFlag ∈ profile.deniedFlags then none
    else match inlineValue with
      | some inlineValue =>
        if canonicalFlag ∉ profile.allowedValueFlags then none
        else if isSafeLiteralToken inlineValue then some .one else none
      | none =>
        if canonicalFlag ∉ profile.allowedValueFlags then some .one
        else if isInvalidValueToken next then none else some .two

/-- `consumeShortOptionClusterToken`, from a letter of the cluster on. -/
def consumeShortOptionClusterToken (next : Option String) : List Char → Option Consumed
  | [] => none
  | letter :: rest =>
    let flag := String.ofList ['-', letter]
    if flag ∈ profile.deniedFlags then none
    else if flag ∉ profile.allowedValueFlags then consumeShortOptionClusterToken next rest
    else if rest ≠ [] then
      if isSafeLiteralToken (String.ofList rest) then some .one else none
    else if isInvalidValueToken next then none else some .two

/-! ### The loop over the words -/

/-- The words behind the terminator. -/
def collectRest : List String → Option (List String)
  | [] => some []
  | word :: rest =>
    if word = "" || word = "-" then collectRest rest
    else if isSafeLiteralToken word then (collectRest rest).map (word :: ·) else none

def collectPositionalTokens : List String → Option (List String)
  | [] => some []
  | rawToken :: rest =>
    match parseExecArgvToken rawToken with
    | .empty | .stdin => collectPositionalTokens rest
    | .terminator => collectRest rest
    | .positional =>
      if isSafeLiteralToken rawToken then (collectPositionalTokens rest).map (rawToken :: ·)
      else none
    | .long flag inlineValue =>
      match profile.consumeLongOptionToken rest.head? flag inlineValue with
      | none => none
      | some .one => collectPositionalTokens rest
      | some .two =>
        match rest with
        | [] => some []
        | _ :: rest => collectPositionalTokens rest
    | .shortCluster cluster =>
      match profile.consumeShortOptionClusterToken rest.head? cluster with
      | none => none
      | some .one => collectPositionalTokens rest
      | some .two =>
        match rest with
        | [] => some []
        | _ :: rest => collectPositionalTokens rest

def validatePositionalCount (positional : List String) : Bool :=
  profile.minPositional.getD 0 ≤ positional.length &&
    profile.maxPositional.all fun maxPositional => positional.length ≤ maxPositional

end SafeBinProfile

/-! ### What a binary is asked to do -/

def isWordCharacter (character : Char) : Bool := character.isAlphanum || character = '_'

/-- `JQ_ENV_FILTER_PATTERN`, from a position on that a character stands before. -/
def hasEnvFilter : Option Char → List Char → Bool
  | _, [] => false
  | before, character :: rest =>
    (before.all fun before => !(before.isAlphanum || before ∈ ['.', '$', '_'])) &&
        "env".toList.isPrefixOf (character :: rest) &&
        (rest.drop 2).head?.all (fun after => !isWordCharacter after) ||
      hasEnvFilter (some character) rest

/-- `JQ_ENV_VARIABLE_PATTERN`. -/
def hasEnvVariable : List Char → Bool
  | [] => false
  | character :: rest =>
    "$ENV".toList.isPrefixOf (character :: rest) &&
        (rest.drop 3).head?.all (fun after => !isWordCharacter after) ||
      hasEnvVariable rest

/-- The last part of a name, without its extension. -/
def normalizeSafeBinName (raw : String) : String :=
  let tail := ((normalizeLowercaseStringOrEmpty (some raw)).toList.reverse.takeWhile
    fun character => character ≠ '\\' && character ≠ '/').reverse
  match [".exe", ".cmd", ".bat", ".com"].find? fun extension =>
      extension.toList.isSuffixOf tail with
  | some extension => String.ofList (tail.take (tail.length - extension.toList.length))
  | none => String.ofList tail

def validateSafeBinSemantics (binName : Option String) (positional : List String) : Bool :=
  match binName.map normalizeSafeBinName with
  | none => true
  | some name =>
    if name = "jq" then
      !positional.any fun token => hasEnvFilter none token.toList || hasEnvVariable token.toList
    else name ∉ ["awk", "gawk", "mawk", "nawk", "sed", "gsed"]

def validateSafeBinArgv (args : List String) (profile : SafeBinProfile) (binName : Option String) :
    Bool :=
  match profile.collectPositionalTokens args with
  | none => false
  | some positional =>
    profile.validatePositionalCount positional && validateSafeBinSemantics binName positional

end OpenClaw.Exec
