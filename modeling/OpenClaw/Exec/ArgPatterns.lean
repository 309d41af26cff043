/-
This file is the argument patterns of the allowlist: how one is built from the arguments of an
approved command, and how the arguments of a later command are matched with it.

On Windows a pattern is the escaped text of the arguments, each with a NUL behind it, and no
arguments at all are two NULs. That text tells the pieces of the arguments and not the arguments:
where an argument holds a NUL it is as good as two, and no arguments are as good as two empty ones.

Patterns by hand may use the whole grammar of regular expressions. What is beyond anchors and
literal characters is a parameter.
-/

import OpenClaw.Base.Delimited
import OpenClaw.Base.Literals
import OpenClaw.Shared.Text

namespace OpenClaw.Exec

open Text Delimited

/-! ### Building a pattern -/

/-- `replace(/\//g, "\\")`. -/
def toBackslashes (arg : String) : String :=
  String.ofList (arg.toList.map fun character => if character = '/' then '\\' else character)

def escapeRegExpLiteral (input : String) : String := String.ofList (Literals.escape input.toList)

/-- The pattern of arguments that have been normalised. -/
def patternOf (normalized : List String) : String :=
  if normalized = [] then "^\x00\x00$"
  else "^" ++ escapeRegExpLiteral (joinText '\x00' normalized) ++ "\x00$"

def buildArgPatternFromArgv (windows : Bool) (argv : List String) : Option String :=
  if windows then some (patternOf ((argv.drop 1).map toBackslashes)) else none

/-- The pattern of the arguments behind a script. It is looked for by its path, then by the
lowercase last part of its path. -/
def buildScriptArgPatternFromArgv (resolveArgPath lowerBasename : String → String)
    (windows : Bool) (argv : List String) (scriptPath : String) : Option String :=
  if windows then
    let scriptIdx := (argv.findIdx? fun arg => resolveArgPath arg = scriptPath).or
      (argv.findIdx? fun arg => lowerBasename arg = lowerBasename scriptPath)
    let scriptArgs := match scriptIdx with
      | some scriptIdx => argv.drop (scriptIdx + 1)
      | none => []
    some <| if scriptArgs = [] then "^\x00\x00$"
      else "^" ++ joinText '\x00' (scriptArgs.map (escapeRegExpLiteral ∘ toBackslashes)) ++ "\x00$"
  else none

/-! ### Matching a pattern -/

/-- The test of a regular expression, or that it is none. -/
def newRegExp (other : String → Option (String → Bool)) (pattern : String) :
    Option (String → Bool) :=
  match Literals.readAtoms pattern.toList with
  | some atoms => some fun text => Literals.test atoms text.toList
  | none => other pattern

def shellRedirections : List (List Char) :=
  ["1>&1", "1>&2", "2>&1", "2>&2", "1>/dev/null", "2>/dev/null"].map String.toList

/-- One replacement of `TRAILING_SHELL_REDIRECTIONS_RE`. -/
def stripTrailingRedirection (characters : List Char) : List Char :=
  let body := characters.rdropWhile isWhiteSpace
  match shellRedirections.find? fun redirection => body.drop (body.length - redirection.length) =
      redirection && (body.take (body.length - redirection.length)).getLast?.any isWhiteSpace with
  | some redirection => (body.take (body.length - redirection.length)).rdropWhile isWhiteSpace
  | none => characters

/-- Replacements until nothing changes, of which there are no more than characters. -/
def stripTrailingRedirections (value : String) : String :=
  String.ofList (stripTrailingRedirection^[value.length] value.toList)

/-- What a pattern is matched with. One with a NUL has been built. -/
def argsStringFor (argPattern : String) (argv : List String) : String :=
  if '\x00' ∈ argPattern.toList then
    if argv.drop 1 = [] then "\x00\x00" else joinText '\x00' (argv.drop 1) ++ "\x00"
  else joinText ' ' (argv.drop 1)

def matchArgPattern (other : String → Option (String → Bool)) (argPattern : String)
    (argv : List String) (windows : Bool) : Bool :=
  let argsString := argsStringFor argPattern argv
  match newRegExp other argPattern with
  | none => false
  | some regex =>
    regex argsString ||
      (windows && toBackslashes argsString ≠ argsString && regex (toBackslashes argsString)) ||
      ('\x00' ∉ argPattern.toList && stripTrailingRedirections argsString ≠ argsString &&
        regex (stripTrailingRedirections argsString))

/-! ### The allowlist -/

structure ExecAllowlistEntry where
  pattern : String
  argPattern : Option String := none
  deriving DecidableEq

/-- The loop over the entries, with the first that only its path is asked of. -/
def matchEntries (other : String → Option (String → Bool))
    (matchesExecAllowlistPattern : String → String → Bool) (resolvedPath : String)
    (argv : Option (List String)) (windows : Bool) :
    Option ExecAllowlistEntry → List ExecAllowlistEntry → Option ExecAllowlistEntry
  | pathOnlyMatch, [] => pathOnlyMatch
  | pathOnlyMatch, entry :: rest =>
    let pattern := trim entry.pattern
    if !(pattern.toList.any (· ∈ ['/', '\\', '~'])) ||
        !matchesExecAllowlistPattern pattern resolvedPath then
      matchEntries other matchesExecAllowlistPattern resolvedPath argv windows pathOnlyMatch rest
    else if !windows then some entry
    else
      match nonEmpty entry.argPattern with
      | none => matchEntries other matchesExecAllowlistPattern resolvedPath argv windows
          (pathOnlyMatch.or (some entry)) rest
      | some argPattern =>
        if argv.any fun argv => matchArgPattern other argPattern argv windows then some entry
        else matchEntries other matchesExecAllowlistPattern resolvedPath argv windows pathOnlyMatch
          rest

/-- A resolution is there with a path or without. -/
def matchAllowlist (other : String → Option (String → Bool))
    (matchesExecAllowlistPattern : String → String → Bool) (entries : List ExecAllowlistEntry)
    (resolution : Option (Option String)) (argv : Option (List String)) (windows : Bool) :
    Option ExecAllowlistEntry :=
  match entries.find? fun entry =>
      trim entry.pattern = "*" && (nonEmpty entry.argPattern).isNone && resolution.isSome with
  | some bareWild => some bareWild
  | none =>
    match nonEmpty resolution.join with
    | none => none
    | some resolvedPath => matchEntries other matchesExecAllowlistPattern resolvedPath argv windows
        none entries

/-! ### What a pattern accepts -/

/-- The same arguments, whichever slashes they are written with. -/
def SameArguments (argv other : List String) : Prop :=
  (argv.drop 1).map toBackslashes = (other.drop 1).map toBackslashes

instance (argv other : List String) : Decidable (SameArguments argv other) :=
  inferInstanceAs (Decidable (_ = _))

/-- The pieces that arguments fall into at the separator. No arguments are two empty pieces. -/
def pieces (args : List String) : List (List Char) :=
  if args = [] then [[], []]
  else args.flatMap fun arg => (toBackslashes arg).toList.splitOn '\x00'

/-- Different arguments that fall into the same pieces. -/
def Conflated (argv other : List String) : Prop :=
  ¬SameArguments argv other ∧ pieces (argv.drop 1) = pieces (other.drop 1)

/-- The fields of arguments. No arguments are two empty fields. -/
def fieldsOf (args : List String) : List (List Char) :=
  if args = [] then [[], []] else args.map String.toList

/-- What is matched with a pattern that has been built. -/
def encoded (args : List String) : List Char := join '\x00' (fieldsOf args) ++ ['\x00']

theorem fieldsOf_ne_nil (args : List String) : fieldsOf args ≠ [] := by
  unfold fieldsOf
  split
  · nofun
  next filled => exact List.map_eq_nil_iff.not.2 filled

/-- A pattern that has been built is the literal text of its arguments between two anchors. -/
theorem readAtoms_patternOf (normalized : List String) :
    Literals.readAtoms (patternOf normalized).toList =
      some (.start :: ((encoded normalized).map .literal ++ [.stop])) := by
  unfold patternOf encoded fieldsOf
  split
  · rfl
  · have sentinel : Literals.readAtoms ['\x00', '$'] = some [.literal '\x00', .stop] := by decide
    simp only [escapeRegExpLiteral, joinText, String.toList_append, String.toList_ofList]
    change Literals.readAtoms ('^' :: (Literals.escape _ ++ ['\x00', '$'])) = _
    rw [Literals.readAtoms, Literals.readAtoms_escape, sentinel, List.map_append,
      List.append_assoc]
    rfl

theorem nul_mem_patternOf (normalized : List String) :
    '\x00' ∈ (patternOf normalized).toList := by
  unfold patternOf
  split
  · decide
  · rw [String.toList_append]
    exact List.mem_append_right _ (by decide)

theorem toList_argsStringFor (normalized argv : List String) :
    (argsStringFor (patternOf normalized) argv).toList = encoded (argv.drop 1) := by
  unfold argsStringFor encoded fieldsOf
  rw [if_pos (nul_mem_patternOf normalized)]
  split
  · rfl
  · rw [String.toList_append, joinText, String.toList_ofList]
    rfl

/-! ### Slashes -/

theorem toList_toBackslashes (arg : String) : (toBackslashes arg).toList =
    arg.toList.map fun character => if character = '/' then '\\' else character :=
  String.toList_ofList

theorem toBackslashes_toBackslashes (arg : String) :
    toBackslashes (toBackslashes arg) = toBackslashes arg := by
  rw [← String.toList_inj, toList_toBackslashes, toList_toBackslashes, List.map_map]
  refine List.map_congr_left fun character _ => ?_
  by_cases isSlash : character = '/'
  · subst isSlash
    rfl
  · simp only [Function.comp_apply, if_neg isSlash]

/-- The slashes of all arguments are mapped at once. -/
theorem map_encoded (args : List String) :
    ((encoded args).map fun character => if character = '/' then '\\' else character) =
      encoded (args.map toBackslashes) := by
  unfold encoded
  rw [List.map_append, map_join (by decide)]
  refine congrArg₂ _ (congrArg _ ?_) rfl
  unfold fieldsOf
  by_cases none : args = []
  · subst none
    rfl
  · rw [if_neg none, if_neg (List.map_eq_nil_iff.not.2 none), List.map_map, List.map_map]
    exact List.map_congr_left fun arg _ => (toList_toBackslashes arg).symm

/-! ### The condition -/

/-- The encoded arguments tell the pieces. -/
theorem encoded_eq_iff (argv other : List String) :
    encoded (argv.map toBackslashes) = encoded (other.map toBackslashes) ↔
      pieces argv = pieces other := by
  have isPieces : ∀ args : List String,
      (fieldsOf (args.map toBackslashes)).flatMap (List.splitOn '\x00') = pieces args := by
    intro args
    unfold fieldsOf pieces
    by_cases none : args = []
    · subst none
      decide
    · rw [if_neg none, if_neg (List.map_eq_nil_iff.not.2 none), List.map_map, List.flatMap_map]
      rfl
  unfold encoded
  rw [List.append_left_inj, join_eq_iff (fieldsOf_ne_nil _) (fieldsOf_ne_nil _), isPieces,
    isPieces]

/-- A pattern that has been built accepts the arguments that fall into the same pieces. -/
theorem matchArgPattern_patternOf (other : String → Option (String → Bool))
    (approved argv : List String) :
    matchArgPattern other (patternOf (approved.map toBackslashes)) argv true = true ↔
      pieces approved = pieces (argv.drop 1) := by
  set pattern := patternOf (approved.map toBackslashes) with isPattern
  set argsString := argsStringFor pattern argv with isArgs
  have isEncoded : argsString.toList = encoded (argv.drop 1) := toList_argsStringFor _ _
  have isRegex : newRegExp other pattern =
      some fun text => decide (text.toList = encoded (approved.map toBackslashes)) := by
    unfold newRegExp
    rw [isPattern, readAtoms_patternOf]
    exact congrArg some (funext fun text => Literals.test_exact _ _)
  have normal : (toBackslashes argsString).toList = encoded ((argv.drop 1).map toBackslashes) := by
    rw [toList_toBackslashes, isEncoded, map_encoded]
  -- What matches as it is has no slashes to be mapped.
  have direct : argsString.toList = encoded (approved.map toBackslashes) →
      toBackslashes argsString = argsString := by
    intro same
    rw [← String.toList_inj, toList_toBackslashes, same, map_encoded, List.map_map]
    exact congrArg encoded (List.map_congr_left fun arg _ => toBackslashes_toBackslashes arg)
  have isBuilt : '\x00' ∈ pattern.toList := nul_mem_patternOf _
  rw [← encoded_eq_iff, eq_comm (a := encoded (approved.map toBackslashes)), ← normal]
  unfold matchArgPattern
  dsimp only
  rw [← isArgs, isRegex]
  simp only [isBuilt, not_true_eq_false, decide_false, Bool.false_and, Bool.or_false,
    Bool.true_and, Bool.or_eq_true, Bool.and_eq_true, decide_eq_true_iff]
  refine ⟨?_, fun same => ?_⟩
  · rintro (same | ⟨-, same⟩)
    · rw [direct same]
      exact same
    · exact same
  · by_cases unchanged : toBackslashes argsString = argsString
    · exact .inl (unchanged ▸ same)
    · exact .inr ⟨unchanged, same⟩

/-- Arguments without a separator are their own pieces. -/
theorem pieces_of_free {args : List String} (filled : args ≠ [])
    (free : ∀ arg ∈ args, '\x00' ∉ arg.toList) :
    pieces args = args.map fun arg => (toBackslashes arg).toList := by
  have each : ∀ arg ∈ args, (toBackslashes arg).toList.splitOn '\x00' =
      [(toBackslashes arg).toList] := by
    intro arg member
    refine List.splitOn_eq_singleton fun inside => free arg member ?_
    rw [toList_toBackslashes] at inside
    obtain ⟨character, isCharacter, isNul⟩ := List.mem_map.1 inside
    split at isNul
    · exact absurd isNul (by decide)
    · exact isNul ▸ isCharacter
  unfold pieces
  rw [if_neg filled, List.flatMap_congr each]
  exact List.flatMap_pure_eq_map _ _

theorem map_toList_eq_iff (args : List String) :
    (args.map fun arg => (toBackslashes arg).toList) = [[], []] ↔ args = ["", ""] := by
  have isEmpty : ∀ arg : String, (toBackslashes arg).toList = [] ↔ arg = "" := by
    intro arg
    rw [toList_toBackslashes, List.map_eq_nil_iff, String.toList_eq_nil_iff]
  refine ⟨fun same => ?_, fun same => same ▸ rfl⟩
  obtain ⟨first, rest, rfl, isFirst, same⟩ := List.map_eq_cons_iff.1 same
  obtain ⟨second, none, rfl, isSecond, same⟩ := List.map_eq_cons_iff.1 same
  rw [(isEmpty first).1 isFirst, (isEmpty second).1 isSecond, List.map_eq_nil_iff.1 same]

/-- Arguments without a separator are only conflated when there are none, or two empty ones. -/
theorem conflated_iff_of_free {approved argv : List String}
    (free : ∀ arg ∈ approved.drop 1, '\x00' ∉ arg.toList)
    (otherFree : ∀ arg ∈ argv.drop 1, '\x00' ∉ arg.toList) :
    Conflated approved argv ↔ (approved.drop 1 = [] ∧ argv.drop 1 = ["", ""]) ∨
      (approved.drop 1 = ["", ""] ∧ argv.drop 1 = []) := by
  unfold Conflated SameArguments
  generalize approved.drop 1 = args at free ⊢
  generalize argv.drop 1 = others at otherFree ⊢
  by_cases none : args = []
  · subst none
    by_cases otherNone : others = []
    · subst otherNone
      simp
    · rw [pieces_of_free otherNone otherFree, show pieces [] = [[], []] from rfl,
        eq_comm (a := [[], []]), map_toList_eq_iff]
      refine ⟨fun conflated => .inl ⟨rfl, conflated.2⟩, ?_⟩
      rintro (⟨-, rfl⟩ | ⟨isNil, -⟩)
      · exact ⟨by decide, rfl⟩
      · nomatch isNil
  · by_cases otherNone : others = []
    · subst otherNone
      rw [pieces_of_free none free, show pieces [] = [[], []] from rfl, map_toList_eq_iff]
      refine ⟨fun conflated => .inr ⟨conflated.2, rfl⟩, ?_⟩
      rintro (⟨isNil, -⟩ | ⟨rfl, -⟩)
      · exact absurd isNil none
      · exact ⟨by decide, rfl⟩
    · rw [pieces_of_free none free, pieces_of_free otherNone otherFree]
      refine ⟨fun ⟨different, same⟩ => absurd ?_ different, ?_⟩
      · refine (List.map_injective_iff.2 fun _ _ => String.toList_inj.1) ?_
        rw [List.map_map, List.map_map]
        exact same
      · rintro (⟨isNil, -⟩ | ⟨-, isNil⟩)
        · exact absurd isNil none
        · exact absurd isNil otherNone

/-- Arguments without a separator: what has been approved is accepted, and beside it only two
empty arguments for none and none for two empty ones. -/
theorem approved_arguments_are_accepted_iff (other : String → Option (String → Bool))
    {pattern : String} {approved argv : List String}
    (isBuilt : buildArgPatternFromArgv true approved = some pattern)
    (free : ∀ arg ∈ approved.drop 1, '\x00' ∉ arg.toList)
    (otherFree : ∀ arg ∈ argv.drop 1, '\x00' ∉ arg.toList) :
    matchArgPattern other pattern argv true = true ↔ SameArguments approved argv ∨
      (approved.drop 1 = [] ∧ argv.drop 1 = ["", ""]) ∨
        (approved.drop 1 = ["", ""] ∧ argv.drop 1 = []) := by
  obtain rfl := Option.some.inj isBuilt
  have same : SameArguments approved argv → pieces (approved.drop 1) = pieces (argv.drop 1) :=
    fun same => (encoded_eq_iff _ _).1 (congrArg encoded same)
  rw [matchArgPattern_patternOf, ← conflated_iff_of_free free otherFree, Conflated]
  tauto

theorem no_arguments_are_accepted :
    matchArgPattern (fun _ => none) "^\x00\x00$" ["python"] true = true :=
  (approved_arguments_are_accepted_iff _ (rfl : buildArgPatternFromArgv true ["python"] = _)
    (by simp) (by simp)).2 (.inl rfl)

/-- The pattern for a script is the one for the command that begins at the script. -/
theorem script_pattern_is_command_pattern (resolveArgPath lowerBasename : String → String)
    (windows : Bool) (argv : List String) (scriptPath : String) :
    buildScriptArgPatternFromArgv resolveArgPath lowerBasename windows argv scriptPath =
      buildArgPatternFromArgv windows
        (((argv.findIdx? fun arg => resolveArgPath arg = scriptPath).or
          (argv.findIdx? fun arg => lowerBasename arg = lowerBasename scriptPath)).elim []
            argv.drop) := by
  have escaped : ∀ fields : List (List Char), Literals.escape (join '\x00' fields) =
      join '\x00' (fields.map Literals.escape) := flatMap_join (by decide)
  unfold buildScriptArgPatternFromArgv buildArgPatternFromArgv patternOf
  cases windows with
  | false => rfl
  | true =>
    cases (argv.findIdx? _).or _ with
    | none => rfl
    | some index => simp [escapeRegExpLiteral, joinText, escaped, Function.comp_def]

/-! ### The allowlist -/

/-- An entry for the path of an executable. -/
structure IsPathEntry (matchesExecAllowlistPattern : String → String → Bool)
    (entry : ExecAllowlistEntry) (resolvedPath : String) : Prop where
  resolved : resolvedPath ≠ ""
  hasPath : (trim entry.pattern).toList.any (· ∈ ['/', '\\', '~']) = true
  isMatch : matchesExecAllowlistPattern (trim entry.pattern) resolvedPath = true

/-- An entry with a pattern accepts a command of its executable when the pattern does. -/
theorem matchAllowlist_singleton {other : String → Option (String → Bool)}
    {matchesExecAllowlistPattern : String → String → Bool} {entry : ExecAllowlistEntry}
    {resolvedPath argPattern : String}
    (isEntry : IsPathEntry matchesExecAllowlistPattern entry resolvedPath)
    (hasPattern : nonEmpty entry.argPattern = some argPattern) (argv : List String) :
    matchAllowlist other matchesExecAllowlistPattern [entry] (some (some resolvedPath)) (some argv)
        true = some entry ↔ matchArgPattern other argPattern argv true = true := by
  have notWild : [entry].find? (fun entry => trim entry.pattern = "*" &&
      (nonEmpty entry.argPattern).isNone && (some (some resolvedPath)).isSome) = none := by
    rw [List.find?_cons_of_neg, List.find?_nil]
    rw [hasPattern]
    simp
  have isResolved : nonEmpty (some (some resolvedPath)).join = some resolvedPath :=
    (nonEmpty_eq_some_iff _ _).2 ⟨rfl, isEntry.resolved⟩
  unfold matchAllowlist
  rw [notWild]
  dsimp only
  rw [isResolved]
  dsimp only [matchEntries]
  rw [isEntry.hasPath, isEntry.isMatch, hasPattern]
  simp only [Bool.not_true, Bool.or_self, Bool.false_eq_true, if_false, Option.any_some]
  by_cases accepts : matchArgPattern other argPattern argv true = true
  · rw [if_pos accepts]
    exact ⟨fun _ => accepts, fun _ => rfl⟩
  · rw [if_neg accepts]
    exact ⟨nofun, fun isTrue => absurd isTrue accepts⟩

/-! ### Which arguments are accepted -/

/-- A pattern accepts the arguments that it has been built from, and no others but those that are
conflated with them. -/
theorem arg_pattern_exact_iff (other : String → Option (String → Bool))
    {matchesExecAllowlistPattern : String → String → Bool} {entry : ExecAllowlistEntry}
    {resolvedPath pattern : String} {approved : List String}
    (isEntry : IsPathEntry matchesExecAllowlistPattern entry resolvedPath)
    (isPattern : entry.argPattern = some pattern)
    (isBuilt : buildArgPatternFromArgv true approved = some pattern) (argv : List String) :
    ((matchArgPattern other pattern argv true = true ↔ SameArguments approved argv) ↔
      ¬Conflated approved argv) ∧
    ((matchAllowlist other matchesExecAllowlistPattern [entry] (some (some resolvedPath))
        (some argv) true = some entry ↔ SameArguments approved argv) ↔ ¬Conflated approved argv) := by
  have isPatternOf : patternOf ((approved.drop 1).map toBackslashes) = pattern :=
    Option.some.inj isBuilt
  have filled : nonEmpty entry.argPattern = some pattern := by
    refine (nonEmpty_eq_some_iff _ _).2 ⟨isPattern, ?_⟩
    rintro rfl
    have inside := nul_mem_patternOf ((approved.drop 1).map toBackslashes)
    rw [isPatternOf] at inside
    exact absurd inside (by decide)
  have accepts : matchArgPattern other pattern argv true = true ↔
      pieces (approved.drop 1) = pieces (argv.drop 1) := by
    rw [← isPatternOf]
    exact matchArgPattern_patternOf other _ argv
  have same : SameArguments approved argv → pieces (approved.drop 1) = pieces (argv.drop 1) :=
    fun same => (encoded_eq_iff _ _).1 (congrArg encoded same)
  have exact : (matchArgPattern other pattern argv true = true ↔ SameArguments approved argv) ↔
      ¬Conflated approved argv := by
    rw [accepts]
    unfold Conflated
    tauto
  refine ⟨exact, ?_⟩
  rw [matchAllowlist_singleton isEntry filled argv]
  exact exact

def pythonEntry (argPattern : String) : ExecAllowlistEntry where
  pattern := "C:\\Python\\python.exe"
  argPattern := some argPattern

theorem approved_script_is_matched :
    matchArgPattern (fun _ => none) "^src\\\\a\\.py\x00--all\x00$" ["python", "src/a.py", "--all"]
      true = true := by
  have isEntry : IsPathEntry (fun pattern path => pattern = path)
      (pythonEntry "^src\\\\a\\.py\x00--all\x00$") "C:\\Python\\python.exe" :=
    ⟨by decide, by decide +kernel, by decide +kernel⟩
  have isBuilt : buildArgPatternFromArgv true ["python", "src\\a.py", "--all"] =
      some "^src\\\\a\\.py\x00--all\x00$" := by
    decide +kernel
  refine ((arg_pattern_exact_iff (fun _ => none) isEntry rfl isBuilt _).1.2 ?_).2
    (by decide +kernel)
  rintro ⟨different, -⟩
  exact different (by decide +kernel)

/-- A command that has been approved without arguments is accepted with two empty ones. -/
theorem no_arguments_match_two_empty_ones :
    buildArgPatternFromArgv true ["python"] = some "^\x00\x00$" ∧
      matchArgPattern (fun _ => none) "^\x00\x00$" ["python", "", ""] true = true ∧
      ¬SameArguments ["python"] ["python", "", ""] := by
  decide +kernel

end OpenClaw.Exec
