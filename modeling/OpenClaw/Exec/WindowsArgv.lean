/-
This file is the quoting of arguments for Windows, and the tokenizer that reads a command back.

The renderer puts an argument in double quotes and writes a double quote within it twice. To the
tokenizer a double quote only says where a quoted part ends, so it reads the pair as nothing: what
comes back is every argument without its double quotes. The command that is enforced therefore
carries the arguments that were approved exactly when none of them has a double quote.
-/

import OpenClaw.Base.Delimited
import OpenClaw.Shared.Text

namespace OpenClaw.Exec

open Text Delimited

/-! ### The renderer -/

/-- What follows a dollar sign that PowerShell expands. -/
def isExpansionStart (character : Char) : Bool :=
  character.isAlpha || character ∈ ['_', '{', '(', '?', '$']

/-- `WINDOWS_UNSAFE_CMD_META`. -/
def hasUnsafeCmdMeta : List Char → Bool
  | [] => false
  | character :: rest =>
    character = '%' || character.toNat = 96 ||
      (character = '$' && rest.head?.any isExpansionStart) || hasUnsafeCmdMeta rest

/-- A character that an unquoted argument may have. -/
def isPlain (character : Char) : Bool :=
  character.isAlphanum || character ∈ ['_', '.', '/', ':', '~', '\\', '=', '-']

/-- Every double quote twice. -/
def doubleQuotes (characters : List Char) : List Char :=
  characters.flatMap fun character => if character = '"' then ['"', '"'] else [character]

def windowsEscapeArg (value : String) : Option String :=
  if value = "" then some "\"\""
  else if hasUnsafeCmdMeta value.toList then none
  else if value.toList.all isPlain then some value
  else some (String.ofList ('"' :: doubleQuotes value.toList ++ ['"']))

/-- `renderWindowsQuotedArgv`, as far as its parts. -/
def renderParts : List String → Except String (List String)
  | [] => .ok []
  | token :: rest =>
    match windowsEscapeArg token with
    | none => .error ("unsafe windows token: " ++ token)
    | some escaped => (renderParts rest).map (escaped :: ·)

def renderWindowsQuotedArgv (argv : List String) : Except String String :=
  (renderParts argv).map (joinText ' ')

/-! ### The tokenizer -/

/-- The variables of `tokenizeWindowsSegment`. -/
structure WindowsTokenizer where
  tokens : List String := []
  buf : List Char := []
  inDouble : Bool := false
  inSingle : Bool := false
  wasQuoted : Bool := false
  deriving DecidableEq

namespace WindowsTokenizer

def pushToken (state : WindowsTokenizer) : WindowsTokenizer :=
  if state.buf ≠ [] || state.wasQuoted then
    { state with tokens := state.tokens ++ [String.ofList state.buf], buf := [], wasQuoted := false }
  else { state with wasQuoted := false }

/-- The loop over the characters. A pair of single quotes in a quoted part is read at once. -/
def scan (state : WindowsTokenizer) : List Char → WindowsTokenizer
  | [] => state
  | character :: rest =>
    if character = '"' && !state.inSingle then
      scan { state with
        inDouble := !state.inDouble, wasQuoted := state.wasQuoted || !state.inDouble } rest
    else if character = '\'' && !state.inDouble then
      if state.inSingle then
        match rest with
        | '\'' :: rest => scan { state with buf := state.buf ++ ['\''] } rest
        | rest => scan { state with inSingle := false } rest
      else scan { state with inSingle := true, wasQuoted := true } rest
    else if !state.inDouble && !state.inSingle && isWhiteSpace character then
      scan state.pushToken rest
    else scan { state with buf := state.buf ++ [character] } rest

end WindowsTokenizer

def tokenizeWindowsSegment (segment : String) : Option (List String) :=
  let state := WindowsTokenizer.scan {} segment.toList
  if state.inDouble || state.inSingle then none
  else if state.pushToken.tokens = [] then none else some state.pushToken.tokens

/-! ### What comes back -/

/-- A text without its double quotes. -/
def withoutQuotes (value : String) : String := String.ofList (value.toList.filter (· ≠ '"'))

theorem withoutQuotes_eq_self_iff (value : String) :
    withoutQuotes value = value ↔ '"' ∉ value.toList := by
  rw [withoutQuotes, ← String.toList_inj, String.toList_ofList, List.filter_eq_self]
  refine ⟨fun each member => ?_, fun free character member => ?_⟩
  · exact of_decide_eq_true (each _ member) rfl
  · exact decide_eq_true fun isQuote => free (isQuote ▸ member)

theorem code_of_isPlain {character : Char} (plain : isPlain character = true) :
    33 ≤ character.toNat ∧ character.toNat ≤ 126 := by
  unfold isPlain at plain
  rw [Bool.or_eq_true, decide_eq_true_iff] at plain
  rcases plain with alphanumeric | listed
  · simp only [Char.isAlphanum, Char.isAlpha, Char.isUpper, Char.isLower, Char.isDigit,
      Bool.or_eq_true, Bool.and_eq_true, decide_eq_true_iff, ge_iff_le, UInt32.le_iff_toNat_le]
      at alphanumeric
    change 33 ≤ character.val.toNat ∧ character.val.toNat ≤ 126
    simp only [UInt32.reduceToNat, Char.reduceVal] at alphanumeric
    omega
  · fin_cases listed <;> decide

theorem not_isWhiteSpace_of_isPlain {character : Char} (plain : isPlain character = true) :
    isWhiteSpace character = false := by
  obtain ⟨low, high⟩ := code_of_isPlain plain
  unfold isWhiteSpace
  simp only [Bool.or_eq_false_iff, Bool.and_eq_false_iff, decide_eq_false_iff_not,
    beq_eq_false_iff_ne]
  omega

namespace WindowsTokenizer

variable (tokens : List String) (buf : List Char)

/-- A character that is no single quote, or stands between double quotes. -/
theorem scan_cons {state : WindowsTokenizer} {character : Char} (rest : List Char)
    (literal : character ≠ '\'' ∨ state.inDouble = true) :
    scan state (character :: rest) =
      if character = '"' && !state.inSingle then
        scan { state with
          inDouble := !state.inDouble, wasQuoted := state.wasQuoted || !state.inDouble } rest
      else if !state.inDouble && !state.inSingle && isWhiteSpace character then
        scan state.pushToken rest
      else scan { state with buf := state.buf ++ [character] } rest := by
  have notQuote : ¬ (character = '\'' && !state.inDouble) = true := by
    rw [Bool.and_eq_true, decide_eq_true_iff, Bool.not_eq_true']
    rintro ⟨isSingle, notDouble⟩
    rcases literal with notSingle | isDouble
    · exact notSingle isSingle
    · exact absurd (isDouble.symm.trans notDouble) nofun
  rw [scan.eq_def]
  dsimp only
  rw [if_neg notQuote]

/-- Characters that are neither quotes nor blanks are read as they are. -/
theorem scan_plain (characters rest : List Char)
    (plain : ∀ character ∈ characters, isPlain character = true) :
    scan { tokens, buf } (characters ++ rest) = scan { tokens, buf := buf ++ characters } rest := by
  induction characters generalizing buf with
  | nil => rw [List.nil_append, List.append_nil]
  | cons character characters inductionHypothesis =>
    have isPlain := plain character List.mem_cons_self
    have notDouble : character ≠ '"' := fun same => absurd (same ▸ isPlain) (by decide)
    have notSingle : character ≠ '\'' := fun same => absurd (same ▸ isPlain) (by decide)
    rw [List.cons_append, scan_cons _ (.inl notSingle)]
    simp only [notDouble, not_isWhiteSpace_of_isPlain isPlain, decide_false, Bool.false_and,
      Bool.and_false, Bool.false_eq_true, if_false]
    rw [inductionHypothesis _ fun other member => plain other (List.mem_cons_of_mem _ member),
      List.append_assoc, List.singleton_append]

/-- Between double quotes everything is read as it is, but for the pairs of double quotes. -/
theorem scan_doubleQuotes (characters rest : List Char) :
    scan { tokens, buf, inDouble := true, wasQuoted := true } (doubleQuotes characters ++ rest) =
      scan { tokens, buf := buf ++ characters.filter (· ≠ '"'), inDouble := true, wasQuoted := true }
        rest := by
  induction characters generalizing buf with
  | nil => rw [doubleQuotes, List.flatMap_nil, List.nil_append, List.filter_nil, List.append_nil]
  | cons character characters inductionHypothesis =>
    rw [doubleQuotes, List.flatMap_cons, ← doubleQuotes, List.append_assoc]
    by_cases isQuote : character = '"'
    · subst isQuote
      rw [if_pos rfl, List.cons_append, scan_cons _ (.inr rfl), List.singleton_append,
        scan_cons _ (.inl (by decide))]
      exact inductionHypothesis buf
    · have kept : (character :: characters).filter (· ≠ '"') =
          character :: characters.filter (· ≠ '"') :=
        List.filter_cons_of_pos (decide_eq_true isQuote)
      rw [if_neg isQuote, List.singleton_append, scan_cons _ (.inr rfl), kept]
      simp only [isQuote, decide_false, Bool.false_and, Bool.not_true, Bool.false_eq_true, if_false]
      rw [inductionHypothesis, List.append_assoc, List.singleton_append]

/-- What is read of an argument that has been rendered, up to the blank behind it. -/
theorem scan_escaped {value escaped : String} (isEscaped : windowsEscapeArg value = some escaped)
    (rest : List Char) :
    ∃ wasQuoted, scan { tokens } (escaped.toList ++ rest) =
        scan { tokens, buf := (withoutQuotes value).toList, wasQuoted } rest ∧
      ((withoutQuotes value).toList ≠ [] ∨ wasQuoted = true) := by
  unfold windowsEscapeArg at isEscaped
  split at isEscaped
  next isEmpty =>
    obtain rfl := Option.some.inj isEscaped
    subst isEmpty
    refine ⟨true, ?_, .inr rfl⟩
    change scan { tokens } ('"' :: '"' :: rest) = _
    rw [scan_cons _ (.inl (by decide)), scan_cons _ (.inl (by decide))]
    rfl
  next notEmpty =>
    split at isEscaped
    · nomatch isEscaped
    · split at isEscaped
      next plain =>
        obtain rfl := Option.some.inj isEscaped
        have each : ∀ character ∈ value.toList, isPlain character = true := List.all_eq_true.1 plain
        have free : '"' ∉ value.toList := fun member => absurd (each _ member) (by decide)
        rw [(withoutQuotes_eq_self_iff value).2 free]
        refine ⟨false, scan_plain tokens [] value.toList rest each, .inl fun noCharacters => ?_⟩
        exact notEmpty (String.toList_inj.1 noCharacters)
      · obtain rfl := Option.some.inj isEscaped
        refine ⟨true, ?_, .inr rfl⟩
        rw [String.toList_ofList, List.cons_append, List.cons_append, List.append_assoc,
          scan_cons _ (.inl (by decide))]
        refine (scan_doubleQuotes tokens [] value.toList _).trans ?_
        rw [List.singleton_append, scan_cons _ (.inr rfl), withoutQuotes, String.toList_ofList]
        rfl

/-- A blank between two tokens. -/
theorem scan_blank (wasQuoted : Bool) (rest : List Char) :
    scan { tokens, buf, wasQuoted } (' ' :: rest) =
      scan (pushToken { tokens, buf, wasQuoted }) rest := by
  rw [scan_cons _ (.inl (by decide)), if_neg (by simp)]
  exact if_pos rfl

/-- The token that has been read is pushed. -/
theorem pushToken_read {value : List Char} {wasQuoted : Bool}
    (present : value ≠ [] ∨ wasQuoted = true) :
    pushToken { tokens, buf := value, wasQuoted } = { tokens := tokens ++ [String.ofList value] } := by
  unfold pushToken
  rw [if_pos]
  rwa [Bool.or_eq_true, decide_eq_true_iff]

end WindowsTokenizer

/-- The tokens that a segment is read as. -/
def WindowsTokenizer.ReadsAs (state : WindowsTokenizer) (tokens : List String) : Prop :=
  state.inDouble = false ∧ state.inSingle = false ∧ state.pushToken.tokens = tokens

theorem renderParts_cons {token : String} {rest parts : List String}
    (isRendered : renderParts (token :: rest) = .ok parts) :
    ∃ escaped others, windowsEscapeArg token = some escaped ∧ renderParts rest = .ok others ∧
      parts = escaped :: others := by
  rw [renderParts] at isRendered
  split at isRendered
  · nomatch isRendered
  next escaped isEscaped =>
    cases isRest : renderParts rest with
    | error reason =>
      rw [isRest] at isRendered
      nomatch isRendered
    | ok others =>
      rw [isRest] at isRendered
      exact ⟨escaped, others, isEscaped, rfl, (Except.ok.inj isRendered).symm⟩

open WindowsTokenizer in
/-- Arguments that have been rendered are read as what they are without their double quotes. -/
theorem scan_rendered {argv parts : List String} (isRendered : renderParts argv = .ok parts)
    (tokens : List String) :
    (scan { tokens } (joinText ' ' parts).toList).ReadsAs (tokens ++ argv.map withoutQuotes) := by
  rw [joinText, String.toList_ofList]
  induction argv generalizing parts tokens with
  | nil =>
    obtain rfl := Except.ok.inj isRendered
    exact ⟨rfl, rfl, (List.append_nil tokens).symm⟩
  | cons token rest inductionHypothesis =>
    obtain ⟨escaped, others, isEscaped, otherRendered, rfl⟩ := renderParts_cons isRendered
    rw [List.map_cons, List.map_cons, List.append_cons tokens]
    by_cases last : others = []
    · -- The end of the segment pushes the last token.
      subst last
      have noMore : rest = [] := by
        cases rest with
        | nil => rfl
        | cons next others =>
          obtain ⟨_, _, _, _, more⟩ := renderParts_cons otherRendered
          cases more
      subst noMore
      obtain ⟨wasQuoted, isRead, present⟩ := scan_escaped tokens isEscaped []
      change (scan { tokens } escaped.toList).ReadsAs _
      rw [List.append_nil] at isRead
      rw [isRead, scan, List.map_nil, List.append_nil]
      refine ⟨rfl, rfl, ?_⟩
      rw [pushToken_read tokens present, String.ofList_toList]
    · -- A blank pushes any other token.
      obtain ⟨wasQuoted, isRead, present⟩ := scan_escaped tokens isEscaped
        (' ' :: join ' ' (others.map String.toList))
      rw [join_cons (by simpa using last), isRead, scan_blank, pushToken_read tokens present,
        String.ofList_toList]
      exact inductionHypothesis otherRendered _

/-! ### The round trip -/

/-- The rendered arguments are read back as they are without their double quotes. -/
theorem tokenizeWindowsSegment_rendered {argv : List String} {rendered : String}
    (filled : argv ≠ []) (isRendered : renderWindowsQuotedArgv argv = .ok rendered) :
    tokenizeWindowsSegment rendered = some (argv.map withoutQuotes) := by
  unfold renderWindowsQuotedArgv at isRendered
  cases isParts : renderParts argv with
  | error reason =>
    rw [isParts] at isRendered
    nomatch isRendered
  | ok parts =>
    rw [isParts] at isRendered
    obtain rfl := Except.ok.inj isRendered
    obtain ⟨notDouble, notSingle, isTokens⟩ := scan_rendered isParts []
    unfold tokenizeWindowsSegment
    dsimp only
    rw [notDouble, notSingle, isTokens, List.nil_append, Bool.or_false,
      if_neg Bool.false_ne_true, if_neg (by simpa using filled)]

/-- The arguments come back as they were exactly when none of them has a double quote. -/
theorem windows_argv_round_trip_iff {argv : List String} {rendered : String} (filled : argv ≠ [])
    (isRendered : renderWindowsQuotedArgv argv = .ok rendered) :
    tokenizeWindowsSegment rendered = some argv ↔ ∀ token ∈ argv, '"' ∉ token.toList := by
  rw [tokenizeWindowsSegment_rendered filled isRendered, Option.some_inj]
  nth_rewrite 2 [← List.map_id argv]
  rw [List.map_inj_left]
  exact forall₂_congr fun token _ => withoutQuotes_eq_self_iff token

theorem windows_argv_round_trip_node :
    tokenizeWindowsSegment "node \"it's here\" \"\"" = some ["node", "it's here", ""] :=
  (windows_argv_round_trip_iff (by decide) (by decide +kernel)).2 (by decide +kernel)

/-- A double quote is lost. -/
theorem quoted_word_loses_its_quotes :
    renderWindowsQuotedArgv ["say", "say \"hi\""] = .ok "say \"say \"\"hi\"\"\"" ∧
      tokenizeWindowsSegment "say \"say \"\"hi\"\"\"" = some ["say", "say hi"] := by
  decide +kernel

end OpenClaw.Exec
