/-
This file is the text of a command that is shown for approval, `formatExecCommand` of
`infra/system-run-command.ts`, and the check that a text sent along with a command is that text.

Within quotes only a double quote is escaped, a backslash is not, so it cannot be told where it
stands whether a quote behind a backslash ends an argument. But two readings that part there are on
opposite sides of every quote from then on, and so they do not both come to an end: the text
determines the arguments.
-/

import OpenClaw.Base.Delimited
import OpenClaw.Shared.Text

namespace OpenClaw.Exec

open Text Delimited

/-! ### The text -/

/-- `arg.replace(/"/g, '\\"')`. -/
def escapeQuotes (characters : List Char) : List Char :=
  characters.flatMap fun character => if character = '"' then ['\\', '"'] else [character]

/-- A character for which an argument is quoted. -/
def asksForQuotes (character : Char) : Bool := isWhiteSpace character || character = '"'

/-- One argument of `formatExecCommand`. -/
def formatArg (characters : List Char) : List Char :=
  if characters = [] then ['"', '"']
  else if !characters.any asksForQuotes then characters
  else '"' :: escapeQuotes characters ++ ['"']

def formatExecCommand (argv : List String) : String :=
  joinText ' ' (argv.map fun arg => String.ofList (formatArg arg.toList))

/-! ### The check -/

/-- What is found out about a command that runs a shell. -/
structure ShellFunctions where
  /-- `extractShellWrapperCommand`: whether it is one, and the command it is given. -/
  extractShellWrapperCommand : List String → Bool × Option String
  hasEnvManipulationBeforeShellWrapper : List String → Bool
  hasTrailingPositionalArgvAfterInlineCommand : List String → Bool

structure SystemRunCommandDisplay where
  shellPayload : Option String
  commandText : String
  previewText : Option String
  deriving DecidableEq

/-- The message and the details of a refusal. -/
structure CommandRefusal where
  message : String
  details : List (String × String)
  deriving DecidableEq

/-- The parameters of a request: `command` if it is an array, `rawCommand` if it is a string. -/
structure RunCommandParams (Value : Type) where
  command : Option (List Value)
  rawCommand : Option String

structure ResolvedRunCommand where
  argv : List String
  display : SystemRunCommandDisplay
  deriving DecidableEq

section Check

variable (shell : ShellFunctions)

def buildSystemRunCommandDisplay (argv : List String) : SystemRunCommandDisplay :=
  let wrapper := shell.extractShellWrapperCommand argv
  let plain := !(wrapper.1 && shell.hasEnvManipulationBeforeShellWrapper argv) &&
    !shell.hasTrailingPositionalArgvAfterInlineCommand argv
  { shellPayload := wrapper.2
    commandText := formatExecCommand argv
    previewText := if plain then wrapper.2.map trim else none }

/-- `normalizeRawCommandText`. -/
def normalizeRawCommandText (rawCommand : Option String) : Option String :=
  normalizeOptionalString rawCommand

def validateSystemRunCommandConsistency (argv : List String) (rawCommand : Option String)
    (allowLegacyShellText : Bool) : Except CommandRefusal SystemRunCommandDisplay :=
  let display := buildSystemRunCommandDisplay shell argv
  match normalizeRawCommandText rawCommand with
  | some raw =>
    if raw ≠ display.commandText && !(allowLegacyShellText && display.previewText = some raw) then
      .error {
        message := "INVALID_REQUEST: rawCommand does not match command"
        details := [("code", "RAW_COMMAND_MISMATCH"), ("rawCommand", raw),
          ("inferred", display.commandText), ("formattedArgv", display.commandText)] }
    else .ok display
  | none => .ok display

variable {Value : Type} (toText : Value → String)

def resolveSystemRunCommandWithMode (params : RunCommandParams Value)
    (allowLegacyShellText : Bool) : Except CommandRefusal ResolvedRunCommand :=
  let raw := normalizeRawCommandText params.rawCommand
  let command := params.command.getD []
  if command.isEmpty then
    if raw.isSome then
      .error {
        message := "rawCommand requires params.command"
        details := [("code", "MISSING_COMMAND")] }
    else .ok ⟨[], ⟨none, "", none⟩⟩
  else
    let argv := command.map toText
    (validateSystemRunCommandConsistency shell argv raw allowLegacyShellText).map
      (ResolvedRunCommand.mk argv)

def resolveSystemRunCommand (params : RunCommandParams Value) :
    Except CommandRefusal ResolvedRunCommand :=
  resolveSystemRunCommandWithMode shell toText params false

end Check

/-! ### Readings -/

/-- What stands behind an argument. -/
def behind : List (List Char) → List Char
  | [] => []
  | arg :: rest => ' ' :: formatArg arg ++ behind rest

/-- What stands behind a point within quotes. -/
def within (left : List Char) (rest : List (List Char)) : List Char :=
  escapeQuotes left ++ '"' :: behind rest

theorem escapeQuotes_cons (character : Char) (rest : List Char) :
    escapeQuotes (character :: rest) =
      (if character = '"' then ['\\', '"'] else [character]) ++ escapeQuotes rest :=
  List.flatMap_cons

theorem within_nil (rest : List (List Char)) : within [] rest = '"' :: behind rest := rfl

theorem within_quote (left : List Char) (rest : List (List Char)) :
    within ('"' :: left) rest = '\\' :: '"' :: within left rest := rfl

theorem within_other {character : Char} (other : character ≠ '"') (left : List Char)
    (rest : List (List Char)) : within (character :: left) rest = character :: within left rest := by
  rw [within, escapeQuotes_cons, if_neg other]
  rfl

/-- Within quotes a quote comes next only at their end. -/
theorem within_eq_quote {left text : List Char} {rest : List (List Char)}
    (starts : within left rest = '"' :: text) : left = [] ∧ behind rest = text := by
  cases left with
  | nil => exact ⟨rfl, (List.cons.inj starts).2⟩
  | cons character left =>
    rcases eq_or_ne character '"' with rfl | other
    · exact absurd (List.cons.inj starts).1 (by decide)
    · rw [within_other other] at starts
      exact absurd (List.cons.inj starts).1 other

theorem behind_ne_quote {rest : List (List Char)} {text : List Char} : behind rest ≠ '"' :: text := by
  cases rest with
  | nil => exact nofun
  | cons arg rest => exact fun same => absurd (List.cons.inj same).1 (by decide)

/-- The three ways an argument is written. -/
theorem formatArg_cases (arg : List Char) :
    (arg = [] ∧ formatArg arg = ['"', '"']) ∨
      (arg ≠ [] ∧ (∀ character ∈ arg, asksForQuotes character = false) ∧ formatArg arg = arg) ∨
        (arg ≠ [] ∧ ∀ rest, formatArg arg ++ behind rest = '"' :: within arg rest) := by
  unfold formatArg
  split
  next empty => exact Or.inl ⟨empty, rfl⟩
  next filled =>
    split
    next plain =>
      refine Or.inr (Or.inl ⟨filled, fun character member => ?_, rfl⟩)
      simpa using List.any_eq_false.1 (by simpa using plain) character member
    · exact Or.inr (Or.inr ⟨filled, fun rest => by simp [within]⟩)

theorem quote_ne_plain {character : Char} (plain : asksForQuotes character = false) :
    character ≠ '"' := by
  rintro rfl
  exact absurd plain (by decide)

/-- A reading within quotes and one outside never agree on what follows, whatever the outer one has
left of a plain argument: every quote changes the sides of both. -/
theorem within_ne_outside {left plain : List Char} {rest others : List (List Char)}
    (isPlain : ∀ character ∈ plain, asksForQuotes character = false) :
    within left rest ≠ plain ++ behind others := by
  induction size : (within left rest).length using Nat.strong_induction_on
    generalizing left plain rest others with
  | h bound inductionHypothesis =>
    intro same
    cases plain with
    | cons first plain =>
      have notQuote := quote_ne_plain (isPlain first List.mem_cons_self)
      cases left with
      | nil => exact notQuote (List.cons.inj same).1.symm
      | cons character left =>
        rcases eq_or_ne character '"' with rfl | other
        · -- The inner reading is at an escaped quote, which the outer one cannot have.
          have quoted := (List.cons.inj same).2
          cases plain with
          | nil => exact behind_ne_quote quoted.symm
          | cons second plain =>
            exact quote_ne_plain (isPlain second (by simp)) (List.cons.inj quoted).1.symm
        · rw [within_other other] at same size
          exact inductionHypothesis _ (by rw [← size]; exact Nat.lt_succ_self _)
            (fun next member => isPlain next (List.mem_cons_of_mem _ member)) rfl
            (List.cons.inj same).2
    | nil =>
      cases others with
      | nil =>
        rw [List.nil_append, behind, within] at same
        simp at same
      | cons arg others =>
        rw [List.nil_append, behind] at same
        cases left with
        | nil => exact absurd (List.cons.inj same).1 (by decide)
        | cons character left =>
          rcases eq_or_ne character '"' with rfl | other
          · exact absurd (List.cons.inj same).1 (by decide)
          · rw [within_other other] at same size
            replace same : within left rest = formatArg arg ++ behind others :=
              (List.cons.inj same).2
            have shorter : (within left rest).length < bound := by
              rw [← size]
              exact Nat.lt_succ_self _
            rcases formatArg_cases arg with ⟨rfl, written⟩ | ⟨-, argPlain, written⟩ | ⟨-, written⟩
            · rw [written] at same
              obtain ⟨rfl, ends⟩ := within_eq_quote same
              exact behind_ne_quote ends
            · rw [written] at same
              exact inductionHypothesis _ shorter argPlain rfl same
            · -- The outer reading enters quotes where the inner one leaves them.
              rw [written] at same
              obtain ⟨rfl, ends⟩ := within_eq_quote same
              refine @inductionHypothesis (within arg others).length ?_ arg [] others rest nofun rfl
                ends.symm
              rw [within_nil, List.length_cons, ends] at shorter
              exact Nat.lt_of_succ_lt shorter

variable {rest others : List (List Char)}

theorem behind_ne_within {left : List Char} :
    within left rest ≠ behind others :=
  @within_ne_outside left [] rest others nofun

/-- Within quotes the text determines the rest of the argument. -/
theorem within_inj {left other : List Char}
    (same : within left rest = within other others) : left = other ∧ behind rest = behind others := by
  induction left generalizing other with
  | nil =>
    obtain ⟨rfl, ends⟩ := within_eq_quote same.symm
    exact ⟨rfl, ends.symm⟩
  | cons character left inductionHypothesis =>
    cases other with
    | nil =>
      obtain ⟨isNil, -⟩ := within_eq_quote same
      cases isNil
    | cons next other =>
      rcases eq_or_ne character '"' with rfl | here <;> rcases eq_or_ne next '"' with rfl | there
      · rw [within_quote, within_quote] at same
        obtain ⟨rfl, ends⟩ := inductionHypothesis (List.cons.inj (List.cons.inj same).2).2
        exact ⟨rfl, ends⟩
      · -- One reading takes the quote behind a backslash for an escaped one.
        rw [within_quote, within_other there] at same
        obtain ⟨-, ends⟩ := within_eq_quote (List.cons.inj same).2.symm
        exact absurd ends.symm behind_ne_within
      · rw [within_quote, within_other here] at same
        obtain ⟨-, ends⟩ := within_eq_quote (List.cons.inj same).2
        exact absurd ends.symm behind_ne_within
      · rw [within_other here, within_other there] at same
        obtain ⟨rfl, tail⟩ := List.cons.inj same
        obtain ⟨rfl, ends⟩ := inductionHypothesis tail
        exact ⟨rfl, ends⟩

/-- A plain argument ends where a blank or the end of the text comes. -/
theorem plain_inj {arg other : List Char}
    (plain : ∀ character ∈ arg, asksForQuotes character = false)
    (otherPlain : ∀ character ∈ other, asksForQuotes character = false)
    (same : arg ++ behind rest = other ++ behind others) :
    arg = other ∧ behind rest = behind others := by
  have noBlank {character : Char} {text : List Char} {rest : List (List Char)}
      (plain : asksForQuotes character = false) : behind rest ≠ character :: text := by
    cases rest with
    | nil => exact nofun
    | cons arg rest =>
      intro same
      rw [← (List.cons.inj same).1] at plain
      exact absurd plain (by decide)
  induction arg generalizing other with
  | nil =>
    cases other with
    | nil => exact ⟨rfl, same⟩
    | cons character other => exact absurd same (noBlank (otherPlain character List.mem_cons_self))
  | cons character arg inductionHypothesis =>
    cases other with
    | nil => exact absurd same.symm (noBlank (plain character List.mem_cons_self))
    | cons next other =>
      obtain ⟨rfl, tail⟩ := List.cons.inj same
      obtain ⟨rfl, ends⟩ := inductionHypothesis
        (fun character member => plain character (List.mem_cons_of_mem _ member))
        (fun character member => otherPlain character (List.mem_cons_of_mem _ member)) tail
      exact ⟨rfl, ends⟩

/-! ### The text determines the arguments -/

theorem formatArg_inj {arg other : List Char}
    (same : formatArg arg ++ behind rest = formatArg other ++ behind others) :
    arg = other ∧ behind rest = behind others := by
  have quoteFirst {character : Char} {plain : List Char} {text : List Char}
      {others : List (List Char)} (isPlain : ∀ next ∈ character :: plain, asksForQuotes next = false) :
      '"' :: text ≠ (character :: plain) ++ behind others :=
    fun starts => quote_ne_plain (isPlain character List.mem_cons_self) (List.cons.inj starts).1.symm
  have closes {left text : List Char} {rest : List (List Char)} (filled : left ≠ []) :
      within left rest ≠ '"' :: text :=
    fun starts => filled (within_eq_quote starts).1
  rcases formatArg_cases arg with ⟨empty, written⟩ | ⟨filled, plain, written⟩ | ⟨filled, written⟩ <;>
    rcases formatArg_cases other with
      ⟨otherEmpty, otherWritten⟩ | ⟨otherFilled, otherPlain, otherWritten⟩ | ⟨otherFilled, otherWritten⟩ <;>
    rw [written, otherWritten] at same
  · exact ⟨empty.trans otherEmpty.symm, (List.cons.inj (List.cons.inj same).2).2⟩
  · obtain ⟨character, tail, rfl⟩ := List.exists_cons_of_ne_nil otherFilled
    exact absurd same (quoteFirst otherPlain)
  · exact absurd (List.cons.inj same).2.symm (closes otherFilled)
  · obtain ⟨character, tail, rfl⟩ := List.exists_cons_of_ne_nil filled
    exact absurd same.symm (quoteFirst plain)
  · exact plain_inj plain otherPlain same
  · obtain ⟨character, tail, rfl⟩ := List.exists_cons_of_ne_nil filled
    exact absurd same.symm (quoteFirst plain)
  · exact absurd (List.cons.inj same).2 (closes filled)
  · obtain ⟨character, tail, rfl⟩ := List.exists_cons_of_ne_nil otherFilled
    exact absurd same (quoteFirst otherPlain)
  · exact within_inj (List.cons.inj same).2

theorem behind_inj (same : behind rest = behind others) :
    rest = others := by
  induction rest generalizing others with
  | nil =>
    cases others with
    | nil => rfl
    | cons other others => cases same
  | cons arg rest inductionHypothesis =>
    cases others with
    | nil => cases same
    | cons other others =>
      obtain ⟨rfl, ends⟩ := formatArg_inj (List.cons.inj same).2
      rw [inductionHypothesis ends]

theorem join_formatArg (arg : List Char) (rest : List (List Char)) :
    join ' ' ((arg :: rest).map formatArg) = formatArg arg ++ behind rest := by
  induction rest generalizing arg with
  | nil => exact (List.append_nil _).symm
  | cons next rest inductionHypothesis =>
    rw [List.map_cons, join_cons (by simp), inductionHypothesis]
    rfl

theorem formatArg_ne_nil (arg : List Char) : formatArg arg ≠ [] := by
  rcases formatArg_cases arg with ⟨-, written⟩ | ⟨filled, -, written⟩ | ⟨-, written⟩
  · rw [written]
    exact nofun
  · rwa [written]
  · intro empty
    have quoted := written []
    rw [empty] at quoted
    cases quoted

theorem formatExecCommand_inj {argv other : List String}
    (same : formatExecCommand argv = formatExecCommand other) : argv = other := by
  have joined : join ' ' ((argv.map String.toList).map formatArg) =
      join ' ' ((other.map String.toList).map formatArg) := by
    have texts := joinText_eq_iff.1 same
    simpa only [List.map_map, Function.comp_def, String.toList_ofList] using texts
  refine List.map_injective_iff.2 (fun _ _ => String.toList_inj.1) ?_
  cases first : argv.map String.toList with
  | nil =>
    cases second : other.map String.toList with
    | nil => rfl
    | cons arg rest =>
      rw [first, second, join_formatArg] at joined
      exact absurd (List.append_eq_nil_iff.1 joined.symm).1 (formatArg_ne_nil arg)
  | cons arg rest =>
    cases second : other.map String.toList with
    | nil =>
      rw [first, second, join_formatArg] at joined
      exact absurd (List.append_eq_nil_iff.1 joined).1 (formatArg_ne_nil arg)
    | cons next others =>
      rw [first, second, join_formatArg, join_formatArg] at joined
      obtain ⟨rfl, ends⟩ := formatArg_inj joined
      rw [behind_inj ends]

/-- A text that is accepted is the text of the command. -/
theorem commandText_of_resolved {shell : ShellFunctions} {Value : Type} {toText : Value → String}
    {params : RunCommandParams Value} {resolved : ResolvedRunCommand} {raw : String}
    (sent : normalizeRawCommandText params.rawCommand = some raw)
    (accepts : resolveSystemRunCommand shell toText params = .ok resolved) :
    formatExecCommand resolved.argv = raw := by
  rw [resolveSystemRunCommand, resolveSystemRunCommandWithMode] at accepts
  dsimp only at accepts
  split at accepts
  · rw [sent] at accepts
    cases accepts
  · have normal : normalizeRawCommandText (some raw) = some raw := by
      rw [normalizeRawCommandText, ← sent, normalizeRawCommandText, normalizeOptionalString_idem]
    rw [validateSystemRunCommandConsistency, sent, normal] at accepts
    dsimp only at accepts
    split at accepts
    · cases accepts
    next same =>
      obtain rfl := Except.ok.inj accepts
      rw [Bool.false_and, Bool.not_false, Bool.and_true, decide_eq_true_eq, not_not] at same
      exact same.symm

/-- The approval text identifies the command: `formatExecCommand` is injective, and two requests
that are accepted with the same text are for the same arguments. -/
theorem command_text_identifies {Value : Type} (shell : ShellFunctions) (toText : Value → String) :
    Function.Injective formatExecCommand ∧
      ∀ (first second : RunCommandParams Value) (firstResolved secondResolved : ResolvedRunCommand),
        first.rawCommand = second.rawCommand →
        (∃ raw, normalizeRawCommandText first.rawCommand = some raw) →
        resolveSystemRunCommand shell toText first = .ok firstResolved →
        resolveSystemRunCommand shell toText second = .ok secondResolved →
        firstResolved.argv = secondResolved.argv := by
  refine ⟨fun _ _ same => formatExecCommand_inj same, ?_⟩
  rintro first second firstResolved secondResolved sameRaw ⟨raw, sent⟩ accepts otherAccepts
  refine formatExecCommand_inj ?_
  rw [commandText_of_resolved sent accepts,
    commandText_of_resolved (sameRaw ▸ sent) otherAccepts]

example : formatExecCommand ["echo", "", "a \\", "say \"hi\""] =
    "echo \"\" \"a \\\" \"say \\\"hi\\\"\"" := by decide

end OpenClaw.Exec
