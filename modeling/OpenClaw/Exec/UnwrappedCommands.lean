/-
This file says what the trust plan of a command unwraps to. The two loops of the plan, one inside
the other with a depth between them, come to one walk: a wrapper is taken off while there is one,
and the walk fails where a wrapper cannot be parsed, where its use is not transparent and where
the depth is spent. The plan is blocked exactly where this walk fails.

What a removed wrapper had in front of the command is options of its own table, their values and
blanks. The exception is `env`. Its scan ends at `--` and at `-` alike, and the word that follows
is taken as the command; but `-` is the option that empties the environment, and the words that
follow a separator may still be assignments.
-/

import OpenClaw.Exec.TrustPlan

namespace OpenClaw.Exec

open Text

/-! ### What unwrapping has to do -/

/-- One wrapper taken off, a dispatch wrapper or a shell multiplexer. -/
def unwrapOnce (platform : Platform) (argv : List String) : WrapperUnwrapResult :=
  match unwrapKnownDispatchWrapperInvocation platform argv with
  | .notWrapper => unwrapKnownShellMultiplexerInvocation argv
  | result => result

/-- An invocation of a wrapper and the command it is unwrapped to. -/
structure Removal where
  invocation : List String
  command : List String

inductive Unwraps (platform : Platform) : List String → List Removal → List String → Prop
  | done (argv : List String) : Unwraps platform argv [] argv
  | wrapper {argv command last : List String} {wrapper : String} {removed : List Removal}
      (unwrapped : unwrapOnce platform argv = .unwrapped wrapper command)
      (rest : Unwraps platform command removed last) :
      Unwraps platform argv (⟨argv, command⟩ :: removed) last

/-- Options as a scan knows them, with their values, blanks, and at most a separator behind. -/
inductive OptionWords (scan : WrapperScan) : Bool → List String → Prop
  | nil (memory : Bool) : OptionWords scan memory []
  | blank {memory : Bool} {word : String} {rest : List String} (isBlank : trim word = "")
      (later : OptionWords scan memory rest) : OptionWords scan memory (word :: rest)
  | separator {memory : Bool} {word : String} (isSeparator : trim word ∈ scan.separators) :
      OptionWords scan memory [word]
  | flag {memory next : Bool} {word : String} {rest : List String}
      (isFlag : scan.onToken memory (trim word)
        (normalizeLowercaseStringOrEmpty (some (trim word))) = (next, .proceed))
      (later : OptionWords scan next rest) : OptionWords scan memory (word :: rest)
  | valued {memory next : Bool} {word value : String} {blanks rest : List String}
      (takesValue : scan.onToken memory (trim word)
        (normalizeLowercaseStringOrEmpty (some (trim word))) = (next, .consumeNext))
      (areBlank : ∀ blank ∈ blanks, trim blank = "") (later : OptionWords scan next rest) :
      OptionWords scan memory (word :: (blanks ++ value :: rest))

/-- The wrappers that start their command as it stands, whatever their options are. -/
def transparentScans (platform : Platform) : List (String × WrapperScan) :=
  [("caffeinate", caffeinateScan), ("nice", niceScan), ("nohup", nohupScan),
    ("sandbox-exec", sandboxExecScan), ("stdbuf", stdbufScan), ("time", timeScan),
    ("timeout", timeoutScan)] ++
  (if supportsScriptPositionalCommand platform then [("script", scriptScan)] else []) ++
  if platform = .darwin then [("arch", archScan), ("xcrun", xcrunScan)] else []

/-- The words between the options and the command: a duration, a transcript, else none. -/
inductive OwnWords : String → List String → Prop
  | duration (word : String) : OwnWords "timeout" [word]
  | transcript {words : List String} (one : (words.filter (trim · ≠ "")).length = 1) :
      OwnWords "script" words
  | nothing {wrapper : String} (notTimeout : wrapper ≠ "timeout")
      (notScript : wrapper ≠ "script") : OwnWords wrapper []

/-- No option and no assignment changes what a wrapper executes: the words in front of its
command are none, or are ones it keeps for itself. -/
inductive Transparent (platform : Platform) : String → List String → List String → Prop
  | env {front command : List String} (plain : ∀ word ∈ front, trim word = "" ∨ trim word = "--")
      (first : ∀ word ∈ command.head?, trim word ≠ "-" ∧ isEnvAssignment (trim word) = false) :
      Transparent platform "env" front command
  | options {wrapper : String} {scan : WrapperScan} {options own command : List String}
      (known : (wrapper, scan) ∈ transparentScans platform)
      (areOptions : OptionWords scan false options) (areOwn : OwnWords wrapper own) :
      Transparent platform wrapper (options ++ own) command
  | multiplexer {wrapper : String} {front command : List String}
      (known : wrapper ∈ shellMultiplexerWrapperNames)
      (plain : front = [] ∨ front.map trim = ["--"])
      (shell : (firstToken command).any isShellWrapperExecutable = true) :
      Transparent platform wrapper front command

def Removal.IsTransparent (platform : Platform) (removal : Removal) : Prop :=
  ∃ name front, removal.invocation = name :: (front ++ removal.command) ∧
    Transparent platform (normalizeExecutableToken (trim name)) front removal.command

/-- What a plan has to say of the words it is for. -/
structure Trusted (platform : Platform) (maxDepth : ℕ) (argv : List String)
    (plan : ExecWrapperTrustPlan) : Prop where
  argvSuffix : plan.argv <:+ argv
  policySuffix : plan.policyArgv <:+ argv
  command : plan.policyBlocked = false → ∀ word ∈ firstToken plan.argv,
    isDispatchWrapperExecutable word = false ∧ isShellMultiplexerExecutable word = false
  transparent : plan.policyBlocked = false → ∃ removed,
    Unwraps platform argv removed plan.argv ∧ ∀ removal ∈ removed, removal.IsTransparent platform
  deep : ∀ removed last, Unwraps platform argv removed last → maxDepth < removed.length →
    plan.policyBlocked = true
  unparsed : ∀ removed last wrapper, Unwraps platform argv removed last →
    unwrapOnce platform last = .blocked wrapper → plan.policyBlocked = true

/-! ### When it does -/

/-- A use of a wrapper that the table calls transparent. -/
def isTransparentUsage (platform : Platform) (argv : List String) : Bool :=
  match unwrapKnownDispatchWrapperInvocation platform argv with
  | .unwrapped wrapper _ => !isSemanticDispatchWrapperUsage platform wrapper argv
  | _ => true

/-- Where `env` is removed, no `-` stands before the command, and the command is neither a `-` nor
an assignment. -/
def Removal.EndsOptions (removal : Removal) : Prop :=
  ∀ name front, removal.invocation = name :: (front ++ removal.command) →
    normalizeExecutableToken (trim name) = "env" →
      (∀ word ∈ front, trim word ≠ "-") ∧
        ∀ word ∈ removal.command.head?, trim word ≠ "-" ∧ isEnvAssignment (trim word) = false

/-- Of words that unwrap within the depth, by uses the table calls transparent, to a command that
is no wrapper: every `env` on the way ends its options as it should. -/
def EnvEndsOptions (platform : Platform) (maxDepth : ℕ) (argv : List String) : Prop :=
  ∀ removed last, Unwraps platform argv removed last → unwrapOnce platform last = .notWrapper →
    removed.length ≤ maxDepth →
      (∀ removal ∈ removed, isTransparentUsage platform removal.invocation = true) →
        ∀ removal ∈ removed, removal.EndsOptions

/-! ### The walk -/

/-- What wrappers come to: a command, or nothing where the walk fails. -/
def peel (platform : Platform) : ℕ → List String → Option (List String)
  | 0, argv => if unwrapOnce platform argv = .notWrapper then some argv else none
  | depth + 1, argv =>
    match unwrapOnce platform argv with
    | .notWrapper => some argv
    | .blocked _ => none
    | .unwrapped _ command =>
      if isTransparentUsage platform argv then peel platform depth command else none

variable {platform : Platform} {argv : List String}

theorem peel_of_notWrapper (plain : unwrapOnce platform argv = .notWrapper) (depth : ℕ) :
    peel platform depth argv = some argv := by
  cases depth with
  | zero => rw [peel, if_pos plain]
  | succ depth => rw [peel, plain]

variable {wrapper : String}

theorem peel_of_blocked (blocked : unwrapOnce platform argv = .blocked wrapper) (depth : ℕ) :
    peel platform depth argv = none := by
  cases depth with
  | zero => rw [peel, blocked, if_neg nofun]
  | succ depth => rw [peel, blocked]

variable {command : List String}

theorem peel_zero_of_unwrapped (unwrapped : unwrapOnce platform argv = .unwrapped wrapper command) :
    peel platform 0 argv = none := by
  rw [peel, unwrapped, if_neg nofun]

theorem peel_of_changing (unwrapped : unwrapOnce platform argv = .unwrapped wrapper command)
    (changes : isTransparentUsage platform argv = false) (depth : ℕ) :
    peel platform depth argv = none := by
  cases depth with
  | zero => exact peel_zero_of_unwrapped unwrapped
  | succ depth =>
    rw [peel, unwrapped]
    exact if_neg (by rw [changes]; decide)

theorem peel_succ_of_unwrapped (unwrapped : unwrapOnce platform argv = .unwrapped wrapper command)
    (transparent : isTransparentUsage platform argv = true) (depth : ℕ) :
    peel platform (depth + 1) argv = peel platform depth command := by
  rw [peel, unwrapped]
  exact if_pos transparent

/-- The walk ends at a command exactly when there are few enough wrappers, all transparent. -/
theorem peel_eq_some_iff {depth : ℕ} {argv last : List String} :
    peel platform depth argv = some last ↔ unwrapOnce platform last = .notWrapper ∧
      ∃ removed, Unwraps platform argv removed last ∧ removed.length ≤ depth ∧
        ∀ removal ∈ removed, isTransparentUsage platform removal.invocation = true := by
  constructor
  · intro found
    induction depth generalizing argv with
    | zero =>
      rw [peel] at found
      split at found
      · next plain =>
        obtain rfl := Option.some.inj found
        exact ⟨plain, [], .done _, le_rfl, fun _ member => absurd member List.not_mem_nil⟩
      · cases found
    | succ depth inductionHypothesis =>
      cases next : unwrapOnce platform argv with
      | notWrapper =>
        rw [peel_of_notWrapper next] at found
        obtain rfl := Option.some.inj found
        exact ⟨next, [], .done _, Nat.zero_le _, fun _ member => absurd member List.not_mem_nil⟩
      | blocked wrapper =>
        rw [peel_of_blocked next] at found
        cases found
      | unwrapped wrapper command =>
        cases transparent : isTransparentUsage platform argv with
        | false =>
          rw [peel_of_changing next transparent] at found
          cases found
        | true =>
          rw [peel_succ_of_unwrapped next transparent] at found
          obtain ⟨plain, removed, unwraps, few, all⟩ := inductionHypothesis found
          exact ⟨plain, _, .wrapper next unwraps, Nat.succ_le_succ few,
            List.forall_mem_cons.2 ⟨transparent, all⟩⟩
  · rintro ⟨plain, removed, unwraps, few, all⟩
    induction unwraps generalizing depth with
    | done argv => exact peel_of_notWrapper plain depth
    | wrapper unwrapped _ inductionHypothesis =>
      obtain ⟨transparent, rest⟩ := List.forall_mem_cons.1 all
      obtain ⟨less, rfl⟩ := Nat.exists_eq_add_of_le' (Nat.one_le_of_lt few)
      rw [peel_succ_of_unwrapped unwrapped transparent]
      exact inductionHypothesis plain (Nat.le_of_succ_le_succ few) rest

/-- Wrappers are taken off in one way only. -/
theorem Unwraps.unique {argv last other : List String}
    {removed others : List Removal} (unwraps : Unwraps platform argv removed last)
    (plain : unwrapOnce platform last = .notWrapper) (again : Unwraps platform argv others other)
    (otherPlain : unwrapOnce platform other = .notWrapper) : removed = others := by
  induction unwraps generalizing others with
  | done argv =>
    cases again with
    | done => rfl
    | wrapper unwrapped =>
      rw [plain] at unwrapped
      cases unwrapped
  | wrapper unwrapped _ inductionHypothesis =>
    cases again with
    | done =>
      rw [otherPlain] at unwrapped
      cases unwrapped
    | wrapper same rest =>
      obtain ⟨-, rfl⟩ := WrapperUnwrapResult.unwrapped.inj (unwrapped.symm.trans same)
      rw [inductionHypothesis plain rest]

variable {removed : List Removal}

theorem Unwraps.peel_eq_none_of_deep {depth : ℕ} {argv last : List String}
    (unwraps : Unwraps platform argv removed last)
    (deep : depth < removed.length) : peel platform depth argv = none := by
  induction unwraps generalizing depth with
  | done argv => exact absurd deep (Nat.not_lt_zero _)
  | @wrapper argv command last wrapper removed unwrapped _ inductionHypothesis =>
    cases depth with
    | zero => exact peel_zero_of_unwrapped unwrapped
    | succ depth =>
      cases transparent : isTransparentUsage platform argv with
      | false => exact peel_of_changing unwrapped transparent _
      | true =>
        rw [peel_succ_of_unwrapped unwrapped transparent]
        exact inductionHypothesis (Nat.lt_of_succ_lt_succ deep)

theorem Unwraps.peel_eq_none_of_blocked {depth : ℕ} {argv last : List String}
    (unwraps : Unwraps platform argv removed last)
    (blocked : unwrapOnce platform last = .blocked wrapper) : peel platform depth argv = none := by
  induction unwraps generalizing depth with
  | done argv => exact peel_of_blocked blocked depth
  | @wrapper argv command last _ removed unwrapped _ inductionHypothesis =>
    cases depth with
    | zero => exact peel_zero_of_unwrapped unwrapped
    | succ depth =>
      cases transparent : isTransparentUsage platform argv with
      | false => exact peel_of_changing unwrapped transparent _
      | true =>
        rw [peel_succ_of_unwrapped unwrapped transparent]
        exact inductionHypothesis blocked

/-! ### The scans -/

variable {scan : WrapperScan} {words : List String}

/-- What a scan passes over are options with their values. -/
theorem scanLoop_words {words rest : List String} (memory : Bool) :
    (scanLoop scan memory false words = some rest →
      ∃ front, words = front ++ rest ∧ OptionWords scan memory front) ∧
    (scanLoop scan memory true words = some rest →
      ∃ blanks value front, words = blanks ++ value :: (front ++ rest) ∧
        (∀ blank ∈ blanks, trim blank = "") ∧ OptionWords scan memory front) := by
  induction words generalizing memory with
  | nil =>
    refine ⟨fun ended => ?_, nofun⟩
    obtain rfl := Option.some.inj ended
    exact ⟨[], rfl, .nil memory⟩
  | cons word words inductionHypothesis =>
    rw [scanLoop, scanLoop]
    by_cases isBlank : trim word = ""
    · rw [if_pos isBlank, if_pos isBlank]
      refine ⟨fun found => ?_, fun found => ?_⟩
      · obtain ⟨front, rfl, options⟩ := (inductionHypothesis memory).1 found
        exact ⟨word :: front, rfl, .blank isBlank options⟩
      · obtain ⟨blanks, value, front, rfl, areBlank, options⟩ :=
          (inductionHypothesis memory).2 found
        exact ⟨word :: blanks, value, front, rfl, List.forall_mem_cons.2 ⟨isBlank, areBlank⟩,
          options⟩
    rw [if_neg isBlank, if_neg isBlank, if_neg Bool.false_ne_true, if_pos rfl]
    refine ⟨fun found => ?_, fun found => ?_⟩
    · split at found
      · next isSeparator =>
        obtain rfl := Option.some.inj found
        exact ⟨[word], rfl, .separator isSeparator⟩
      split at found
      · obtain rfl := Option.some.inj found
        exact ⟨[], rfl, .nil memory⟩
      · cases found
      · next next takesValue =>
        obtain ⟨blanks, value, front, rfl, areBlank, options⟩ := (inductionHypothesis next).2 found
        refine ⟨word :: (blanks ++ value :: front), ?_, .valued takesValue areBlank options⟩
        rw [List.cons_append, List.append_assoc, List.cons_append]
      · next next isFlag =>
        obtain ⟨front, rfl, options⟩ := (inductionHypothesis next).1 found
        exact ⟨word :: front, rfl, .flag isFlag options⟩
    · obtain ⟨front, rfl, options⟩ := (inductionHypothesis memory).1 found
      exact ⟨[], word, front, rfl, fun _ member => absurd member List.not_mem_nil, options⟩

/-- What is unwrapped is what is left when the options and the wrapper's own words are gone. -/
theorem scanWrapperInvocation_words
    (found : scanWrapperInvocation argv scan = some command) : command ≠ [] ∧
      ∃ options left, argv.tail = options ++ left ∧
        scanLoop scan false false argv.tail = some left ∧ OptionWords scan false options ∧
          scan.adjustCommandIndex left = some command := by
  rw [scanWrapperInvocation] at found
  split at found
  · next first rest adjusted =>
    obtain rfl := Option.some.inj found
    obtain ⟨left, ended, isCommand⟩ := Option.bind_eq_some_iff.1 adjusted
    obtain ⟨options, split, areOptions⟩ := (scanLoop_words false).1 ended
    exact ⟨List.cons_ne_nil _ _, options, left, split, ended, areOptions, isCommand⟩
  · cases found

theorem afterTranscript_words (sawTranscript : Bool)
    (found : afterTranscript sawTranscript words = some command) : ∃ own,
      words = own ++ command ∧
        (own.filter (trim · ≠ "")).length = if sawTranscript then 0 else 1 := by
  induction words generalizing sawTranscript with
  | nil => cases found
  | cons word words inductionHypothesis =>
    rw [afterTranscript] at found
    split at found
    · next isBlank =>
      obtain ⟨own, rfl, counted⟩ := inductionHypothesis sawTranscript found
      refine ⟨word :: own, rfl, ?_⟩
      rw [List.filter_cons_of_neg (by simpa using isBlank)]
      exact counted
    · next filled =>
      cases sawTranscript with
      | false =>
        rw [if_pos (by decide)] at found
        obtain ⟨own, rfl, counted⟩ := inductionHypothesis true found
        refine ⟨word :: own, rfl, ?_⟩
        rw [List.filter_cons_of_pos (by simpa using filled), List.length_cons, counted]
        rfl
      | true =>
        rw [if_neg (by decide)] at found
        obtain rfl := Option.some.inj found
        exact ⟨[], rfl, rfl⟩

theorem afterDuration_words
    (found : afterDuration words = some command) : ∃ duration, words = duration :: command := by
  rw [afterDuration.eq_def] at found
  split at found
  · next duration first rest => exact ⟨duration, congrArg _ (Option.some.inj found)⟩
  · cases found

/-- The words a wrapper keeps for itself behind its options. -/
theorem own_words (known : (wrapper, scan) ∈ transparentScans platform) {left command : List String}
    (adjusted : scan.adjustCommandIndex left = some command) :
    ∃ own, left = own ++ command ∧ OwnWords wrapper own := by
  have plain : wrapper ≠ "timeout" → wrapper ≠ "script" → scan.adjustCommandIndex = some →
      ∃ own, left = own ++ command ∧ OwnWords wrapper own := by
    intro notTimeout notScript same
    rw [same] at adjusted
    exact ⟨[], Option.some.inj adjusted, OwnWords.nothing notTimeout notScript⟩
  rw [transparentScans, List.mem_append, List.mem_append] at known
  rcases known with (known | known) | known
  · simp only [List.mem_cons, List.not_mem_nil, or_false, Prod.mk.injEq] at known
    rcases known with ⟨rfl, rfl⟩ | ⟨rfl, rfl⟩ | ⟨rfl, rfl⟩ | ⟨rfl, rfl⟩ | ⟨rfl, rfl⟩ | ⟨rfl, rfl⟩ |
      ⟨rfl, rfl⟩
    iterate 6 exact plain (by decide) (by decide) rfl
    obtain ⟨duration, rfl⟩ := afterDuration_words adjusted
    exact ⟨[duration], rfl, .duration duration⟩
  · split at known
    · obtain ⟨rfl, rfl⟩ := Prod.mk.inj (List.mem_singleton.1 known)
      obtain ⟨own, rfl, counted⟩ := afterTranscript_words false adjusted
      exact ⟨own, rfl, .transcript counted⟩
    · cases known
  · split at known
    · simp only [List.mem_cons, List.not_mem_nil, or_false, Prod.mk.injEq] at known
      rcases known with ⟨rfl, rfl⟩ | ⟨rfl, rfl⟩
      iterate 2 exact plain (by decide) (by decide) rfl
    · cases known

/-- What the table unwraps it scans, `env` with its own scan, the others with theirs. -/
theorem unwrap_scans {spec : DispatchWrapperSpec} (known : spec ∈ dispatchWrapperSpecs)
    {unwrap : Platform → List String → Option (List String)} (unwraps : spec.unwrap = some unwrap)
    (found : unwrap platform argv = some command) :
    (spec.name = "env" ∧ scanWrapperInvocation argv envScan = some command) ∨
      ∃ scan, (spec.name, scan) ∈ transparentScans platform ∧
        scanWrapperInvocation argv scan = some command := by
  simp only [dispatchWrapperSpecs, List.mem_cons, List.not_mem_nil, or_false] at known
  have supports : ∀ {supported : Bool} {result : Option (List String)},
      (if supported then result else none) = some command →
        supported = true ∧ result = some command := by
    intro supported result found
    split at found
    · next yes => exact ⟨yes, found⟩
    · cases found
  rcases known with rfl | rfl | rfl | rfl | rfl | rfl | rfl | rfl | rfl | rfl | rfl | rfl | rfl |
    rfl | rfl | rfl | rfl
  all_goals cases unwraps
  -- what is left are `arch`, `caffeinate`, `env`, `nice`, `nohup`, `sandbox-exec`, `script`,
  -- `stdbuf`, `time`, `timeout` and `xcrun`
  · obtain ⟨onDarwin, found⟩ := supports found
    exact .inr ⟨archScan, by simp [transparentScans, of_decide_eq_true onDarwin], found⟩
  · exact .inr ⟨caffeinateScan, by simp [transparentScans], found⟩
  · exact .inl ⟨rfl, found⟩
  · exact .inr ⟨niceScan, by simp [transparentScans], found⟩
  · exact .inr ⟨nohupScan, by simp [transparentScans], found⟩
  · exact .inr ⟨sandboxExecScan, by simp [transparentScans], found⟩
  · rw [unwrapScriptInvocation] at found
    split at found
    · cases found
    · next supported =>
      rw [Bool.not_eq_true', Bool.not_eq_false] at supported
      exact .inr ⟨scriptScan, by simp [transparentScans, supported], found⟩
  · exact .inr ⟨stdbufScan, by simp [transparentScans], found⟩
  · exact .inr ⟨timeScan, by simp [transparentScans], found⟩
  · exact .inr ⟨timeoutScan, by simp [transparentScans], found⟩
  · obtain ⟨onDarwin, found⟩ := supports found
    exact .inr ⟨xcrunScan, by simp [transparentScans, of_decide_eq_true onDarwin], found⟩

/-! ### One wrapper -/

theorem firstToken_eq_some_iff {token : String} :
    firstToken argv = some token ↔
      ∃ word rest, argv = word :: rest ∧ trim word = token ∧ token ≠ "" := by
  rw [firstToken, nonEmpty_eq_some_iff]
  cases argv with
  | nil => exact iff_of_false nofun nofun
  | cons word rest =>
    rw [List.head?_cons, Option.map_some, Option.some.injEq]
    constructor
    · rintro ⟨same, filled⟩
      exact ⟨word, rest, rfl, same, filled⟩
    · rintro ⟨other, others, split, same, filled⟩
      obtain ⟨rfl, rfl⟩ := List.cons.inj split
      exact ⟨same, filled⟩

theorem dispatchWrapperSpec_eq_some {spec : DispatchWrapperSpec}
    (known : dispatchWrapperSpec wrapper = some spec) :
    spec ∈ dispatchWrapperSpecs ∧ spec.name = wrapper := by
  rw [dispatchWrapperSpec] at known
  exact ⟨List.mem_of_find?_eq_some known, of_decide_eq_true (List.find?_some known :)⟩

/-- A dispatch wrapper that is unwrapped has been scanned, the first word being its name. -/
theorem dispatch_unwrapped (unwrapped : unwrapKnownDispatchWrapperInvocation platform argv =
      .unwrapped wrapper command) :
    ∃ name rest, argv = name :: rest ∧ normalizeExecutableToken (trim name) = wrapper ∧
      ((wrapper = "env" ∧ scanWrapperInvocation argv envScan = some command) ∨
        ∃ scan, (wrapper, scan) ∈ transparentScans platform ∧
          scanWrapperInvocation argv scan = some command) := by
  rw [unwrapKnownDispatchWrapperInvocation] at unwrapped
  split at unwrapped
  · cases unwrapped
  next token0 isFirst =>
    obtain ⟨name, rest, rfl, rfl, -⟩ := firstToken_eq_some_iff.1 isFirst
    dsimp only at unwrapped
    split at unwrapped
    · cases unwrapped
    next spec known =>
      split at unwrapped
      next unwrap unwraps =>
        rw [unwrapDispatchWrapper.eq_def] at unwrapped
        split at unwrapped
        next command' found =>
          obtain ⟨same, rfl⟩ := WrapperUnwrapResult.unwrapped.inj unwrapped
          obtain ⟨inTable, isName⟩ := dispatchWrapperSpec_eq_some known
          refine ⟨name, rest, rfl, same, ?_⟩
          rw [← same, ← isName]
          exact unwrap_scans inTable unwraps found
        · cases unwrapped
      · cases unwrapped

/-- A shell multiplexer that is unwrapped leaves a shell, behind a separator at most. -/
theorem multiplexer_unwrapped
    (unwrapped : unwrapKnownShellMultiplexerInvocation argv = .unwrapped wrapper command) :
    ∃ name front, argv = name :: (front ++ command) ∧
      normalizeExecutableToken (trim name) = wrapper ∧ wrapper ∈ shellMultiplexerWrapperNames ∧
        (front = [] ∨ front.map trim = ["--"]) ∧
          (firstToken command).any isShellWrapperExecutable = true := by
  rw [unwrapKnownShellMultiplexerInvocation] at unwrapped
  split at unwrapped
  · cases unwrapped
  next token0 isFirst =>
    obtain ⟨name, rest, rfl, rfl, -⟩ := firstToken_eq_some_iff.1 isFirst
    dsimp only at unwrapped
    split at unwrapped
    · cases unwrapped
    next known =>
      rw [Bool.not_eq_true', Bool.not_eq_false] at known
      have isKnown := of_decide_eq_true known
      split at unwrapped
      · cases unwrapped
      next applet isApplet =>
        split at unwrapped
        · cases unwrapped
        next shell =>
          obtain ⟨rfl, same⟩ := WrapperUnwrapResult.unwrapped.inj unwrapped
          rw [Bool.not_eq_true', Bool.not_eq_false] at shell
          rw [same] at isApplet
          have isShell : (firstToken command).any isShellWrapperExecutable = true := by
            rw [isApplet, Option.any_some]
            exact shell
          rw [List.tail_cons] at same
          split at same
          next separated =>
            obtain ⟨first, isHead, isSeparator⟩ := Option.map_eq_some_iff.1 separated
            obtain ⟨others, rfl⟩ := List.head?_eq_some_iff.1 isHead
            rw [List.tail_cons] at same
            subst same
            exact ⟨name, [first], rfl, rfl, isKnown, .inr (congrArg (List.cons · []) isSeparator),
              isShell⟩
          next =>
            subst same
            exact ⟨name, [], rfl, rfl, isKnown, .inl rfl, isShell⟩

/-! ### Transparent uses -/

/-- An option that has its value is a modifier. -/
theorem usesModifiersLoop_of_value {memory : Bool}
    (ended : scanLoop scan memory true words = some command) :
    usesModifiersLoop true words = true := by
  induction words with
  | nil => cases ended
  | cons word words inductionHypothesis =>
    rw [scanLoop] at ended
    rw [usesModifiersLoop]
    split at ended
    next isBlank =>
      rw [if_pos isBlank]
      exact inductionHypothesis ended
    next filled => rw [if_neg filled, if_pos rfl]

/-- The words in front of the command of an `env` that modifies nothing, as the scans see it. -/
theorem env_front (ended : scanLoop envScan false false words = some command)
    (unmodified : usesModifiersLoop false words = false) :
    ∃ front, words = front ++ command ∧
      ∀ word ∈ front, trim word = "" ∨ trim word = "--" ∨ trim word = "-" := by
  induction words with
  | nil =>
    obtain rfl := Option.some.inj ended
    exact ⟨[], rfl, fun _ member => absurd member List.not_mem_nil⟩
  | cons word words inductionHypothesis =>
    rw [scanLoop] at ended
    rw [usesModifiersLoop] at unmodified
    by_cases isBlank : trim word = ""
    · rw [if_pos isBlank] at ended unmodified
      obtain ⟨front, rfl, plain⟩ := inductionHypothesis ended unmodified
      exact ⟨word :: front, rfl, List.forall_mem_cons.2 ⟨.inl isBlank, plain⟩⟩
    rw [if_neg isBlank, if_neg Bool.false_ne_true] at ended unmodified
    split at ended
    next isSeparator =>
      obtain rfl := Option.some.inj ended
      have dashes : trim word = "--" ∨ trim word = "-" := by
        simpa [envScan] using isSeparator
      exact ⟨[word], rfl, List.forall_mem_singleton.2 (.inr dashes)⟩
    next notSeparator =>
      have notDashes : (decide (trim word = "--") || decide (trim word = "-")) = false := by
        simpa [envScan] using notSeparator
      rw [if_neg (by rw [notDashes]; decide)] at unmodified
      split at unmodified
      · cases unmodified
      next notAssignment =>
      split at unmodified
      next stops =>
        have stop : envScan.onToken false (trim word)
            (normalizeLowercaseStringOrEmpty (some (trim word))) = (false, .stop) := by
          simp only [envScan, onEach, if_neg notAssignment, if_pos stops]
        rw [stop] at ended
        obtain rfl := Option.some.inj ended
        exact ⟨[], rfl, fun _ member => absurd member List.not_mem_nil⟩
      next isOption =>
      dsimp only at unmodified
      split at unmodified
      · cases unmodified
      next notFlag =>
      split at unmodified
      next takesValue =>
        split at unmodified
        · cases unmodified
        next bare =>
          have consumes : envScan.onToken false (trim word)
              (normalizeLowercaseStringOrEmpty (some (trim word))) = (false, .consumeNext) := by
            simp only [envScan, onEach, if_neg notAssignment, if_neg isOption, if_neg notFlag,
              if_pos takesValue, if_neg bare]
          rw [consumes] at ended
          rw [usesModifiersLoop_of_value ended] at unmodified
          cases unmodified
      · cases unmodified

/-- An `env` that the table calls transparent is transparent exactly when it ends its options. -/
theorem env_isTransparent_iff {name : String} {rest command : List String}
    (isEnv : normalizeExecutableToken (trim name) = "env")
    (found : scanWrapperInvocation (name :: rest) envScan = some command)
    (unmodified : envInvocationUsesModifiers (name :: rest) = false) :
    Removal.IsTransparent platform ⟨name :: rest, command⟩ ↔
      Removal.EndsOptions ⟨name :: rest, command⟩ := by
  obtain ⟨-, options, left, -, ended, -, isCommand⟩ := scanWrapperInvocation_words found
  obtain rfl : left = command := Option.some.inj isCommand
  obtain ⟨front, split, plain⟩ := env_front ended unmodified
  rw [List.tail_cons] at split
  subst split
  have only : ∀ other others, name :: (front ++ left) = other :: (others ++ left) →
      other = name ∧ others = front := by
    intro other others same
    obtain ⟨sameName, sameRest⟩ := List.cons.inj same
    exact ⟨sameName.symm, (List.append_cancel_right sameRest).symm⟩
  constructor
  · rintro ⟨other, others, same, transparent⟩
    obtain ⟨rfl, rfl⟩ := only _ _ same
    intro again more same _
    obtain ⟨rfl, rfl⟩ := only _ _ same
    rw [isEnv] at transparent
    generalize isWrapper : "env" = wrapper at transparent
    cases transparent with
    | env plain first =>
      refine ⟨fun word member dash => ?_, first⟩
      rcases plain word member with blank | dashes
      · exact absurd (dash.symm.trans blank) (by decide)
      · exact absurd (dash.symm.trans dashes) (by decide)
    | options known =>
      subst isWrapper
      simp [transparentScans] at known
    | multiplexer known =>
      subst isWrapper
      exact absurd known (by decide)
  · intro ends
    obtain ⟨noDash, first⟩ := ends name front rfl isEnv
    refine ⟨name, front, rfl, ?_⟩
    rw [isEnv]
    refine .env (fun word member => ?_) first
    rcases plain word member with blank | dashes | dash
    · exact .inl blank
    · exact .inr dashes
    · exact absurd dash (noDash word member)

theorem unwrapOnce_of_dispatch {result : WrapperUnwrapResult}
    (unwrapped : unwrapKnownDispatchWrapperInvocation platform argv = result)
    (isWrapper : result ≠ .notWrapper) : unwrapOnce platform argv = result := by
  rw [unwrapOnce, unwrapped]
  cases result with
  | notWrapper => exact absurd rfl isWrapper
  | blocked wrapper => rfl
  | unwrapped wrapper command => rfl

theorem unwrapOnce_of_multiplexer
    (plain : unwrapKnownDispatchWrapperInvocation platform argv = .notWrapper) :
    unwrapOnce platform argv = unwrapKnownShellMultiplexerInvocation argv := by
  rw [unwrapOnce, plain]

theorem unwrapOnce_cases {result : WrapperUnwrapResult}
    (unwrapped : unwrapOnce platform argv = result) :
    unwrapKnownDispatchWrapperInvocation platform argv = result ∨
      unwrapKnownDispatchWrapperInvocation platform argv = .notWrapper ∧
        unwrapKnownShellMultiplexerInvocation argv = result := by
  cases dispatched : unwrapKnownDispatchWrapperInvocation platform argv with
  | notWrapper => exact .inr ⟨rfl, (unwrapOnce_of_multiplexer dispatched).symm.trans unwrapped⟩
  | blocked wrapper => exact .inl ((unwrapOnce_of_dispatch dispatched nofun).symm.trans unwrapped)
  | unwrapped wrapper command =>
    exact .inl ((unwrapOnce_of_dispatch dispatched nofun).symm.trans unwrapped)

/-- The own words of a wrapper are not the command, and there is a command. -/
theorem scanned_suffix {name : String} {rest command : List String}
    (found : scanWrapperInvocation (name :: rest) scan = some command)
    (suffix : ∀ {left}, scan.adjustCommandIndex left = some command → command <:+ left) :
    command <:+ rest ∧ command ≠ [] := by
  obtain ⟨filled, options, left, split, -, -, adjusted⟩ := scanWrapperInvocation_words found
  rw [List.tail_cons] at split
  exact ⟨(suffix adjusted).trans (split ▸ List.suffix_append options left), filled⟩

theorem unwrapOnce_suffix
    (unwrapped : unwrapOnce platform argv = .unwrapped wrapper command) : command <:+ argv := by
  rcases unwrapOnce_cases unwrapped with dispatched | ⟨-, multiplexed⟩
  · obtain ⟨name, rest, rfl, -, scanned⟩ := dispatch_unwrapped dispatched
    rcases scanned with ⟨-, found⟩ | ⟨scan, known, found⟩
    · have suffix := (scanned_suffix found fun {left} (same : some left = some command) =>
        Option.some.inj same ▸ List.suffix_refl _).1
      exact suffix.trans (List.suffix_cons name rest)
    · have suffix := (scanned_suffix found fun adjusted => by
        obtain ⟨own, rfl, -⟩ := own_words known adjusted
        exact List.suffix_append own command).1
      exact suffix.trans (List.suffix_cons name rest)
  · obtain ⟨name, front, rfl, -⟩ := multiplexer_unwrapped multiplexed
    exact (List.suffix_append front command).trans (List.suffix_cons name _)

theorem dispatch_filled (unwrapped : unwrapKnownDispatchWrapperInvocation platform argv =
      .unwrapped wrapper command) : command.length ≠ 0 := by
  obtain ⟨name, rest, rfl, -, scanned⟩ := dispatch_unwrapped unwrapped
  rcases scanned with ⟨-, found⟩ | ⟨scan, -, found⟩
  · exact fun empty => (scanWrapperInvocation_words found).1 (List.length_eq_zero_iff.1 empty)
  · exact fun empty => (scanWrapperInvocation_words found).1 (List.length_eq_zero_iff.1 empty)

theorem semantic_env (platform : Platform) (argv : List String) :
    isSemanticDispatchWrapperUsage platform "env" argv = envInvocationUsesModifiers argv := by
  simp [isSemanticDispatchWrapperUsage, dispatchWrapperSpec, dispatchWrapperSpecs]

/-- A use the table calls transparent is, unless it is an `env` that does not end its options. -/
theorem removal_isTransparent_iff
    (unwrapped : unwrapOnce platform argv = .unwrapped wrapper command)
    (transparent : isTransparentUsage platform argv = true) :
    Removal.IsTransparent platform ⟨argv, command⟩ ↔ Removal.EndsOptions ⟨argv, command⟩ := by
  have notEnv : ∀ {name : String} {rest : List String}, argv = name :: rest →
      normalizeExecutableToken (trim name) ≠ "env" → Removal.EndsOptions ⟨argv, command⟩ := by
    rintro name rest rfl other first front same isEnv
    obtain ⟨rfl, -⟩ := List.cons.inj same
    exact absurd isEnv other
  rcases unwrapOnce_cases unwrapped with dispatched | ⟨-, multiplexed⟩
  · obtain ⟨name, rest, rfl, rfl, scanned⟩ := dispatch_unwrapped dispatched
    rcases scanned with ⟨isEnv, found⟩ | ⟨scan, known, found⟩
    · rw [isTransparentUsage, dispatched] at transparent
      dsimp only at transparent
      rw [isEnv, semantic_env, Bool.not_eq_true'] at transparent
      exact env_isTransparent_iff isEnv found transparent
    · obtain ⟨-, options, left, split, -, areOptions, adjusted⟩ := scanWrapperInvocation_words found
      obtain ⟨own, rfl, areOwn⟩ := own_words known adjusted
      rw [List.tail_cons] at split
      subst split
      refine iff_of_true ⟨name, options ++ own, ?_, ?_⟩ (notEnv rfl fun isEnv => ?_)
      · rw [List.append_assoc]
      · exact Transparent.options known areOptions areOwn
      · rw [isEnv] at known
        simp [transparentScans] at known
  · obtain ⟨name, front, rfl, rfl, known, plain, shell⟩ := multiplexer_unwrapped multiplexed
    refine iff_of_true ⟨name, front, rfl, .multiplexer known plain shell⟩
      (notEnv rfl fun isEnv => ?_)
    rw [isEnv] at known
    exact absurd known (by decide)

theorem Unwraps.first {argv last : List String}
    (unwraps : Unwraps platform argv removed last) (apart : last ≠ argv) :
    ∃ wrapper command rest, unwrapOnce platform argv = .unwrapped wrapper command ∧
      removed = ⟨argv, command⟩ :: rest := by
  cases unwraps with
  | done => exact absurd rfl apart
  | wrapper unwrapped rest => exact ⟨_, _, _, unwrapped, rfl⟩

theorem Unwraps.isTransparent_iff {argv last : List String}
    (unwraps : Unwraps platform argv removed last)
    (transparent : ∀ removal ∈ removed, isTransparentUsage platform removal.invocation = true) :
    (∀ removal ∈ removed, removal.IsTransparent platform) ↔
      ∀ removal ∈ removed, removal.EndsOptions := by
  induction unwraps with
  | done argv => exact iff_of_true nofun nofun
  | wrapper unwrapped _ inductionHypothesis =>
    obtain ⟨first, rest⟩ := List.forall_mem_cons.1 transparent
    rw [List.forall_mem_cons, List.forall_mem_cons, inductionHypothesis rest,
      removal_isTransparent_iff unwrapped first]

/-- What is no wrapper does not start with one. -/
theorem firstToken_of_notWrapper
    (plain : unwrapOnce platform argv = .notWrapper) : ∀ word ∈ firstToken argv,
      isDispatchWrapperExecutable word = false ∧ isShellMultiplexerExecutable word = false := by
  intro word isFirst
  have isFirst : firstToken argv = some word := isFirst
  obtain ⟨notDispatch, notMultiplexer⟩ :
      unwrapKnownDispatchWrapperInvocation platform argv = .notWrapper ∧
        unwrapKnownShellMultiplexerInvocation argv = .notWrapper := by
    rcases unwrapOnce_cases plain with dispatched | both
    · exact ⟨dispatched, (unwrapOnce_of_multiplexer dispatched).symm.trans plain⟩
    · exact both
  constructor
  · rw [unwrapKnownDispatchWrapperInvocation, isFirst] at notDispatch
    dsimp only at notDispatch
    rw [isDispatchWrapperExecutable]
    cases known : dispatchWrapperSpec (normalizeExecutableToken word) with
    | none => rfl
    | some spec =>
      rw [known] at notDispatch
      dsimp only at notDispatch
      split at notDispatch
      · rw [unwrapDispatchWrapper.eq_def] at notDispatch
        split at notDispatch
        · cases notDispatch
        · cases notDispatch
      · cases notDispatch
  · rw [unwrapKnownShellMultiplexerInvocation, isFirst] at notMultiplexer
    dsimp only at notMultiplexer
    cases known : isShellMultiplexerExecutable word with
    | false => rfl
    | true =>
      rw [known, if_neg (by decide)] at notMultiplexer
      split at notMultiplexer
      · cases notMultiplexer
      · split at notMultiplexer
        · cases notMultiplexer
        · cases notMultiplexer

/-! ### The two loops -/

/-- The loop over dispatch wrappers goes as the walk goes, a turn for each wrapper. -/
theorem dispatchLoop_walks (platform : Platform) (turns : ℕ) (current wrappers : List String) :
    (∀ plan, dispatchLoop platform turns current wrappers = .error plan →
      plan.policyBlocked = true ∧ plan.argv <:+ current ∧ peel platform turns current = none) ∧
    ∀ last all, dispatchLoop platform turns current wrappers = .ok (last, all) →
      ∃ taken, all.length = wrappers.length + taken ∧ taken ≤ turns ∧ last <:+ current ∧
        peel platform turns current = peel platform (turns - taken) last ∧
          (taken < turns → unwrapKnownDispatchWrapperInvocation platform last = .notWrapper) ∧
            (taken = 0 → last = current) := by
  induction turns generalizing current wrappers with
  | zero =>
    refine ⟨nofun, fun last all ended => ?_⟩
    obtain ⟨rfl, rfl⟩ := Prod.mk.inj (Except.ok.inj ended)
    exact ⟨0, rfl, le_rfl, List.suffix_refl _, rfl, fun less => absurd less (lt_irrefl 0),
      fun _ => rfl⟩
  | succ turns inductionHypothesis =>
    rw [dispatchLoop]
    cases unwrapped : unwrapKnownDispatchWrapperInvocation platform current with
    | blocked wrapper =>
      refine ⟨fun plan failed => ?_, nofun⟩
      obtain rfl := Except.error.inj failed
      exact ⟨rfl, List.suffix_refl _,
        peel_of_blocked (unwrapOnce_of_dispatch unwrapped nofun) _⟩
    | notWrapper =>
      refine ⟨nofun, fun last all ended => ?_⟩
      obtain ⟨rfl, rfl⟩ := Prod.mk.inj (Except.ok.inj ended)
      exact ⟨0, rfl, Nat.zero_le _, List.suffix_refl _, rfl, fun _ => unwrapped, fun _ => rfl⟩
    | unwrapped wrapper command =>
      have once := unwrapOnce_of_dispatch unwrapped nofun
      have usage : isTransparentUsage platform current =
          !isSemanticDispatchWrapperUsage platform wrapper current := by
        rw [isTransparentUsage, unwrapped]
      dsimp only
      rw [if_neg (dispatch_filled unwrapped)]
      cases semantic : isSemanticDispatchWrapperUsage platform wrapper current with
      | true =>
        rw [if_pos rfl]
        refine ⟨fun plan failed => ?_, nofun⟩
        obtain rfl := Except.error.inj failed
        exact ⟨rfl, List.suffix_refl _,
          peel_of_changing once (by rw [usage, semantic]; rfl) _⟩
      | false =>
        rw [if_neg Bool.false_ne_true]
        obtain ⟨fails, ends⟩ := inductionHypothesis command (wrappers ++ [wrapper])
        have step : peel platform (turns + 1) current = peel platform turns command :=
          peel_succ_of_unwrapped once (by rw [usage, semantic]; rfl) turns
        have suffix := unwrapOnce_suffix once
        refine ⟨fun plan failed => ?_, fun last all ended => ?_⟩
        · obtain ⟨blocked, isSuffix, none⟩ := fails plan failed
          exact ⟨blocked, isSuffix.trans suffix, step.trans none⟩
        · obtain ⟨taken, counted, few, isSuffix, walked, plain, -⟩ := ends last all ended
          refine ⟨taken + 1, ?_, Nat.succ_le_succ few, isSuffix.trans suffix, ?_,
            fun less => plain (Nat.lt_of_succ_lt_succ less), nofun⟩
          · rw [counted, List.length_append, List.length_singleton, Nat.add_assoc,
              Nat.add_comm 1]
          · rw [step, walked, Nat.add_sub_add_right]

/-- What the plan for the dispatch wrappers says of the walk. -/
theorem dispatchPlan_walks (platform : Platform) (argv : List String) (maxDepth : ℕ)
    {plan : DispatchWrapperTrustPlan}
    (resolved : resolveDispatchWrapperTrustPlan platform argv maxDepth = plan) :
    plan.argv <:+ argv ∧
      (plan.policyBlocked = true → peel platform maxDepth argv = none) ∧
      (plan.policyBlocked = false → plan.wrappers.length ≤ maxDepth ∧
        peel platform maxDepth argv =
          peel platform (maxDepth - plan.wrappers.length) plan.argv ∧
        unwrapKnownDispatchWrapperInvocation platform plan.argv = .notWrapper ∧
        (plan.wrappers.length = 0 → plan.argv = argv)) := by
  obtain ⟨fails, ends⟩ := dispatchLoop_walks platform maxDepth argv []
  rw [resolveDispatchWrapperTrustPlan] at resolved
  cases looped : dispatchLoop platform maxDepth argv [] with
  | error failure =>
    rw [looped] at resolved
    obtain rfl : failure = plan := resolved
    obtain ⟨blocked, suffix, none⟩ := fails failure looped
    exact ⟨suffix, fun _ => none, fun plain => absurd (blocked.symm.trans plain) (by decide)⟩
  | ok state =>
    obtain ⟨last, all⟩ := state
    rw [looped] at resolved
    dsimp only at resolved
    obtain ⟨taken, counted, few, suffix, walked, plain, same⟩ := ends last all looped
    rw [List.length_nil, Nat.zero_add] at counted
    subst counted
    split at resolved
    next spent =>
      have allTaken : maxDepth - all.length = 0 := Nat.sub_eq_zero_of_le spent
      rw [allTaken] at walked
      split at resolved
      next wrapper blocked =>
        subst resolved
        exact ⟨suffix, fun _ => walked.trans
          (peel_of_blocked (unwrapOnce_of_dispatch blocked nofun) 0), nofun⟩
      next wrapper command unwrapped =>
        subst resolved
        exact ⟨suffix, fun _ => walked.trans
          (peel_zero_of_unwrapped (unwrapOnce_of_dispatch unwrapped nofun)), nofun⟩
      next notWrapper =>
        subst resolved
        refine ⟨suffix, nofun, fun _ => ⟨few, ?_, notWrapper, same⟩⟩
        rw [allTaken]
        exact walked
    next left =>
      subst resolved
      exact ⟨suffix, nofun, fun _ => ⟨few, walked, plain (by omega), same⟩⟩

/-- What is left of the walk from a state of the outer loop. -/
def TrustState.walk (platform : Platform) (maxDepth : ℕ) (state : TrustState) :
    Option (List String) :=
  peel platform (maxDepth - state.wrapperChain.length) state.current

/-- An end of the outer loop on some words: a plan that blocks where the walk fails, or a state to
which the walk goes on, at no wrapper unless the depth is spent. -/
def Follows (platform : Platform) (maxDepth : ℕ) (argv : List String)
    (walk : Option (List String)) : Except ExecWrapperTrustPlan TrustState → Prop
  | .error plan => plan.policyBlocked = true ∧ plan.argv <:+ argv ∧ plan.policyArgv <:+ argv ∧
      walk = none
  | .ok last => last.wrapperChain.length ≤ maxDepth ∧ last.current <:+ argv ∧
      last.policyArgv <:+ argv ∧ walk = last.walk platform maxDepth ∧
        (last.wrapperChain.length < maxDepth → unwrapOnce platform last.current = .notWrapper)

theorem multiplexer_isTransparentUsage
    (plain : unwrapKnownDispatchWrapperInvocation platform argv = .notWrapper) :
    isTransparentUsage platform argv = true := by
  rw [isTransparentUsage, plain]

/-- The loop over all wrappers goes as the walk goes, with the depth its chain leaves. -/
theorem trustLoop_follows {platform : Platform} {maxDepth : ℕ} {argv : List String} (turns : ℕ)
    {state : TrustState} (within : state.wrapperChain.length ≤ maxDepth)
    (enough : maxDepth - state.wrapperChain.length ≤ turns)
    (unspent : turns ≠ 0 → state.wrapperChain.length < maxDepth)
    (current : state.current <:+ argv) (policy : state.policyArgv <:+ argv) :
    Follows platform maxDepth argv (state.walk platform maxDepth)
      (trustLoop platform maxDepth turns state) := by
  induction turns generalizing state with
  | zero => exact ⟨within, current, policy, rfl, fun less => by omega⟩
  | succ turns inductionHypothesis =>
    -- where a wrapper has been taken off, the loop goes on unless the depth is spent
    have goesOn : ∀ next : TrustState, next.wrapperChain.length ≤ maxDepth →
        maxDepth - next.wrapperChain.length ≤ turns → next.current <:+ argv →
        next.policyArgv <:+ argv →
        state.walk platform maxDepth = next.walk platform maxDepth →
        Follows platform maxDepth argv (state.walk platform maxDepth)
          (if next.wrapperChain.length ≥ maxDepth then .ok next
            else trustLoop platform maxDepth turns next) := by
      intro next nextWithin nextEnough nextCurrent nextPolicy walked
      split
      next spent =>
        exact ⟨nextWithin, nextCurrent, nextPolicy, walked, fun less => by omega⟩
      next unspent =>
        rw [walked]
        exact inductionHypothesis nextWithin nextEnough (fun _ => not_le.1 unspent) nextCurrent
          nextPolicy
    have room := unspent (Nat.succ_ne_zero turns)
    rw [trustLoop]
    obtain ⟨suffix, blocks, passes⟩ := dispatchPlan_walks platform state.current
      (maxDepth - state.wrapperChain.length) rfl
    dsimp only
    generalize resolveDispatchWrapperTrustPlan platform state.current
      (maxDepth - state.wrapperChain.length) = dispatchPlan at suffix blocks passes ⊢
    split
    next blocked =>
      exact ⟨rfl, suffix.trans current, suffix.trans current, blocks blocked⟩
    next passed =>
      rw [Bool.not_eq_true] at passed
      obtain ⟨few, walked, plain, same⟩ := passes passed
      split
      next some =>
        refine goesOn ⟨dispatchPlan.argv,
          if !state.sawShellMultiplexer then dispatchPlan.argv else state.policyArgv,
          state.sawShellMultiplexer, state.wrapperChain ++ dispatchPlan.wrappers⟩ ?_ ?_
          (suffix.trans current) ?_ ?_
        · rw [List.length_append]
          omega
        · rw [List.length_append]
          omega
        · dsimp only
          split
          · exact suffix.trans current
          · exact policy
        · rw [TrustState.walk, walked, TrustState.walk, List.length_append, Nat.sub_sub]
      next none =>
        rw [same (by omega)] at plain
        have once := unwrapOnce_of_multiplexer plain
        split
        next wrapper blocked =>
          exact ⟨rfl, current, policy, peel_of_blocked (once.trans blocked) _⟩
        next wrapper command unwrapped =>
          have isUnwrapped := once.trans unwrapped
          refine goesOn ⟨command,
            if !state.sawShellMultiplexer then state.current else state.policyArgv, true,
            state.wrapperChain ++ [wrapper]⟩ ?_ ?_ ((unwrapOnce_suffix isUnwrapped).trans current)
            ?_ ?_
          · rw [List.length_append, List.length_singleton]
            omega
          · rw [List.length_append, List.length_singleton]
            omega
          · dsimp only
            split
            · exact current
            · exact policy
          · obtain ⟨less, isLess⟩ := Nat.exists_eq_add_of_lt room
            have left : maxDepth - state.wrapperChain.length = less + 1 := by omega
            have leftNext : maxDepth - (state.wrapperChain.length + 1) = less := by omega
            rw [TrustState.walk, TrustState.walk, List.length_append, List.length_singleton, left,
              leftNext]
            exact peel_succ_of_unwrapped isUnwrapped (multiplexer_isTransparentUsage plain) less
        next notWrapper =>
          exact ⟨within, current, policy, rfl, fun _ => once.trans notWrapper⟩

/-- The plan is blocked where the walk fails, and else has the command the walk ends at. -/
theorem resolveExecWrapperTrustPlan_walks (platform : Platform) (argv : List String)
    (maxDepth : ℕ) {plan : ExecWrapperTrustPlan}
    (resolved : resolveExecWrapperTrustPlan platform argv maxDepth = plan) :
    plan.argv <:+ argv ∧ plan.policyArgv <:+ argv ∧
      peel platform maxDepth argv = if plan.policyBlocked then none else some plan.argv := by
  have follows := @trustLoop_follows platform maxDepth argv maxDepth ⟨argv, argv, false, []⟩
    (Nat.zero_le _) (Nat.sub_le _ _) (Nat.pos_of_ne_zero) (List.suffix_refl _) (List.suffix_refl _)
  rw [resolveExecWrapperTrustPlan] at resolved
  cases looped : trustLoop platform maxDepth maxDepth ⟨argv, argv, false, []⟩ with
  | error failure =>
    rw [looped] at resolved follows
    obtain rfl : failure = plan := resolved
    obtain ⟨blocked, suffix, policy, none⟩ := follows
    rw [blocked]
    exact ⟨suffix, policy, none⟩
  | ok last =>
    rw [looped] at resolved follows
    obtain ⟨within, suffix, policy, walked, plain⟩ := follows
    dsimp only at resolved
    have blocks : ∀ wrapper, last.walk platform maxDepth = none →
        blockedExecWrapperTrustPlan last.current last.policyArgv last.wrapperChain wrapper =
          plan → plan.argv <:+ argv ∧ plan.policyArgv <:+ argv ∧
            peel platform maxDepth argv =
              if plan.policyBlocked then none else some plan.argv := by
      rintro wrapper none rfl
      exact ⟨suffix, policy, walked.trans none⟩
    have passes : unwrapOnce platform last.current = .notWrapper →
        finalizeExecWrapperTrustPlan platform last.current last.policyArgv last.wrapperChain
          false = plan → plan.argv <:+ argv ∧ plan.policyArgv <:+ argv ∧
            peel platform maxDepth argv =
              if plan.policyBlocked then none else some plan.argv := by
      rintro notWrapper rfl
      exact ⟨suffix, policy, walked.trans (peel_of_notWrapper notWrapper _)⟩
    split at resolved
    next spent =>
      have spentWalk : last.walk platform maxDepth = peel platform 0 last.current := by
        rw [TrustState.walk, Nat.sub_eq_zero_of_le spent]
      split at resolved
      next wrapper blocked =>
        exact blocks wrapper
          (spentWalk.trans (peel_of_blocked (unwrapOnce_of_dispatch blocked nofun) 0)) resolved
      next wrapper command unwrapped =>
        exact blocks wrapper
          (spentWalk.trans (peel_zero_of_unwrapped (unwrapOnce_of_dispatch unwrapped nofun)))
          resolved
      next notDispatch =>
        have once := unwrapOnce_of_multiplexer notDispatch
        split at resolved
        next wrapper blocked =>
          exact blocks wrapper (spentWalk.trans (peel_of_blocked (once.trans blocked) 0)) resolved
        next wrapper command unwrapped =>
          exact blocks wrapper
            (spentWalk.trans (peel_zero_of_unwrapped (once.trans unwrapped))) resolved
        next notMultiplexer => exact passes (once.trans notMultiplexer) resolved
    next left => exact passes (plain (not_le.1 left)) resolved

/-! ### When plans can be trusted -/

/-- A plan unwraps to what runs, and blocks what it cannot unwrap, exactly where the `env` it
takes off end their options as they should. -/
theorem resolveExecWrapperTrustPlan_trusted_iff (platform : Platform) (argv : List String)
    (maxDepth : ℕ) :
    Trusted platform maxDepth argv (resolveExecWrapperTrustPlan platform argv maxDepth) ↔
      EnvEndsOptions platform maxDepth argv := by
  obtain ⟨suffix, policy, walked⟩ := resolveExecWrapperTrustPlan_walks platform argv maxDepth rfl
  generalize resolveExecWrapperTrustPlan platform argv maxDepth = plan at suffix policy walked
  have passes : plan.policyBlocked = false → peel platform maxDepth argv = some plan.argv := by
    intro passed
    rw [walked, passed]
    rfl
  have blocks : peel platform maxDepth argv = none → plan.policyBlocked = true := by
    intro none
    by_contra passed
    rw [passes (Bool.eq_false_of_not_eq_true passed)] at none
    cases none
  constructor
  · intro trusted removed last unwraps plain few transparent
    have found := peel_eq_some_iff.2 ⟨plain, removed, unwraps, few, transparent⟩
    have passed : plan.policyBlocked = false := by
      by_contra blocked
      rw [walked, Bool.eq_true_of_not_eq_false blocked] at found
      cases found
    obtain rfl : plan.argv = last := Option.some.inj ((passes passed).symm.trans found)
    obtain ⟨others, again, areTransparent⟩ := trusted.transparent passed
    obtain rfl := again.unique plain unwraps plain
    exact (unwraps.isTransparent_iff transparent).1 areTransparent
  · intro ends
    refine ⟨suffix, policy, fun passed => ?_, fun passed => ?_, fun removed last unwraps deep => ?_,
      fun removed last wrapper unwraps blocked => ?_⟩
    · exact firstToken_of_notWrapper (peel_eq_some_iff.1 (passes passed)).1
    · obtain ⟨plain, removed, unwraps, few, transparent⟩ := peel_eq_some_iff.1 (passes passed)
      exact ⟨removed, unwraps, (unwraps.isTransparent_iff transparent).2
        (ends removed _ unwraps plain few transparent)⟩
    · exact blocks (unwraps.peel_eq_none_of_deep deep)
    · exact blocks (unwraps.peel_eq_none_of_blocked blocked)

/-- What runs is `sudo`, in an environment that starts empty; the plan says it is `FOO=bar`. -/
def hiddenSudo : List String := ["env", "-", "FOO=bar", "sudo", "id"]

theorem hiddenSudo_not_trusted : ¬ Trusted .other maxDispatchWrapperDepth hiddenSudo
    (resolveExecWrapperTrustPlan .other hiddenSudo) := by
  intro trusted
  have command : (resolveExecWrapperTrustPlan .other hiddenSudo).argv =
      ["FOO=bar", "sudo", "id"] := by decide +kernel
  obtain ⟨removed, unwraps, transparent⟩ := trusted.transparent (by decide +kernel)
  rw [command, hiddenSudo] at unwraps
  have once : unwrapOnce .other ["env", "-", "FOO=bar", "sudo", "id"] =
      .unwrapped "env" ["FOO=bar", "sudo", "id"] := by decide +kernel
  have plain : isTransparentUsage .other ["env", "-", "FOO=bar", "sudo", "id"] = true := by
    decide +kernel
  obtain ⟨wrapper, next, rest, unwrapped, rfl⟩ := unwraps.first (by decide)
  obtain ⟨-, rfl⟩ := WrapperUnwrapResult.unwrapped.inj (once.symm.trans unwrapped)
  have ends := (removal_isTransparent_iff once plain).1 (transparent _ List.mem_cons_self)
  have noDash := (ends "env" ["-"] rfl (by decide +kernel)).1 "-" List.mem_cons_self
  exact noDash (by decide)

end OpenClaw.Exec
