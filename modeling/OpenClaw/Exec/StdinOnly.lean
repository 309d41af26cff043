/-
This file says which arguments of a safe binary are stdin-only in the way that the binary itself
reads them.

The words that the validation takes for options, values and operands are the ones that a reader of
the arguments takes for them, with the options of the profile as its table. In a cluster of short
options, however, letters that the profile does not know are passed over in front of an option that
takes a value. So the arguments that are accepted are as they should be exactly when every cluster
starts with such an option.
-/

import OpenClaw.Base.Getopt
import OpenClaw.Exec.SafeBins

namespace OpenClaw.Exec

open Getopt

/-! ### The property -/

/-- A word that is neither a path nor a pattern of file names. -/
def IsHarmless (value : String) : Prop :=
  isPathLikeToken value = false ∧ hasGlobToken value = false

/-- The stdin marker and empty words name no input. -/
def isCounted (operand : String) : Bool := operand ≠ "" && operand ≠ "-"

namespace SafeBinProfile

variable (profile : SafeBinProfile) (deniedTakesValue : String → Bool)

/-- The options of a profile. Whether one that is denied takes a value is left open. -/
def table : Table where
  options := profile.allowedValueFlags ++ profile.deniedFlags
  takesValue option := option ∈ profile.allowedValueFlags || deniedTakesValue option

/-- The use of an option that is allowed and not denied, with a harmless value. -/
def Permits (use : Use) : Prop :=
  ∃ option value, use = .known option (some value) ∧ option ∈ profile.allowedValueFlags ∧
    option ∉ profile.deniedFlags ∧ IsHarmless value

/-- Every option that is used is allowed, and no word names a file. -/
structure StdinOnly (reading : Reading) : Prop where
  uses : ∀ use ∈ reading.uses, profile.Permits use
  operands : ∀ operand ∈ reading.operands, IsHarmless operand
  count : profile.validatePositionalCount (reading.operands.filter isCounted) = true

/-! ### The condition -/

def startsKnown (cluster : List Char) : Bool :=
  cluster.head?.any fun letter => shortOption letter ∈ profile.allowedValueFlags

/-- Every cluster of short options starts with an allowed one. -/
def clustersStartKnown : List String → Bool
  | [] => true
  | word :: rest =>
    match parseExecArgvToken word with
    | .terminator => true
    | .empty | .stdin | .positional | .long _ (some _) => clustersStartKnown rest
    | .long _ none =>
      match rest with
      | [] => true
      | _ :: rest => clustersStartKnown rest
    | .shortCluster cluster =>
      profile.startsKnown cluster &&
        if cluster.length = 1 then
          match rest with
          | [] => true
          | _ :: rest => clustersStartKnown rest
        else clustersStartKnown rest

end SafeBinProfile

theorem isHarmless_of_isSafeLiteralToken {value : String}
    (safe : isSafeLiteralToken value = true) : IsHarmless value := by
  unfold isSafeLiteralToken at safe
  split at safe
  next special =>
    rw [Bool.or_eq_true, decide_eq_true_iff, decide_eq_true_iff] at special
    rcases special with rfl | rfl <;> exact ⟨by decide, by decide⟩
  next =>
    rw [Bool.and_eq_true, Bool.not_eq_true', Bool.not_eq_true'] at safe
    exact ⟨safe.2, safe.1⟩

theorem isHarmless_of_valid {next : Option String} (valid : isInvalidValueToken next = false) :
    ∃ value, next = some value ∧ IsHarmless value := by
  unfold isInvalidValueToken at valid
  split at valid
  · nomatch valid
  next value isValue =>
    rw [Bool.not_eq_false'] at valid
    exact ⟨value, ((Text.nonEmpty_eq_some_iff _ _).1 isValue).1,
      isHarmless_of_isSafeLiteralToken valid⟩

/-! ### Prefixes of long options -/

/-- What stands under a prefix when it is entered for a flag. -/
def entered (flag : String) : Option (Option String) → Option (Option String)
  | none => some (some flag)
  | some existing => some (if existing ≠ some flag then none else existing)

theorem get_enterPrefix (flag : String) (prefixMap : LongFlagPrefixMap) (length : ℕ)
    (flagPrefix : String) :
    (enterPrefix flag prefixMap length).get flagPrefix =
      if flagPrefix = String.ofList (flag.toList.take length) then
        entered flag (prefixMap.get flagPrefix)
      else prefixMap.get flagPrefix := by
  unfold enterPrefix
  dsimp only
  by_cases same : flagPrefix = String.ofList (flag.toList.take length)
  · rw [if_pos same, ← same]
    cases present : prefixMap.get flagPrefix with
    | none => exact OrderedMap.get_set_self _ _ _
    | some existing =>
      dsimp only [entered]
      split
      · exact OrderedMap.get_set_self _ _ _
      · exact present
  · rw [if_neg same]
    split
    · exact OrderedMap.get_set_of_ne _ _ same
    · split
      · exact OrderedMap.get_set_of_ne _ _ same
      · rfl

/-- Each prefix of a flag is entered once. -/
theorem get_foldl_enterPrefix (flag flagPrefix : String) (lengths : List ℕ)
    (distinct : lengths.Nodup) (within : ∀ length ∈ lengths, length ≤ flag.toList.length)
    (prefixMap : LongFlagPrefixMap) :
    (lengths.foldl (enterPrefix flag) prefixMap).get flagPrefix =
      if flagPrefix.toList.length ∈ lengths ∧ flagPrefix.toList <+: flag.toList then
        entered flag (prefixMap.get flagPrefix)
      else prefixMap.get flagPrefix := by
  induction lengths generalizing prefixMap with
  | nil => rfl
  | cons length lengths inductionHypothesis =>
    rw [List.nodup_cons] at distinct
    have isPrefix : flagPrefix = String.ofList (flag.toList.take length) ↔
        flagPrefix.toList.length = length ∧ flagPrefix.toList <+: flag.toList := by
      rw [← String.toList_inj, String.toList_ofList]
      refine ⟨fun same => ?_, fun ⟨isLength, begins⟩ => ?_⟩
      · refine ⟨?_, same ▸ List.take_prefix _ _⟩
        rw [same, List.length_take_of_le (within length List.mem_cons_self)]
      · rw [← isLength]
        exact List.prefix_iff_eq_take.1 begins
    rw [List.foldl_cons, inductionHypothesis distinct.2
      (fun other member => within other (List.mem_cons_of_mem _ member)), get_enterPrefix]
    by_cases now : flagPrefix.toList.length = length
    · have notLater : flagPrefix.toList.length ∉ lengths := now ▸ distinct.1
      rw [if_neg fun later => notLater later.1]
      by_cases begins : flagPrefix.toList <+: flag.toList
      · rw [if_pos (isPrefix.2 ⟨now, begins⟩), if_pos ⟨now ▸ List.mem_cons_self, begins⟩]
      · rw [if_neg fun same => begins (isPrefix.1 same).2, if_neg fun both => begins both.2]
    · have others : flagPrefix.toList.length ∈ length :: lengths ↔
          flagPrefix.toList.length ∈ lengths := by
        rw [List.mem_cons]
        exact or_iff_right now
      rw [if_neg fun same => now (isPrefix.1 same).1]
      simp only [others]

theorem get_enterFlag (prefixMap : LongFlagPrefixMap) (flag flagPrefix : String)
    (long : 3 ≤ flagPrefix.toList.length) :
    (enterFlag prefixMap flag).get flagPrefix =
      if isLongFlag flag = true ∧ flagPrefix.toList <+: flag.toList then
        entered flag (prefixMap.get flagPrefix)
      else prefixMap.get flagPrefix := by
  unfold enterFlag
  cases isLong : isLongFlag flag with
  | false => rw [Bool.not_false, Bool.true_or, if_pos rfl, if_neg (by nofun)]
  | true =>
    rw [Bool.not_true, Bool.false_or]
    by_cases short : flag.toList.length ≤ 2
    · rw [if_pos (decide_eq_true short), if_neg]
      rintro ⟨-, begins⟩
      have := begins.length_le
      omega
    · rw [if_neg (by simpa using short), get_foldl_enterPrefix _ _ _ List.nodup_range' (by
        intro length member
        rw [List.mem_range'_1] at member
        omega)]
      refine if_congr ⟨fun both => ⟨rfl, both.2⟩, fun both => ⟨?_, both.2⟩⟩ rfl rfl
      rw [List.mem_range'_1]
      have := both.2.length_le
      omega

/-- What stands under a prefix when some flags have been entered. -/
structure Stands (flags : List String) (prefixMap : LongFlagPrefixMap) (flagPrefix : String) :
    Prop where
  absent : prefixMap.get flagPrefix = none →
    ∀ flag ∈ flags, isLongFlag flag = true → ¬flagPrefix.toList <+: flag.toList
  single : ∀ flag, prefixMap.get flagPrefix = some (some flag) →
    (flag ∈ flags ∧ flagPrefix.toList <+: flag.toList) ∧
      ∀ other ∈ flags, isLongFlag other = true → flagPrefix.toList <+: other.toList → other = flag

theorem Stands.enterFlag {flags : List String} {prefixMap : LongFlagPrefixMap} {flagPrefix : String}
    (stands : Stands flags prefixMap flagPrefix) (long : 3 ≤ flagPrefix.toList.length)
    (flag : String) : Stands (flags ++ [flag]) (enterFlag prefixMap flag) flagPrefix := by
  by_cases enters : isLongFlag flag = true ∧ flagPrefix.toList <+: flag.toList
  · have isEntered := get_enterFlag prefixMap flag flagPrefix long
    rw [if_pos enters] at isEntered
    refine ⟨fun none => ?_, fun option isOption => ?_⟩
    · rw [isEntered] at none
      unfold entered at none
      split at none <;> nomatch none
    · rw [isEntered] at isOption
      cases before : prefixMap.get flagPrefix with
      | none =>
        rw [before] at isOption
        obtain rfl := Option.some.inj (Option.some.inj isOption)
        refine ⟨⟨List.mem_append_right _ (List.mem_singleton.2 rfl), enters.2⟩, ?_⟩
        intro other member otherLong begins
        rcases List.mem_append.1 member with earlier | last
        · exact absurd begins (stands.absent before other earlier otherLong)
        · exact List.mem_singleton.1 last
      | some existing =>
        rw [before] at isOption
        dsimp only [entered] at isOption
        split at isOption
        · nomatch isOption
        next isFlag =>
          have isFlag : existing = some flag := not_not.1 isFlag
          obtain rfl := Option.some.inj (isFlag.symm.trans (Option.some.inj isOption))
          obtain ⟨⟨earlier, begins⟩, unique⟩ := stands.single flag (isFlag ▸ before)
          refine ⟨⟨List.mem_append_left _ earlier, begins⟩, ?_⟩
          intro other member otherLong otherBegins
          rcases List.mem_append.1 member with earlier | last
          · exact unique other earlier otherLong otherBegins
          · exact List.mem_singleton.1 last
  · have isKept := get_enterFlag prefixMap flag flagPrefix long
    rw [if_neg enters] at isKept
    have notLast : ∀ other ∈ flags ++ [flag], isLongFlag other = true →
        flagPrefix.toList <+: other.toList → other ∈ flags := by
      intro other member otherLong begins
      rcases List.mem_append.1 member with earlier | last
      · exact earlier
      · obtain rfl := List.mem_singleton.1 last
        exact absurd ⟨otherLong, begins⟩ enters
    refine ⟨fun none other member otherLong begins => ?_, fun option isOption => ?_⟩
    · exact stands.absent (isKept.symm.trans none) other
        (notLast other member otherLong begins) otherLong begins
    · obtain ⟨⟨earlier, begins⟩, unique⟩ := stands.single option (isKept.symm.trans isOption)
      exact ⟨⟨List.mem_append_left _ earlier, begins⟩, fun other member otherLong otherBegins =>
        unique other (notLast other member otherLong otherBegins) otherLong otherBegins⟩

theorem stands_buildLongFlagPrefixMap (flags : List String) {flagPrefix : String}
    (long : 3 ≤ flagPrefix.toList.length) :
    Stands flags (buildLongFlagPrefixMap flags) flagPrefix := by
  have each : ∀ (rest done : List String) (prefixMap : LongFlagPrefixMap),
      Stands done prefixMap flagPrefix →
        Stands (done ++ rest) (rest.foldl OpenClaw.Exec.enterFlag prefixMap) flagPrefix := by
    intro rest
    induction rest with
    | nil =>
      intro done prefixMap stands
      rwa [List.append_nil]
    | cons flag rest inductionHypothesis =>
      intro done prefixMap stands
      rw [List.append_cons]
      exact inductionHypothesis _ _ (stands.enterFlag long flag)
  exact each flags [] ∅ ⟨fun _ => nofun, nofun⟩

namespace SafeBinProfile

variable (profile : SafeBinProfile) (deniedTakesValue : String → Bool)

theorem mem_knownLongFlags {flag : String} :
    flag ∈ profile.knownLongFlags ↔
      flag ∈ (profile.table deniedTakesValue).options ∧ isLongFlag flag = true := by
  unfold knownLongFlags collectKnownLongFlags table
  rw [List.mem_dedup, List.mem_append, List.mem_append, List.mem_filter, List.mem_filter]
  tauto

/-- A long option that is recognised is the one that its name stands for. -/
theorem resolveLong_of_canonical {flag option : String}
    (isCanonical : profile.resolveCanonicalLongFlag flag = some option) :
    resolveLong (profile.table deniedTakesValue) flag = some option := by
  unfold resolveCanonicalLongFlag at isCanonical
  split at isCanonical
  · cases isCanonical
  next isName =>
    rw [Bool.or_eq_true, Bool.not_eq_true', decide_eq_true_iff, not_or, Bool.not_eq_false,
      Nat.not_le] at isName
    obtain ⟨isLong, long⟩ := isName
    split at isCanonical
    next known =>
      obtain rfl := Option.some.inj isCanonical
      exact resolveLong_of_mem _ ((profile.mem_knownLongFlags deniedTakesValue).1 known).1
    next =>
      obtain ⟨⟨known, begins⟩, unique⟩ := (stands_buildLongFlagPrefixMap profile.knownLongFlags
        long).single option (Option.join_eq_some_iff.1 isCanonical)
      refine resolveLong_of_unique _ ((profile.mem_knownLongFlags deniedTakesValue).1 known).1
        (List.isPrefixOf_iff_prefix.2 begins) fun other isOther beginsOther => ?_
      have beginsOther := List.isPrefixOf_iff_prefix.1 beginsOther
      -- What begins with the name of a long option is a long option.
      have otherLong : isLongFlag other = true := List.isPrefixOf_iff_prefix.2
        ((List.isPrefixOf_iff_prefix.1 isLong).trans beginsOther)
      exact unique other ((profile.mem_knownLongFlags deniedTakesValue).2 ⟨isOther, otherLong⟩)
        otherLong beginsOther

/-- What an accepted long option is. -/
theorem option_of_consumedLong {next : Option String} {flag : String}
    {inlineValue : Option String} {consumed : Consumed}
    (isConsumed : profile.consumeLongOptionToken next flag inlineValue = some consumed) :
    ∃ option, resolveLong (profile.table deniedTakesValue) flag = some option ∧
      option ∈ profile.allowedValueFlags ∧ option ∉ profile.deniedFlags ∧
      match inlineValue with
      | some value => consumed = .one ∧ IsHarmless value
      | none => consumed = .two ∧ isInvalidValueToken next = false := by
  unfold consumeLongOptionToken at isConsumed
  cases isCanonical : profile.resolveCanonicalLongFlag flag with
  | none =>
    rw [isCanonical] at isConsumed
    nomatch isConsumed
  | some option =>
    have resolves := profile.resolveLong_of_canonical deniedTakesValue isCanonical
    rw [isCanonical] at isConsumed
    dsimp only at isConsumed
    split at isConsumed
    · nomatch isConsumed
    next notDenied =>
      -- Every option that stands for something is allowed or denied.
      have allowed : option ∈ profile.allowedValueFlags := by
        have isOption : option ∈ (profile.table deniedTakesValue).options :=
          mem_options_of_resolveLong resolves
        exact (List.mem_append.1 isOption).resolve_right notDenied
      refine ⟨option, resolves, allowed, notDenied, ?_⟩
      cases inlineValue with
      | some value =>
        dsimp only at isConsumed ⊢
        rw [if_neg (not_not.2 allowed)] at isConsumed
        split at isConsumed
        next safe =>
          exact ⟨(Option.some.inj isConsumed).symm, isHarmless_of_isSafeLiteralToken safe⟩
        · nomatch isConsumed
      | none =>
        dsimp only at isConsumed ⊢
        rw [if_neg (not_not.2 allowed)] at isConsumed
        split at isConsumed
        · nomatch isConsumed
        next valid => exact ⟨(Option.some.inj isConsumed).symm, Bool.eq_false_iff.2 valid⟩

/-! ### Clusters -/

theorem not_permits_unknown (spelling : String) : ¬profile.Permits (.unknown spelling) := by
  rintro ⟨option, value, isKnown, -⟩
  nomatch isKnown

/-- What an accepted cluster is read as: options that the profile does not know, and an allowed one
that takes the rest of the cluster or the next word. -/
theorem readCluster_of_consumed {next : Option String} {cluster : List Char} {consumed : Consumed}
    (isConsumed : profile.consumeShortOptionClusterToken next cluster = some consumed) :
    ∃ uses option, option ∈ profile.allowedValueFlags ∧ option ∉ profile.deniedFlags ∧
      ((∀ use ∈ uses, profile.Permits use) ↔ profile.startsKnown cluster = true) ∧
      match consumed with
      | .one => (∃ value, readCluster (profile.table deniedTakesValue) cluster =
            (uses ++ [.known option (some value)], none) ∧ IsHarmless value) ∧
          (profile.startsKnown cluster = true → cluster.length ≠ 1)
      | .two => readCluster (profile.table deniedTakesValue) cluster = (uses, some option) ∧
          isInvalidValueToken next = false ∧
          (profile.startsKnown cluster = true → cluster.length = 1) := by
  induction cluster with
  | nil => nomatch isConsumed
  | cons letter rest inductionHypothesis =>
    rw [consumeShortOptionClusterToken, ← shortOption] at isConsumed
    split at isConsumed
    · nomatch isConsumed
    next notDenied =>
      split at isConsumed
      next notAllowed =>
        -- The letter is passed over.
        have notOption : shortOption letter ∉ (profile.table deniedTakesValue).options :=
          fun member => (List.mem_append.1 member).elim notAllowed notDenied
        have unknownStart : profile.startsKnown (letter :: rest) = false :=
          decide_eq_false notAllowed
        have isRead : readCluster (profile.table deniedTakesValue) (letter :: rest) =
            (.unknown (shortOption letter) ::
              (readCluster (profile.table deniedTakesValue) rest).1,
              (readCluster (profile.table deniedTakesValue) rest).2) := by
          rw [readCluster, if_neg notOption]
        obtain ⟨uses, option, allowed, isNotDenied, -, body⟩ := inductionHypothesis isConsumed
        refine ⟨.unknown (shortOption letter) :: uses, option, allowed, isNotDenied, ?_, ?_⟩
        · rw [unknownStart]
          refine ⟨fun each => absurd (each _ List.mem_cons_self)
            (profile.not_permits_unknown _), nofun⟩
        · rw [unknownStart, isRead]
          cases consumed with
          | one =>
            obtain ⟨⟨value, isRest, harmless⟩, -⟩ := body
            exact ⟨⟨value, by rw [isRest]; rfl, harmless⟩, nofun⟩
          | two =>
            obtain ⟨isRest, valid, -⟩ := body
            exact ⟨by rw [isRest], valid, nofun⟩
      next allowed =>
        have allowed : shortOption letter ∈ profile.allowedValueFlags := not_not.1 allowed
        have isOption : shortOption letter ∈ (profile.table deniedTakesValue).options :=
          List.mem_append_left _ allowed
        have takes : (profile.table deniedTakesValue).takesValue (shortOption letter) = true :=
          Bool.or_eq_true_iff.2 (.inl (decide_eq_true allowed))
        have start : profile.startsKnown (letter :: rest) = true := decide_eq_true allowed
        refine ⟨[], shortOption letter, allowed, notDenied, ⟨fun _ => start, fun _ => nofun⟩, ?_⟩
        rw [readCluster, if_pos isOption, if_pos takes]
        split at isConsumed
        next more =>
          rw [if_neg more]
          split at isConsumed
          next safe =>
            obtain rfl := Option.some.inj isConsumed
            refine ⟨⟨_, rfl, isHarmless_of_isSafeLiteralToken safe⟩, fun _ isSingle => more ?_⟩
            exact List.length_eq_zero_iff.1 (Nat.succ.inj isSingle)
          · nomatch isConsumed
        next noMore =>
          rw [if_pos (not_not.1 noMore)]
          split at isConsumed
          · nomatch isConsumed
          next valid =>
            obtain rfl := Option.some.inj isConsumed
            refine ⟨rfl, Bool.eq_false_iff.2 valid, fun _ => ?_⟩
            rw [not_not.1 noMore]
            rfl

end SafeBinProfile

/-! ### Words -/

section Words

variable {table : Table} {word : String} {rest : List String}

/-- The words that have a meaning of their own. -/
theorem parseExecArgvToken_special (word : String) :
    (parseExecArgvToken word = .empty ↔ word = "") ∧
      (parseExecArgvToken word = .terminator ↔ word = "--") ∧
      (parseExecArgvToken word = .stdin ↔ word = "-") := by
  by_cases isEmpty : word = ""
  · subst isEmpty
    decide
  · by_cases isTerminator : word = "--"
    · subst isTerminator
      decide
    · by_cases isStdin : word = "-"
      · subst isStdin
        decide
      · have others : parseExecArgvToken word ≠ .empty ∧ parseExecArgvToken word ≠ .terminator ∧
            parseExecArgvToken word ≠ .stdin := by
          unfold parseExecArgvToken
          rw [if_neg isEmpty, if_neg isTerminator, if_neg isStdin]
          split
          · exact ⟨nofun, nofun, nofun⟩
          · split
            · split <;> exact ⟨nofun, nofun, nofun⟩
            · exact ⟨nofun, nofun, nofun⟩
        exact ⟨iff_of_false others.1 isEmpty, iff_of_false others.2.1 isTerminator,
          iff_of_false others.2.2 isStdin⟩

theorem read_operand (isOperand : parseExecArgvToken word = .empty ∨
    parseExecArgvToken word = .stdin ∨ parseExecArgvToken word = .positional) :
    Getopt.read table (word :: rest) = (Getopt.read table rest).withOperand word := by
  have isNone : word ≠ "--" ∧ "--".toList.isPrefixOf word.toList = false ∧
      ("-".toList.isPrefixOf word.toList = false ∨ word = "-") := by
    unfold parseExecArgvToken at isOperand
    split at isOperand
    next isEmpty =>
      subst isEmpty
      exact ⟨by decide, by decide, .inl (by decide)⟩
    next =>
      split at isOperand
      · simp at isOperand
      next notTerminator =>
        split at isOperand
        next isStdin =>
          subst isStdin
          exact ⟨by decide, by decide, .inr rfl⟩
        next =>
          split at isOperand
          next notDash =>
            rw [Bool.not_eq_true'] at notDash
            refine ⟨notTerminator, Bool.eq_false_iff.2 fun begins => ?_, .inl notDash⟩
            have dash := List.isPrefixOf_iff_prefix.2 ((by decide : "-".toList <+: "--".toList).trans
              (List.isPrefixOf_iff_prefix.1 begins))
            exact absurd (notDash.symm.trans dash) nofun
          next =>
            split at isOperand
            · split at isOperand <;> simp at isOperand
            · simp at isOperand
  obtain ⟨notTerminator, notLong, notShort⟩ := isNone
  rw [Getopt.read, if_neg notTerminator, notLong, if_neg Bool.false_ne_true, if_neg]
  rcases notShort with notDash | isStdin
  · rw [notDash]
    nofun
  · simp [isStdin]

/-- A word that is taken for a long option. -/
theorem read_long {flag : String} {inlineValue : Option String}
    (isLong : parseExecArgvToken word = .long flag inlineValue) {option : String}
    (resolves : resolveLong table flag = some option) (takes : table.takesValue option = true) :
    Getopt.read table (word :: rest) =
      match inlineValue with
      | some value => (Getopt.read table rest).withUses [.known option (some value)]
      | none =>
        match rest with
        | [] => ⟨[.known option none], []⟩
        | value :: rest => (Getopt.read table rest).withUses [.known option (some value)] := by
  have isWord : word ≠ "--" ∧ "--".toList.isPrefixOf word.toList = true ∧
      splitInline word = (flag, inlineValue) := by
    unfold parseExecArgvToken at isLong
    split at isLong
    · nomatch isLong
    · split at isLong
      · nomatch isLong
      next notTerminator =>
        split at isLong
        · nomatch isLong
        · split at isLong
          · nomatch isLong
          · split at isLong
            next begins =>
              refine ⟨notTerminator, begins, ?_⟩
              unfold splitInline
              split at isLong
              next hasValue =>
                injection isLong with isFlag isInline
                rw [if_pos hasValue, isFlag, isInline]
              next noValue =>
                injection isLong with isFlag isInline
                have whole : word.toList.takeWhile (· ≠ '=') = word.toList :=
                  List.takeWhile_eq_self_iff.2 fun character member =>
                    decide_eq_true fun isEquals => noValue (isEquals ▸ member)
                rw [if_neg noValue, whole, String.ofList_toList, isFlag, isInline]
            · nomatch isLong
  obtain ⟨notTerminator, begins, isSplit⟩ := isWord
  rw [Getopt.read.eq_def]
  dsimp only
  rw [if_neg notTerminator, begins, if_pos rfl, isSplit]
  dsimp only
  rw [resolves]
  dsimp only
  rw [takes, Bool.true_and]
  cases inlineValue with
  | some value => rfl
  | none => rfl

/-- A word that is taken for a cluster. -/
theorem read_cluster {cluster : List Char}
    (isCluster : parseExecArgvToken word = .shortCluster cluster) :
    Getopt.read table (word :: rest) =
      match (readCluster table cluster).2 with
      | none => (Getopt.read table rest).withUses (readCluster table cluster).1
      | some option =>
        match rest with
        | [] => ⟨(readCluster table cluster).1 ++ [.known option none], []⟩
        | value :: rest => (Getopt.read table rest).withUses
            ((readCluster table cluster).1 ++ [.known option (some value)]) := by
  have isWord : word ≠ "--" ∧ "--".toList.isPrefixOf word.toList = false ∧
      "-".toList.isPrefixOf word.toList = true ∧ word ≠ "-" ∧ word.toList.tail = cluster := by
    unfold parseExecArgvToken at isCluster
    split at isCluster
    · nomatch isCluster
    · split at isCluster
      · nomatch isCluster
      next notTerminator =>
        split at isCluster
        · nomatch isCluster
        next notStdin =>
          split at isCluster
          · nomatch isCluster
          next dash =>
            split at isCluster
            · split at isCluster <;> nomatch isCluster
            next notLong =>
              injection isCluster with isTail
              exact ⟨notTerminator, Bool.eq_false_iff.2 notLong, by simpa using dash, notStdin,
                isTail⟩
  obtain ⟨notTerminator, notLong, dash, notStdin, rfl⟩ := isWord
  rw [Getopt.read.eq_def]
  dsimp only
  rw [if_neg notTerminator, notLong, if_neg Bool.false_ne_true, dash, decide_eq_true notStdin,
    Bool.true_and]
  refine (if_pos rfl).trans ?_
  cases (readCluster table word.toList.tail).2 <;> rfl

end Words

/-! ### The arguments -/

/-- A reading of words accords with the operands that are collected of them, and with whether all
their clusters start with an allowed option. -/
structure Accords (profile : SafeBinProfile) (reading : Reading) (positional : List String)
    (known : Bool) : Prop where
  counted : reading.operands.filter isCounted = positional
  harmless : ∀ operand ∈ reading.operands, IsHarmless operand
  uses : (∀ use ∈ reading.uses, profile.Permits use) ↔ known = true

section Accords

variable {profile : SafeBinProfile} {reading : Reading} {positional : List String} {known : Bool}

theorem Accords.withUses (accords : Accords profile reading positional known) {uses : List Use}
    {usesKnown : Bool} (each : (∀ use ∈ uses, profile.Permits use) ↔ usesKnown = true) :
    Accords profile (reading.withUses uses) positional (usesKnown && known) where
  counted := accords.counted
  harmless := accords.harmless
  uses := by
    rw [Reading.uses_withUses, Bool.and_eq_true, ← each, ← accords.uses]
    exact List.forall_mem_append

theorem Accords.withOperand (accords : Accords profile reading positional known) {operand : String}
    (safe : isSafeLiteralToken operand = true) :
    Accords profile (reading.withOperand operand)
      (if isCounted operand then operand :: positional else positional) known where
  counted := by
    rw [Reading.operands_withOperand]
    split
    next counted => rw [List.filter_cons_of_pos counted, accords.counted]
    next notCounted => rw [List.filter_cons_of_neg notCounted, accords.counted]
  harmless := by
    rw [Reading.operands_withOperand, List.forall_mem_cons]
    exact ⟨isHarmless_of_isSafeLiteralToken safe, accords.harmless⟩
  uses := accords.uses

end Accords

variable {profile : SafeBinProfile}

/-- Words behind the end of the options. -/
theorem accords_collectRest {words positional : List String}
    (isCollected : SafeBinProfile.collectRest words = some positional) :
    Accords profile ⟨[], words⟩ positional true := by
  induction words generalizing positional with
  | nil =>
    obtain rfl := Option.some.inj isCollected
    exact ⟨rfl, nofun, fun _ => rfl, fun _ => nofun⟩
  | cons word rest inductionHypothesis =>
    rw [SafeBinProfile.collectRest] at isCollected
    split at isCollected
    next special =>
      have safe : isSafeLiteralToken word = true := if_pos special
      have notCounted : isCounted word = false := by
        rw [Bool.or_eq_true, decide_eq_true_iff, decide_eq_true_iff] at special
        rcases special with rfl | rfl <;> decide
      have accords := (inductionHypothesis isCollected).withOperand safe
      rwa [notCounted, if_neg Bool.false_ne_true] at accords
    next ordinary =>
      split at isCollected
      next safe =>
        obtain ⟨others, isRest, rfl⟩ := Option.map_eq_some_iff.1 isCollected
        have counted : isCounted word = true := by
          rw [Bool.or_eq_true, decide_eq_true_iff, decide_eq_true_iff, not_or] at ordinary
          exact Bool.and_eq_true_iff.2 ⟨decide_eq_true ordinary.1, decide_eq_true ordinary.2⟩
        have accords := (inductionHypothesis isRest).withOperand safe
        rwa [counted, if_pos rfl] at accords
      · nomatch isCollected

/-- The uses of an allowed option, behind those that are passed over. -/
theorem permits_append {uses : List Use} {usesKnown : Bool}
    (each : (∀ use ∈ uses, profile.Permits use) ↔ usesKnown = true) {option value : String}
    (allowed : option ∈ profile.allowedValueFlags) (notDenied : option ∉ profile.deniedFlags)
    (harmless : IsHarmless value) :
    (∀ use ∈ uses ++ [.known option (some value)], profile.Permits use) ↔ usesKnown = true := by
  rw [List.forall_mem_append, each, List.forall_mem_singleton]
  exact and_iff_left ⟨option, value, rfl, allowed, notDenied, harmless⟩

theorem permits_singleton {option value : String}
    (allowed : option ∈ profile.allowedValueFlags) (notDenied : option ∉ profile.deniedFlags)
    (harmless : IsHarmless value) :
    (∀ use ∈ [Use.known option (some value)], profile.Permits use) ↔ true = true :=
  iff_of_true (List.forall_mem_singleton.2 ⟨option, value, rfl, allowed, notDenied, harmless⟩) rfl

theorem and_ite_of_imp {condition : Prop} [Decidable condition] {first yes no : Bool}
    (never : first = true → ¬condition) :
    (first && if condition then yes else no) = (first && no) := by
  cases first with
  | false => rfl
  | true => rw [if_neg (never rfl)]

theorem and_ite_of_imp' {condition : Prop} [Decidable condition] {first yes no : Bool}
    (always : first = true → condition) :
    (first && if condition then yes else no) = (first && yes) := by
  cases first with
  | false => rfl
  | true => rw [if_pos (always rfl)]

/-- The words that are accepted are read as they have been taken. -/
theorem accords_collectPositionalTokens (profile : SafeBinProfile)
    (deniedTakesValue : String → Bool) {words positional : List String}
    (isCollected : profile.collectPositionalTokens words = some positional) :
    Accords profile (Getopt.read (profile.table deniedTakesValue) words) positional
      (profile.clustersStartKnown words) := by
  induction isLength : words.length using Nat.strong_induction_on generalizing words positional with
  | _ length inductionHypothesis =>
    subst isLength
    cases words with
    | nil =>
      obtain rfl := Option.some.inj isCollected
      exact ⟨rfl, nofun, fun _ => rfl, fun _ => nofun⟩
    | cons word rest =>
      have next : ∀ {positional}, profile.collectPositionalTokens rest = some positional →
          Accords profile (Getopt.read (profile.table deniedTakesValue) rest) positional
            (profile.clustersStartKnown rest) :=
        fun isRest => inductionHypothesis rest.length (Nat.lt_succ_self _) isRest rfl
      have afterNext : ∀ {value later positional}, rest = value :: later →
          profile.collectPositionalTokens later = some positional →
            Accords profile (Getopt.read (profile.table deniedTakesValue) later) positional
              (profile.clustersStartKnown later) := by
        rintro value later positional rfl isLater
        exact inductionHypothesis later.length (Nat.lt_succ_of_lt (Nat.lt_succ_self _)) isLater rfl
      rw [SafeBinProfile.collectPositionalTokens.eq_def] at isCollected
      rw [SafeBinProfile.clustersStartKnown.eq_def]
      dsimp only at isCollected ⊢
      cases isToken : parseExecArgvToken word with
      | empty =>
        rw [isToken] at isCollected
        obtain rfl := (parseExecArgvToken_special word).1.1 isToken
        rw [read_operand (.inl isToken)]
        exact (next isCollected).withOperand (by decide)
      | stdin =>
        rw [isToken] at isCollected
        obtain rfl := (parseExecArgvToken_special word).2.2.1 isToken
        rw [read_operand (.inr (.inl isToken))]
        exact (next isCollected).withOperand (by decide)
      | terminator =>
        rw [isToken] at isCollected
        obtain rfl := (parseExecArgvToken_special word).2.1.1 isToken
        rw [Getopt.read.eq_def]
        exact accords_collectRest isCollected
      | positional =>
        rw [isToken] at isCollected
        dsimp only at isCollected
        have isOrdinary : isCounted word = true := by
          refine Bool.and_eq_true_iff.2 ⟨decide_eq_true ?_, decide_eq_true ?_⟩ <;> rintro rfl
          · nomatch isToken
          · nomatch isToken
        split at isCollected
        next safe =>
          obtain ⟨others, isRest, rfl⟩ := Option.map_eq_some_iff.1 isCollected
          rw [read_operand (.inr (.inr isToken))]
          have accords := (next isRest).withOperand safe
          rwa [isOrdinary, if_pos rfl] at accords
        · nomatch isCollected
      | long flag inlineValue =>
        rw [isToken] at isCollected
        dsimp only at isCollected ⊢
        cases isConsumed : profile.consumeLongOptionToken rest.head? flag inlineValue with
        | none =>
          rw [isConsumed] at isCollected
          nomatch isCollected
        | some consumed =>
          rw [isConsumed] at isCollected
          obtain ⟨option, resolves, allowed, notDenied, body⟩ :=
            profile.option_of_consumedLong deniedTakesValue isConsumed
          have takes : (profile.table deniedTakesValue).takesValue option = true :=
            Bool.or_eq_true_iff.2 (.inl (decide_eq_true allowed))
          rw [read_long isToken resolves takes]
          cases inlineValue with
          | some value =>
            obtain ⟨rfl, harmless⟩ := body
            exact (next isCollected).withUses (permits_singleton allowed notDenied harmless)
          | none =>
            obtain ⟨rfl, valid⟩ := body
            obtain ⟨value, isNext, harmless⟩ := isHarmless_of_valid valid
            obtain ⟨later, rfl⟩ := List.head?_eq_some_iff.1 isNext
            exact (afterNext rfl isCollected).withUses
              (permits_singleton allowed notDenied harmless)
      | shortCluster cluster =>
        rw [isToken] at isCollected
        dsimp only at isCollected ⊢
        cases isConsumed : profile.consumeShortOptionClusterToken rest.head? cluster with
        | none =>
          rw [isConsumed] at isCollected
          nomatch isCollected
        | some consumed =>
          rw [isConsumed] at isCollected
          obtain ⟨uses, option, allowed, notDenied, each, body⟩ :=
            profile.readCluster_of_consumed deniedTakesValue isConsumed
          rw [read_cluster isToken]
          cases consumed with
          | one =>
            obtain ⟨⟨value, isRead, harmless⟩, inOne⟩ := body
            rw [isRead, and_ite_of_imp inOne]
            exact (next isCollected).withUses (permits_append each allowed notDenied harmless)
          | two =>
            obtain ⟨isRead, valid, inTwo⟩ := body
            obtain ⟨value, isNext, harmless⟩ := isHarmless_of_valid valid
            obtain ⟨later, rfl⟩ := List.head?_eq_some_iff.1 isNext
            rw [isRead, and_ite_of_imp' inTwo]
            exact (afterNext rfl isCollected).withUses
              (permits_append each allowed notDenied harmless)

/-! ### Arguments that are accepted -/

/-- The arguments that are accepted are stdin-only, as the binary reads them, exactly when every
cluster of short options starts with an allowed option. -/
theorem accepted_arguments_are_stdin_only_iff (profile : SafeBinProfile)
    (deniedTakesValue : String → Bool) {args : List String} {binName : Option String}
    (accepted : validateSafeBinArgv args profile binName = true) :
    profile.StdinOnly (Getopt.read (profile.table deniedTakesValue) args) ↔
      profile.clustersStartKnown args = true := by
  unfold validateSafeBinArgv at accepted
  split at accepted
  · nomatch accepted
  next positional isCollected =>
    have accords := accords_collectPositionalTokens profile deniedTakesValue isCollected
    refine ⟨fun stdinOnly => accords.uses.1 stdinOnly.uses, fun known => ?_⟩
    refine ⟨accords.uses.2 known, accords.harmless, ?_⟩
    rw [accords.counted]
    exact (Bool.and_eq_true_iff.1 accepted).1

/-- The profile of `sort`. -/
def sortProfile : SafeBinProfile where
  maxPositional := some 0
  allowedValueFlags := ["--key", "--field-separator", "--buffer-size", "--parallel", "--batch-size",
    "-k", "-t", "-S"]
  deniedFlags := ["--compress-program", "--files0-from", "--output", "--random-source",
    "--temporary-directory", "-T", "-o"]

theorem sort_by_key_is_stdin_only :
    sortProfile.StdinOnly (Getopt.read (sortProfile.table fun _ => true)
      ["--ke=1,1", "-S", "1M", "-k2"]) :=
  (accepted_arguments_are_stdin_only_iff sortProfile (fun _ => true)
    (show validateSafeBinArgv ["--ke=1,1", "-S", "1M", "-k2"] sortProfile (some "sort") = true by
      decide +kernel)).2 (by decide +kernel)

/-- A letter that the profile does not know is accepted in front of one that it knows. -/
theorem unknown_letter_is_accepted :
    validateSafeBinArgv ["-nk2"] sortProfile (some "sort") = true ∧
      Getopt.read (sortProfile.table fun _ => true) ["-nk2"] =
        ⟨[.unknown "-n", .known "-k" (some "2")], []⟩ ∧
      ¬sortProfile.StdinOnly (Getopt.read (sortProfile.table fun _ => true) ["-nk2"]) := by
  have isAccepted : validateSafeBinArgv ["-nk2"] sortProfile (some "sort") = true := by
    decide +kernel
  have isRead : Getopt.read (sortProfile.table fun _ => true) ["-nk2"] =
      ⟨[.unknown "-n", .known "-k" (some "2")], []⟩ := by
    decide +kernel
  refine ⟨isAccepted, isRead, fun stdinOnly => ?_⟩
  rw [isRead] at stdinOnly
  exact sortProfile.not_permits_unknown "-n" (stdinOnly.uses _ List.mem_cons_self)

end OpenClaw.Exec
