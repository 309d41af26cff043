/-
This file proves when the loop detector blocks a call.

Read from its newest record on, the window after one more attempt is that attempt's
record followed by what was there before, cut to the window's size. So after enough
attempts of one call with one outcome the newest records are all that call with that
outcome, and the streak the detector counts is at least their number, provided the
window can hold as many as the breaker asks for: its size is configured apart from
the thresholds, and a smaller window never fills the streak.

Backwards, a critical result says what the window holds: so many equal outcomes of the
call, or a tail that alternates between two calls with one outcome each. The attempt
being made is a member of the alternation, so the tail is one record short of the
threshold.
-/

import OpenClaw.Agents.ToolLoopDetection

namespace OpenClaw.Agents

open Text

/-! ### What the detector counts -/

/-- The outcomes recorded for a call, oldest first. -/
def recordedOutcomes (history : List ToolCallRecord) (toolName argsHash : String) : List String :=
  history.filterMap fun record =>
    if record.isCall toolName argsHash then nonEmpty record.resultHash else none

/-- The newest `count` outcomes recorded for a call are the same. -/
def Repeats (history : List ToolCallRecord) (toolName argsHash : String) (count : Nat) : Prop :=
  ∃ resultHash, List.replicate count resultHash <+:
    (recordedOutcomes history toolName argsHash).reverse

/-- `first`, `second`, `first` and so on, `count` members in all. -/
def alternation {α : Type} : Nat → α → α → List α
  | 0, _, _ => []
  | count + 1, first, second => first :: alternation count second first

/-- The newest `count` records alternate between another call and the given one, each of them
always with its own outcome. -/
def PingPongs (history : List ToolCallRecord) (argsHash : String) (count : Nat) : Prop :=
  ∃ otherHash otherOutcome ownOutcome, otherHash ≠ argsHash ∧
    alternation count (otherHash, some otherOutcome) (argsHash, some ownOutcome) <+:
      history.reverse.map fun record => (record.argsHash, record.resultHash)

theorem map_alternation {α β : Type} (f : α → β) (count : Nat) (first second : α) :
    (alternation count first second).map f = alternation count (f first) (f second) := by
  induction count generalizing first second with
  | zero => rfl
  | succ count inductionHypothesis =>
    rw [alternation, List.map_cons, inductionHypothesis, alternation]

/-- A shorter alternation is a prefix of a longer one. -/
theorem alternation_mono {α : Type} {shorter longer : Nat} (le : shorter ≤ longer)
    (first second : α) : alternation shorter first second <+: alternation longer first second := by
  induction shorter generalizing longer first second with
  | zero => exact List.nil_prefix
  | succ shorter inductionHypothesis =>
    cases longer with
    | zero => exact absurd le (Nat.not_succ_le_zero _)
    | succ longer =>
      exact (List.prefix_cons_inj first).2
        (inductionHypothesis (Nat.le_of_succ_le_succ le) second first)

/-! ### The streak -/

theorem recordedOutcomes_cons (record : ToolCallRecord) (rest : List ToolCallRecord)
    (toolName argsHash : String) :
    recordedOutcomes (record :: rest) toolName argsHash =
      (if record.isCall toolName argsHash then nonEmpty record.resultHash else none).toList ++
        recordedOutcomes rest toolName argsHash := by
  rw [recordedOutcomes, List.filterMap_cons]
  cases (if record.isCall toolName argsHash then nonEmpty record.resultHash else none) <;> rfl

/-- Past the newest outcome the loop counts the outcomes equal to it, up to the first that is
not. -/
theorem noProgressFrom_some (toolName argsHash latest : String) (streak : Nat)
    (records : List ToolCallRecord) :
    noProgressFrom toolName argsHash streak (some latest) records =
      (streak + ((recordedOutcomes records toolName argsHash).takeWhile (· = latest)).length,
        some latest) := by
  induction records generalizing streak with
  | nil => rfl
  | cons record rest inductionHypothesis =>
    rw [noProgressFrom, recordedOutcomes_cons]
    by_cases isCall : record.isCall toolName argsHash = true
    · rw [isCall]
      cases outcome : nonEmpty record.resultHash with
      | none => exact inductionHypothesis streak
      | some resultHash =>
        by_cases same : resultHash = latest
        · simp only [same, inductionHypothesis, Bool.not_true, Bool.false_eq_true, if_false,
            if_true,
            ne_eq, not_true_eq_false, Option.toList_some, List.cons_append, List.nil_append,
            decide_true, List.takeWhile_cons_of_pos, List.length_cons]
          rw [Nat.add_right_comm, Nat.add_assoc]
        · simp [same]
    · simp only [Bool.not_eq_true] at isCall
      simp only [isCall, Bool.not_false, if_true, Bool.false_eq_true, if_false, Option.toList_none,
        List.nil_append]
      exact inductionHypothesis streak

/-- The streak is the number of newest outcomes equal to the newest one. -/
theorem noProgressFrom_none (toolName argsHash : String) (records : List ToolCallRecord) :
    (noProgressFrom toolName argsHash 0 none records).1 =
      match recordedOutcomes records toolName argsHash with
      | [] => 0
      | latest :: earlier => (earlier.takeWhile (· = latest)).length + 1 := by
  induction records with
  | nil => rfl
  | cons record rest inductionHypothesis =>
    rw [noProgressFrom, recordedOutcomes_cons]
    by_cases isCall : record.isCall toolName argsHash = true
    · rw [isCall]
      cases outcome : nonEmpty record.resultHash with
      | none => exact inductionHypothesis
      | some resultHash =>
        simp only [Bool.not_true, Bool.false_eq_true, if_false, if_true, noProgressFrom_some,
          Option.toList_some, List.cons_append, List.nil_append]
        rw [Nat.add_comm]
    · simp only [Bool.not_eq_true] at isCall
      simp only [isCall, Bool.not_false, if_true, Bool.false_eq_true, if_false, Option.toList_none,
        List.nil_append]
      exact inductionHypothesis

theorem reverse_recordedOutcomes (history : List ToolCallRecord) (toolName argsHash : String) :
    (recordedOutcomes history toolName argsHash).reverse =
      recordedOutcomes history.reverse toolName argsHash :=
  (List.filterMap_reverse ..).symm

/-- A list starts with a run of its own first member as long as the detector counts. -/
theorem replicate_takeWhile_starts {α : Type} [DecidableEq α] (value : α) (values : List α) :
    List.replicate (values.takeWhile (· = value)).length value <+: values := by
  have equal : values.takeWhile (· = value) =
      List.replicate (values.takeWhile (· = value)).length value :=
    List.eq_replicate_iff.2 ⟨rfl, fun member isMember => by
      simpa using List.mem_takeWhile_imp isMember⟩
  rw [← equal]
  exact List.takeWhile_prefix _

variable {history : List ToolCallRecord}

/-- A streak of `count` is `count` equal outcomes. -/
theorem repeats_of_le_streak {toolName argsHash : String}
    {count : Nat} (le : count ≤ (getNoProgressStreak history toolName argsHash).1) :
    Repeats history toolName argsHash count := by
  rw [getNoProgressStreak, noProgressFrom_none] at le
  rw [Repeats, reverse_recordedOutcomes]
  cases outcomes : recordedOutcomes history.reverse toolName argsHash with
  | nil =>
    rw [outcomes] at le
    exact ⟨"", by rw [Nat.le_zero.1 le]; exact List.nil_prefix⟩
  | cons latest earlier =>
    rw [outcomes] at le
    refine ⟨latest, ?_⟩
    have whole := replicate_takeWhile_starts latest (latest :: earlier)
    rw [List.takeWhile_cons_of_pos (by simp), List.length_cons] at whole
    refine List.IsPrefix.trans ?_ whole
    rw [List.prefix_replicate_iff, List.length_replicate]
    exact ⟨le, rfl⟩

/-- `count` equal outcomes are a streak of at least `count`. -/
theorem le_streak_of_repeats {toolName argsHash resultHash : String} {count : Nat}
    (repeats : List.replicate count resultHash <+:
      (recordedOutcomes history toolName argsHash).reverse) :
    count ≤ (getNoProgressStreak history toolName argsHash).1 := by
  rw [getNoProgressStreak, noProgressFrom_none]
  rw [reverse_recordedOutcomes] at repeats
  obtain ⟨older, decomposed⟩ := repeats
  rw [← decomposed]
  cases count with
  | zero => exact Nat.zero_le _
  | succ count =>
    rw [List.replicate_succ, List.cons_append]
    refine Nat.succ_le_succ ?_
    rw [List.takeWhile_append_of_pos (by simp), List.length_append, List.length_replicate]
    exact Nat.le_add_right _ _

/-! ### Repeating one call -/

section Repeating

variable {Params Outcome : Type} (digests : Digests Params Outcome) {resultHash : String}

/-- One attempt after another of the same call, each recorded with its id and then its outcome. -/
def repeatCall (toolName : String) (params : Params) (config : ToolLoopDetectionConfig)
    (attempts : List (Option String × Outcome)) (history : List ToolCallRecord) :
    List ToolCallRecord :=
  attempts.foldl (fun history attempt =>
    recordToolCallOutcome digests (recordToolCall digests history toolName params attempt.1 config)
      toolName params attempt.1 attempt.2 config) history

theorem historySize_pos (config : ToolLoopDetectionConfig) :
    0 < (resolveLoopDetectionConfig config).historySize := by
  show 0 < asPositiveInt config.historySize 30
  cases config.historySize with
  | none => decide
  | some size =>
    rw [asPositiveInt]
    split <;> omega

/-- After an attempt the window, read from its newest record on, is the attempt with its outcome
and what was there before, cut to size. -/
theorem reverse_recorded_attempt {toolName : String} {params : Params} {outcome : Outcome}
    (recorded : nonEmpty (digests.hashToolOutcome toolName params outcome) = some resultHash)
    (history : List ToolCallRecord) (toolCallId : Option String)
    (config : ToolLoopDetectionConfig) :
    (recordToolCallOutcome digests
    (recordToolCall digests history toolName params toolCallId config)
        toolName params toolCallId outcome config).reverse =
      ToolCallRecord.mk toolName (hashToolCall digests toolName params) toolCallId
          (some resultHash) ::
        history.reverse.take ((resolveLoopDetectionConfig config).historySize - 1) := by
  have sizePositive := historySize_pos config
  have awaited : ∀ kept : List ToolCallRecord,
      settleNewest toolName (hashToolCall digests toolName params) toolCallId resultHash
          (kept ++ [ToolCallRecord.mk toolName (hashToolCall digests toolName params) toolCallId
            none]).reverse =
        some (ToolCallRecord.mk toolName (hashToolCall digests toolName params) toolCallId
          (some resultHash) :: kept.reverse) := by
    intro kept
    rw [List.reverse_append, List.reverse_singleton, List.singleton_append, settleNewest,
      if_pos (by simp [ToolCallRecord.awaits, ToolCallRecord.isCall])]
  -- What the push leaves of the window: all of it, or all but its oldest record.
  obtain ⟨kept, pushed, cut⟩ : ∃ kept : List ToolCallRecord,
      recordToolCall digests history toolName params toolCallId config =
          kept ++ [ToolCallRecord.mk toolName (hashToolCall digests toolName params) toolCallId
            none] ∧
        kept.reverse.take ((resolveLoopDetectionConfig config).historySize - 1) =
          history.reverse.take ((resolveLoopDetectionConfig config).historySize - 1) := by
    rw [recordToolCall]
    split
    · rename_i full
      rw [List.length_append, List.length_singleton] at full
      refine ⟨history.drop 1, ?_, ?_⟩
      · rw [List.drop_append_of_le_length (by omega)]
      · rw [List.reverse_drop, List.take_take, Nat.min_eq_left (by omega)]
    · exact ⟨history, rfl, rfl⟩
  rw [recordToolCallOutcome, recorded, pushed]
  simp only [awaited, List.reverse_drop, List.reverse_reverse, List.length_reverse,
    List.length_cons]
  have sizes : kept.length + 1 -
      (kept.length + 1 - (resolveLoopDetectionConfig config).historySize) =
        min ((resolveLoopDetectionConfig config).historySize - 1) kept.reverse.length + 1 := by
    rw [List.length_reverse]
    omega
  rw [sizes, List.take_succ_cons, ← List.take_take, List.take_length, cut]

/-- A window whose newest `count` records are calls of one tool, with given arguments and one
outcome. -/
def NewestAre (count : Nat) (history : List ToolCallRecord)
    (toolName argsHash resultHash : String) :
    Prop :=
  ∃ recent older, history.reverse = recent ++ older ∧ recent.length = count ∧
    ∀ record ∈ recent, record.isCall toolName argsHash = true ∧
      nonEmpty record.resultHash = some resultHash

theorem NewestAre.starts_with_outcomes {count : Nat} {history : List ToolCallRecord}
    {toolName argsHash resultHash : String}
    (newest : NewestAre count history toolName argsHash resultHash) :
    List.replicate count resultHash <+: (recordedOutcomes history toolName argsHash).reverse := by
  obtain ⟨recent, older, decomposed, rfl, same⟩ := newest
  have outcomes : recordedOutcomes recent toolName argsHash =
      List.replicate recent.length resultHash := by
    clear decomposed
    induction recent with
    | nil => rfl
    | cons record rest inductionHypothesis =>
      obtain ⟨isCall, outcome⟩ := same record List.mem_cons_self
      rw [recordedOutcomes_cons, isCall, if_pos rfl, outcome,
        inductionHypothesis fun other member => same other (List.mem_cons_of_mem _ member)]
      rfl
  rw [reverse_recordedOutcomes, decomposed, recordedOutcomes, List.filterMap_append, ← outcomes]
  exact List.prefix_append _ _

/-- One more attempt with the same outcome makes the run one longer, as far as the window
reaches. -/
theorem NewestAre.attempt {count : Nat} {history : List ToolCallRecord} {toolName : String}
    {params : Params} {config : ToolLoopDetectionConfig}
    (newest : NewestAre (min count (resolveLoopDetectionConfig config).historySize) history toolName
      (hashToolCall digests toolName params) resultHash)
    {outcome : Outcome} (toolCallId : Option String)
    (recorded : nonEmpty (digests.hashToolOutcome toolName params outcome) = some resultHash) :
    NewestAre (min (count + 1) (resolveLoopDetectionConfig config).historySize)
      (recordToolCallOutcome digests
        (recordToolCall digests history toolName params toolCallId config)
        toolName params toolCallId outcome config)
      toolName (hashToolCall digests toolName params) resultHash := by
  have sizePositive := historySize_pos config
  obtain ⟨recent, older, decomposed, length, same⟩ := newest
  refine ⟨_ :: recent.take ((resolveLoopDetectionConfig config).historySize - 1), _,
    (reverse_recorded_attempt digests recorded history toolCallId config).trans
      (by rw [decomposed, List.take_append]; rfl), ?_, ?_⟩
  · rw [List.length_cons, List.length_take, length]
    omega
  · intro record member
    rcases List.mem_cons.1 member with rfl | earlier
    · have outcomeSet := ((nonEmpty_eq_some_iff _ _).1 recorded).2
      exact ⟨by simp [ToolCallRecord.isCall], (nonEmpty_eq_some_iff _ _).2 ⟨rfl, outcomeSet⟩⟩
    · exact same record (List.mem_of_mem_take earlier)

/-- After any number of attempts with one outcome, the newest records are these attempts, as many
as the window holds. -/
theorem newestAre_repeatCall {toolName : String} {params : Params}
    (config : ToolLoopDetectionConfig) (history : List ToolCallRecord)
    (attempts : List (Option String × Outcome))
    (recorded : ∀ attempt ∈ attempts,
      nonEmpty (digests.hashToolOutcome toolName params attempt.2) = some resultHash) :
    NewestAre (min attempts.length (resolveLoopDetectionConfig config).historySize)
      (repeatCall digests toolName params config attempts history) toolName
      (hashToolCall digests toolName params) resultHash := by
  induction attempts using List.reverseRecOn with
  | nil => exact ⟨[], history.reverse, rfl, (Nat.zero_min _).symm, List.forall_mem_nil _⟩
  | append_singleton earlier attempt inductionHypothesis =>
    have sofar := inductionHypothesis fun other member =>
      recorded other (List.mem_append_left _ member)
    rw [repeatCall, List.foldl_append, List.length_append]
    exact sofar.attempt digests attempt.1 (recorded attempt (List.mem_append_right _ (by simp)))

end Repeating

/-! ### The alternating tail -/

/-- The signatures of the counted tail alternate. -/
theorem alternation_alternatingTailCount (expected next : String) (records : List ToolCallRecord) :
    (records.take (alternatingTailCount expected next records)).map ToolCallRecord.argsHash =
      alternation (alternatingTailCount expected next records) expected next := by
  induction records generalizing expected next with
  | nil => rfl
  | cons record rest inductionHypothesis =>
    rw [alternatingTailCount]
    split
    · rfl
    · rename_i matched
      rw [List.take_succ_cons, List.map_cons, inductionHypothesis, alternation,
        Decidable.not_not.1 matched]

theorem alternatingTailCount_le (expected next : String) (records : List ToolCallRecord) :
    alternatingTailCount expected next records ≤ records.length := by
  induction records generalizing expected next with
  | nil => exact Nat.zero_le _
  | cons record rest inductionHypothesis =>
    rw [alternatingTailCount]
    split
    · exact Nat.zero_le _
    · exact Nat.succ_le_succ (inductionHypothesis next expected)

/-- Evidence of no progress is one outcome for each side, which all its records have. -/
theorem outcomes_of_pingPongEvidence {last other : String} {firstHashA firstHashB : Option String}
    {records : List ToolCallRecord}
    (evidence : pingPongEvidence last other firstHashA firstHashB records = true) :
    ∃ outcomeA outcomeB, (∀ first, firstHashA = some first → outcomeA = first) ∧
      (∀ first, firstHashB = some first → outcomeB = first) ∧
      ∀ record ∈ records,
        record.resultHash = some (if record.argsHash = last then outcomeA else outcomeB) := by
  induction records generalizing firstHashA firstHashB with
  | nil =>
    rw [pingPongEvidence, Bool.and_eq_true, Option.isSome_iff_exists, Option.isSome_iff_exists]
      at evidence
    obtain ⟨⟨outcomeA, rfl⟩, outcomeB, rfl⟩ := evidence
    exact ⟨outcomeA, outcomeB, fun _ => Option.some.inj, fun _ => Option.some.inj,
      List.forall_mem_nil _⟩
  | cons record rest inductionHypothesis =>
    rw [pingPongEvidence] at evidence
    cases recorded : nonEmpty record.resultHash with
    | none =>
      rw [recorded] at evidence
      exact absurd evidence Bool.false_ne_true
    | some resultHash =>
      have outcome := ((nonEmpty_eq_some_iff _ _).1 recorded).1
      simp only [recorded] at evidence
      by_cases isLast : record.argsHash = last
      · rw [if_pos isLast] at evidence
        cases firstHashA with
        | none =>
          obtain ⟨outcomeA, outcomeB, same, other, rest⟩ := inductionHypothesis evidence
          refine ⟨outcomeA, outcomeB, by simp, other, List.forall_mem_cons.2 ⟨?_, rest⟩⟩
          rw [if_pos isLast, outcome, same _ rfl]
        | some first =>
          rw [Bool.and_eq_true, decide_eq_true_iff] at evidence
          obtain ⟨outcomeA, outcomeB, same, other, rest⟩ := inductionHypothesis evidence.2
          refine ⟨outcomeA, outcomeB, same, other, List.forall_mem_cons.2 ⟨?_, rest⟩⟩
          rw [if_pos isLast, outcome, ← evidence.1, same _ rfl]
      · rw [if_neg isLast] at evidence
        split at evidence
        · cases firstHashB with
          | none =>
            obtain ⟨outcomeA, outcomeB, same, other, rest⟩ := inductionHypothesis evidence
            refine ⟨outcomeA, outcomeB, same, by simp, List.forall_mem_cons.2 ⟨?_, rest⟩⟩
            rw [if_neg isLast, outcome, other _ rfl]
          | some first =>
            rw [Bool.and_eq_true, decide_eq_true_iff] at evidence
            obtain ⟨outcomeA, outcomeB, same, other, rest⟩ := inductionHypothesis evidence.2
            refine ⟨outcomeA, outcomeB, same, other, List.forall_mem_cons.2 ⟨?_, rest⟩⟩
            rw [if_neg isLast, outcome, ← evidence.1, other _ rfl]
        · exact absurd evidence Bool.false_ne_true

/-- A counted alternation with evidence is one in the window, one record shorter. -/
theorem pingPongs_of_streak {currentSignature : String} {count : Nat}
    (evidence : (getPingPongStreak history currentSignature).noProgressEvidence = true)
    (le : count ≤ (getPingPongStreak history currentSignature).count) :
    PingPongs history currentSignature (count - 1) := by
  rw [getPingPongStreak] at evidence le
  cases newest : history.reverse with
  | nil =>
    rw [newest] at evidence
    exact absurd evidence Bool.false_ne_true
  | cons last earlier =>
    simp only [newest] at evidence le
    cases found : earlier.find? fun record => record.argsHash ≠ last.argsHash with
    | none =>
      rw [found] at evidence
      exact absurd evidence Bool.false_ne_true
    | some other =>
      have different : other.argsHash ≠ last.argsHash := by
        simpa using List.find?_some found
      simp only [found] at evidence le
      split at evidence
      · exact absurd evidence Bool.false_ne_true
      rename_i named
      rw [if_neg named] at le
      split at evidence
      · exact absurd evidence Bool.false_ne_true
      rename_i alternating
      rw [if_neg alternating] at le
      simp only [Bool.or_eq_true, decide_eq_true_iff, not_or, Decidable.not_not] at alternating
      obtain ⟨-, current⟩ := alternating
      obtain ⟨outcomeA, outcomeB, -, -, outcomes⟩ := outcomes_of_pingPongEvidence evidence
      rw [current]
      refine ⟨last.argsHash, outcomeA, outcomeB, different.symm, ?_⟩
      obtain ⟨tail, tail_eq⟩ : ∃ tail : Nat,
          tail = alternatingTailCount last.argsHash other.argsHash (last :: earlier) := ⟨_, rfl⟩
      have inReach : tail ≤ history.length := by
        rw [← List.length_reverse, newest, tail_eq]
        exact alternatingTailCount_le _ _ _
      have taken : (history.drop (history.length - tail)).reverse = history.reverse.take tail := by
        rw [List.reverse_drop, Nat.sub_sub_self inReach]
      have pairs : (history.reverse.take tail).map
            (fun record => (record.argsHash, record.resultHash)) =
          alternation tail (last.argsHash, some outcomeA) (other.argsHash, some outcomeB) := by
        calc _ = ((history.reverse.take tail).map ToolCallRecord.argsHash).map
              fun signature =>
                (signature, some (if signature = last.argsHash then outcomeA else outcomeB)) := by
              rw [List.map_map]
              refine List.map_congr_left fun record member => ?_
              rw [← taken, List.mem_reverse, tail_eq] at member
              rw [Function.comp_apply, outcomes record member]
          _ = _ := by
              rw [newest, tail_eq, alternation_alternatingTailCount, map_alternation, if_pos rfl,
                if_neg different]
      refine (alternation_mono (?_ : count - 1 ≤ tail) _ _).trans ?_
      · rw [tail_eq]
        exact Nat.sub_le_of_le_add le
      · rw [← pairs]
        exact (List.take_prefix _ _).map _

/-! ### The breaker -/

section Breaker

variable {Params Outcome : Type} (digests : Digests Params Outcome)

/-- What a critical result says of the window. -/
theorem evidence_of_critical {history : List ToolCallRecord} {toolName : String} {params : Params}
    {config : ToolLoopDetectionConfig} {detection : LoopDetection}
    (detected : detectToolCallLoop digests history toolName params config = some detection)
    (critical : detection.level = .critical) :
    Repeats history toolName (hashToolCall digests toolName params)
        (resolveLoopDetectionConfig config).globalCircuitBreakerThreshold ∨
      (isKnownPollToolCall digests toolName params = true ∧
        Repeats history toolName (hashToolCall digests toolName params)
          (resolveLoopDetectionConfig config).criticalThreshold) ∨
      PingPongs history (hashToolCall digests toolName params)
        ((resolveLoopDetectionConfig config).criticalThreshold - 1) := by
  rw [detectToolCallLoop] at detected
  dsimp only at detected
  split at detected
  · exact absurd detected nofun
  split at detected
  · rename_i streak
    exact .inl (repeats_of_le_streak streak)
  split at detected
  · rename_i poll
    simp only [Bool.and_eq_true, decide_eq_true_iff] at poll
    exact .inr (.inl ⟨poll.1.1, repeats_of_le_streak poll.2⟩)
  split at detected
  · obtain rfl := Option.some.inj detected
    exact absurd critical nofun
  split at detected
  · rename_i pingPong
    simp only [Bool.and_eq_true, decide_eq_true_iff] at pingPong
    exact .inr (.inr (pingPongs_of_streak pingPong.2 pingPong.1.2))
  split at detected
  · obtain rfl := Option.some.inj detected
    exact absurd critical nofun
  split at detected
  · obtain rfl := Option.some.inj detected
    exact absurd critical nofun
  · exact absurd detected nofun

/-- A streak as long as the breaker asks for is critical. -/
theorem critical_of_repeats {history : List ToolCallRecord} {toolName resultHash : String}
    {params : Params} {config : ToolLoopDetectionConfig}
    (enabled : config.enabled = some true)
    (repeats : List.replicate (resolveLoopDetectionConfig config).globalCircuitBreakerThreshold
        resultHash <+:
      (recordedOutcomes history toolName (hashToolCall digests toolName params)).reverse) :
    ∃ detection, detectToolCallLoop digests history toolName params config = some detection ∧
      detection.level = .critical := by
  have on : (resolveLoopDetectionConfig config).enabled = true := by
    rw [resolveLoopDetectionConfig, enabled]
    rfl
  have streak := le_streak_of_repeats repeats
  rw [detectToolCallLoop]
  simp only [on, Bool.not_true, Bool.false_eq_true, if_false, if_pos streak]
  exact ⟨_, rfl, rfl⟩

/-- The breaker trips on repeated outcomes and on nothing else. With a window that holds as many
records as the breaker asks for, whatever it holds before, every attempt after that many
repetitions of one call with one outcome is critical. And for any window a critical result says
that the newest outcomes of the call are equal, as many as the breaker's threshold or, for a
polling call, as the critical one, or that the window ends in calls which alternate between two
signatures with one outcome each, and which together with the attempt reach the critical
threshold. -/
theorem breaker_trips_on_repeated_outcomes (config : ToolLoopDetectionConfig)
    (enabled : config.enabled = some true) (toolName : String) (params : Params)
    (history : List ToolCallRecord) :
    (∀ (resultHash : String) (attempts : List (Option String × Outcome)),
      (resolveLoopDetectionConfig config).globalCircuitBreakerThreshold ≤
          (resolveLoopDetectionConfig config).historySize →
      (∀ attempt ∈ attempts,
        nonEmpty (digests.hashToolOutcome toolName params attempt.2) = some resultHash) →
      (resolveLoopDetectionConfig config).globalCircuitBreakerThreshold ≤ attempts.length →
      ∃ detection,
        detectToolCallLoop digests (repeatCall digests toolName params config attempts history)
          toolName params config = some detection ∧ detection.level = .critical) ∧
    ∀ detection, detectToolCallLoop digests history toolName params config = some detection →
      detection.level = .critical →
      Repeats history toolName (hashToolCall digests toolName params)
          (resolveLoopDetectionConfig config).globalCircuitBreakerThreshold ∨
        (isKnownPollToolCall digests toolName params = true ∧
          Repeats history toolName (hashToolCall digests toolName params)
            (resolveLoopDetectionConfig config).criticalThreshold) ∨
        PingPongs history (hashToolCall digests toolName params)
          ((resolveLoopDetectionConfig config).criticalThreshold - 1) := by
  refine ⟨fun resultHash attempts roomy recorded enough => ?_, fun detection detected critical =>
    evidence_of_critical digests detected critical⟩
  have newest := newestAre_repeatCall digests config history attempts recorded
  have within : List.replicate (resolveLoopDetectionConfig config).globalCircuitBreakerThreshold
      resultHash <+: List.replicate
        (min attempts.length (resolveLoopDetectionConfig config).historySize) resultHash := by
    rw [List.prefix_replicate_iff, List.length_replicate]
    exact ⟨le_min enough roomy, rfl⟩
  exact critical_of_repeats digests enabled (within.trans newest.starts_with_outcomes)

end Breaker

/-- Digests that keep the text itself. -/
def plainDigests : Digests String String where
  digestStable := id
  action := fun _ => none
  hashToolOutcome := fun _ _ outcome => some outcome

/-- Three repetitions trip a breaker of three. -/
theorem breaker_trips_on_third_repetition :
    ∃ detection, detectToolCallLoop plainDigests
      (repeatCall plainDigests "exec" "ls"
        { enabled := some true, warningThreshold := some 1, criticalThreshold := some 2,
          globalCircuitBreakerThreshold := some 3 } (List.replicate 3 (none, "done")) [])
      "exec" "ls"
      { enabled := some true, warningThreshold := some 1, criticalThreshold := some 2,
        globalCircuitBreakerThreshold := some 3 } = some detection ∧ detection.level = .critical :=
  (breaker_trips_on_repeated_outcomes plainDigests
    { enabled := some true, warningThreshold := some 1, criticalThreshold := some 2,
      globalCircuitBreakerThreshold := some 3 } rfl "exec" "ls" []).1 "done" _ (by decide)
    (fun _ member => (List.eq_of_mem_replicate member) ▸ by decide) (by decide)

/-- A window of five never trips a breaker of thirty, and two calls in turn, each made once with
its outcome, are critical at a threshold of three. -/
theorem breaker_misses_and_trips_early :
    (resolveLoopDetectionConfig
        { enabled := some true, historySize := some 5 }).globalCircuitBreakerThreshold = 30 ∧
      detectToolCallLoop plainDigests
        (repeatCall plainDigests "exec" "ls" { enabled := some true, historySize := some 5 }
          (List.replicate 30 (none, "done")) [])
        "exec" "ls" { enabled := some true, historySize := some 5 } = none ∧
      (detectToolCallLoop plainDigests
        [{ toolName := "exec", argsHash := "exec:ls", resultHash := some "done" },
          { toolName := "read", argsHash := "read:a", resultHash := some "text" }]
        "exec" "ls"
        { enabled := some true, warningThreshold := some 1, criticalThreshold := some 3 }).map
          LoopDetection.level = some .critical := by
  decide +kernel

end OpenClaw.Agents
