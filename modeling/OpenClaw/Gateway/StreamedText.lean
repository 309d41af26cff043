/-
This file is how the gateway merges the assistant text of a run from its events, from
`server-chat.ts`, compared with the texts of the messages themselves.

An event carries the text of the current message so far and what has just been added to it.
While the first message is written the text so far goes on where the buffer ends, and is taken
as it is. Behind that message it never does, so what has been added is appended; but not what
of it the buffer already ends with, which is meant for events that come twice and meets every
repetition in the text as well. Once a character is lost so it stays lost.
-/

import OpenClaw.Markdown.IR

namespace OpenClaw.StreamedText

open Markdown (CodeUnit units)

/-! ### Merging -/

/-- The loop over the overlaps, from the longest down. -/
def longestOverlap (base suffix : List CodeUnit) : Nat → Nat
  | 0 => 0
  | overlap + 1 =>
    if base.drop (base.length - (overlap + 1)) = suffix.take (overlap + 1) then overlap + 1
    else longestOverlap base suffix overlap

def appendUniqueSuffix (base suffix : List CodeUnit) : List CodeUnit :=
  if suffix = [] then base
  else if base = [] then suffix
  else if suffix <:+ base then base
  else
    base ++ suffix.drop (longestOverlap base suffix (min base.length suffix.length))

def resolveMergedAssistantText (previousText nextText nextDelta : List CodeUnit) :
    List CodeUnit :=
  if nextText ≠ [] ∧ previousText ≠ [] ∧ previousText <+: nextText then nextText
  else if nextText ≠ [] ∧ previousText ≠ [] ∧ nextText <+: previousText ∧ nextDelta = [] then
    previousText
  else if nextDelta ≠ [] then appendUniqueSuffix previousText nextDelta
  else if nextText ≠ [] then nextText
  else previousText

/-! ### Events of a run -/

/-- What is added to a message at once. -/
abbrev Delta := {text : List CodeUnit // text ≠ []}

/-- The data of an assistant event. -/
structure AssistantEvent where
  text : List CodeUnit
  delta : List CodeUnit
  deriving DecidableEq

/-- What has been said when a delta is: the messages before, and of its own what precedes it. -/
structure Cue where
  earlier : List CodeUnit
  spoken : List CodeUnit
  delta : Delta

/-- The event of a delta carries the text of the message up to it. -/
def Cue.event (cue : Cue) : AssistantEvent := ⟨cue.spoken ++ cue.delta, cue.delta⟩

def textOf (message : List Delta) : List CodeUnit := message.flatMap (·.val)

def messageCues (earlier : List CodeUnit) : List CodeUnit → List Delta → List Cue
  | _, [] => []
  | spoken, delta :: rest =>
    ⟨earlier, spoken, delta⟩ :: messageCues earlier (spoken ++ delta) rest

def runCues : List CodeUnit → List (List Delta) → List Cue
  | _, [] => []
  | earlier, message :: rest =>
    messageCues earlier [] message ++ runCues (earlier ++ textOf message) rest

/-- The events of a run in which these messages are written. -/
def events (messages : List (List Delta)) : List AssistantEvent :=
  (runCues [] messages).map Cue.event

/-- The buffer after these events. -/
def mergedText (buffer : List CodeUnit) (events : List AssistantEvent) : List CodeUnit :=
  events.foldl (fun previousText event =>
    resolveMergedAssistantText previousText event.text event.delta) buffer

/-! ### Overlaps -/

/-- The second text starts with something that the first one ends with. -/
def Overlaps (base suffix : List CodeUnit) : Prop :=
  ∃ common, common ≠ [] ∧ common <:+ base ∧ common <+: suffix

/-- The loop finds nothing exactly if there is no overlap of these lengths. -/
theorem longestOverlap_eq_zero_iff (base suffix : List CodeUnit) {bound : Nat}
    (inside : bound ≤ base.length ∧ bound ≤ suffix.length) :
    longestOverlap base suffix bound = 0 ↔
      ∀ common, common.length ≤ bound → common <:+ base → common <+: suffix → common = [] := by
  induction bound with
  | zero =>
    exact iff_of_true rfl fun common short _ _ => List.length_eq_zero_iff.1 (Nat.le_zero.1 short)
  | succ overlap inductionHypothesis =>
    rw [longestOverlap]
    split
    next same =>
      refine iff_of_false (Nat.succ_ne_zero _) fun none => ?_
      have empty := none _ (List.length_take_le _ _) (same ▸ List.drop_suffix _ _)
        ( List.take_prefix (overlap + 1) suffix)
      have taken : (suffix.take (overlap + 1)).length = overlap + 1 := by
        rw [List.length_take]
        omega
      rw [empty] at taken
      exact absurd taken (Nat.succ_ne_zero _).symm
    next different =>
      rw [inductionHypothesis ⟨by omega, by omega⟩]
      refine forall_congr' fun common => ⟨fun none short atEnd atStart => ?_,
        fun none short => none (by omega)⟩
      refine none ?_ atEnd atStart
      by_contra long
      have isLong : common.length = overlap + 1 := by omega
      refine different ?_
      rw [← isLong, ← List.suffix_iff_eq_drop.1 atEnd, ← List.prefix_iff_eq_take.1 atStart]

theorem longestOverlap_eq_zero_iff_not_overlaps (base suffix : List CodeUnit) :
    longestOverlap base suffix (min base.length suffix.length) = 0 ↔ ¬Overlaps base suffix := by
  rw [longestOverlap_eq_zero_iff _ _ ⟨min_le_left _ _, min_le_right _ _⟩]
  constructor
  · rintro none ⟨common, some, atEnd, atStart⟩
    exact some (none common (le_min atEnd.length_le atStart.length_le) atEnd atStart)
  · intro free common _ atEnd atStart
    by_contra some
    exact free ⟨common, some, atEnd, atStart⟩

theorem appendUniqueSuffix_of_not_overlaps {base suffix : List CodeUnit}
    (free : ¬Overlaps base suffix) : appendUniqueSuffix base suffix = base ++ suffix := by
  unfold appendUniqueSuffix
  split
  next noSuffix => rw [noSuffix, List.append_nil]
  next someSuffix =>
    split
    next noBase => rw [noBase, List.nil_append]
    · rw [if_neg fun ends => free ⟨suffix, someSuffix, ends, List.prefix_rfl⟩,
        (longestOverlap_eq_zero_iff_not_overlaps base suffix).2 free, List.drop_zero]

theorem length_appendUniqueSuffix_le (base suffix : List CodeUnit) :
    (appendUniqueSuffix base suffix).length ≤ base.length + suffix.length := by
  unfold appendUniqueSuffix
  split
  · exact Nat.le_add_right _ _
  · split
    · exact Nat.le_add_left _ _
    · split
      · exact Nat.le_add_right _ _
      · rw [List.length_append, List.length_drop]
        omega

/-- What overlaps is lost. -/
theorem length_appendUniqueSuffix_lt {base suffix : List CodeUnit}
    (overlaps : Overlaps base suffix) :
    (appendUniqueSuffix base suffix).length < base.length + suffix.length := by
  have found : longestOverlap base suffix (min base.length suffix.length) ≠ 0 := fun none =>
    (longestOverlap_eq_zero_iff_not_overlaps base suffix).1 none overlaps
  obtain ⟨common, some, atEnd, atStart⟩ := overlaps
  have positive := List.length_pos_iff.2 some
  have longBase := atEnd.length_le
  have longSuffix := atStart.length_le
  unfold appendUniqueSuffix
  split
  next noSuffix =>
    rw [noSuffix, List.length_nil] at longSuffix
    omega
  · split
    next noBase =>
      rw [noBase, List.length_nil] at longBase
      omega
    · split
      · omega
      · rw [List.length_append, List.length_drop]
        omega

/-! ### One event -/

/-- What the messages before and the message so far add up to, with this delta. -/
def Cue.whole (cue : Cue) : List CodeUnit := cue.earlier ++ cue.spoken ++ cue.delta

/-- The delta takes up nothing of what stands before it, or nothing of an earlier message does. -/
def Cue.Fresh (cue : Cue) : Prop :=
  cue.earlier ≠ [] → ¬Overlaps (cue.earlier ++ cue.spoken) cue.delta

/-- A text that goes on as the buffer does although it leaves something out at its start repeats
the end of the buffer. -/
theorem overlaps_of_start {earlier spoken delta : List CodeUnit} (some : earlier ≠ [])
    (goesOn : earlier ++ spoken <+: spoken ++ delta) : Overlaps (earlier ++ spoken) delta := by
  obtain ⟨rest, whole⟩ := goesOn
  have lengths : earlier.length + spoken.length + rest.length =
      spoken.length + delta.length := by
    simpa [Nat.add_assoc] using congrArg List.length whole
  have same : earlier ++ spoken = spoken ++ delta.take earlier.length := by
    have taken := congrArg (List.take (earlier ++ spoken).length) whole
    rw [List.take_left' rfl, List.take_append, List.take_of_length_le (by simp)] at taken
    rw [taken, List.length_append, Nat.add_sub_cancel]
  refine ⟨delta.take earlier.length, fun none => ?_, ⟨spoken, same.symm⟩, List.take_prefix _ _⟩
  rcases List.take_eq_nil_iff.1 none with noEarlier | noDelta
  · exact some (List.length_eq_zero_iff.1 noEarlier)
  · rw [noDelta, List.length_nil] at lengths
    have := List.length_pos_iff.2 some
    omega

/-- An event behind a buffer that is no start of its text, or of an earlier message. -/
theorem resolve_of_other_start {previousText spoken : List CodeUnit} {delta : Delta}
    (different : ¬(previousText ≠ [] ∧ previousText <+: spoken ++ delta)) :
    resolveMergedAssistantText previousText (spoken ++ delta) delta =
      appendUniqueSuffix previousText delta := by
  unfold resolveMergedAssistantText
  rw [if_neg fun both => different both.2, if_neg fun both => delta.2 both.2.2.2,
    if_pos delta.2]

theorem resolve_of_start {previousText spoken : List CodeUnit} {delta : Delta}
    (some : previousText ≠ []) (goesOn : previousText <+: spoken ++ delta) :
    resolveMergedAssistantText previousText (spoken ++ delta) delta = spoken ++ delta := by
  unfold resolveMergedAssistantText
  rw [if_pos ⟨List.append_ne_nil_of_right_ne_nil _ delta.2, some, goesOn⟩]

/-- The buffer after an event whose delta is fresh, with all that was said before in it. -/
theorem resolve_fresh {cue : Cue} (fresh : cue.Fresh) :
    resolveMergedAssistantText (cue.earlier ++ cue.spoken) cue.event.text cue.event.delta =
      cue.whole := by
  obtain ⟨earlier, spoken, delta⟩ := cue
  dsimp only [Cue.Fresh, Cue.event, Cue.whole] at fresh ⊢
  by_cases first : earlier = []
  · subst first
    simp only [List.nil_append]
    by_cases noneSpoken : spoken = []
    · subst noneSpoken
      rw [resolve_of_other_start fun both => both.1 rfl]
      refine appendUniqueSuffix_of_not_overlaps ?_
      rintro ⟨common, some, atEnd, -⟩
      exact some (List.suffix_nil.1 atEnd)
    · exact resolve_of_start noneSpoken (List.prefix_append _ _)
  · have free := fresh first
    rw [resolve_of_other_start fun both => free (overlaps_of_start first both.2)]
    exact appendUniqueSuffix_of_not_overlaps free

theorem length_resolve_of_start_lt {cue : Cue} {buffer : List CodeUnit} (some : buffer ≠ [])
    (more : cue.earlier ≠ []) (goesOn : buffer <+: cue.spoken ++ cue.delta) :
    (resolveMergedAssistantText buffer cue.event.text cue.event.delta).length <
      cue.whole.length := by
  have positive := List.length_pos_iff.2 more
  rw [Cue.event, resolve_of_start some goesOn, Cue.whole]
  simp only [List.length_append]
  omega

theorem resolve_stale {cue : Cue} (stale : ¬cue.Fresh) :
    (resolveMergedAssistantText (cue.earlier ++ cue.spoken) cue.event.text
      cue.event.delta).length < cue.whole.length := by
  obtain ⟨more, overlaps⟩ := Classical.not_imp.1 stale
  by_cases goesOn : cue.earlier ++ cue.spoken ≠ [] ∧
      cue.earlier ++ cue.spoken <+: cue.spoken ++ cue.delta
  · exact length_resolve_of_start_lt goesOn.1 more goesOn.2
  · rw [Cue.event, resolve_of_other_start goesOn, Cue.whole, List.length_append]
    exact length_appendUniqueSuffix_lt (not_not.1 overlaps)

/-- Once characters are lost they stay lost. -/
theorem resolve_short {cue : Cue} {buffer : List CodeUnit} (more : cue.earlier ≠ [])
    (short : buffer.length < (cue.earlier ++ cue.spoken).length) :
    (resolveMergedAssistantText buffer cue.event.text cue.event.delta).length <
      cue.whole.length := by
  by_cases goesOn : buffer ≠ [] ∧ buffer <+: cue.spoken ++ cue.delta
  · exact length_resolve_of_start_lt goesOn.1 more goesOn.2
  · rw [Cue.event, resolve_of_other_start goesOn, Cue.whole, List.length_append]
    exact (length_appendUniqueSuffix_le buffer cue.delta).trans_lt
      (Nat.add_lt_add_right short _)

/-! ### A message, and a run -/

/-- How a buffer with all that was said fares: all cues fresh and nothing is lost, or some is. -/
def KeepsIfFresh (cues : List Cue) (before after : List CodeUnit) : Prop :=
  ((∀ cue ∈ cues, cue.Fresh) → mergedText before (cues.map Cue.event) = after) ∧
    ((¬∀ cue ∈ cues, cue.Fresh) → (mergedText before (cues.map Cue.event)).length < after.length)

theorem mergedText_cons (buffer : List CodeUnit) (cue : Cue) (rest : List Cue) :
    mergedText buffer ((cue :: rest).map Cue.event) =
      mergedText (resolveMergedAssistantText buffer cue.event.text cue.event.delta)
        (rest.map Cue.event) := rfl

theorem mergedText_append (buffer : List CodeUnit) (first second : List Cue) :
    mergedText buffer ((first ++ second).map Cue.event) =
      mergedText (mergedText buffer (first.map Cue.event)) (second.map Cue.event) := by
  unfold mergedText
  rw [List.map_append, List.foldl_append]

/-- A message is merged to something too short when the buffer was. -/
theorem message_short {earlier spoken buffer : List CodeUnit} {deltas : List Delta}
    (more : earlier ≠ []) (short : buffer.length < (earlier ++ spoken).length) :
    (mergedText buffer ((messageCues earlier spoken deltas).map Cue.event)).length <
      (earlier ++ spoken ++ textOf deltas).length := by
  induction deltas generalizing spoken buffer with
  | nil => simpa [mergedText, messageCues, textOf] using short
  | cons delta rest inductionHypothesis =>
    have step := @resolve_short ⟨earlier, spoken, delta⟩ buffer more short
    rw [messageCues, mergedText_cons]
    have further := @inductionHypothesis (spoken ++ delta) _ (by simpa [Cue.whole] using step)
    simpa [textOf] using further

theorem message_keeps (earlier spoken : List CodeUnit) (deltas : List Delta) :
    KeepsIfFresh (messageCues earlier spoken deltas) (earlier ++ spoken)
      (earlier ++ spoken ++ textOf deltas) := by
  induction deltas generalizing spoken with
  | nil =>
    refine ⟨fun _ => by simp [mergedText, messageCues, textOf], fun stale => ?_⟩
    exact absurd (List.forall_mem_nil _) stale
  | cons delta rest inductionHypothesis =>
    have whole : earlier ++ spoken ++ textOf (delta :: rest) =
        earlier ++ (spoken ++ delta) ++ textOf rest := by
      simp [textOf]
    have further := inductionHypothesis (spoken ++ delta)
    rw [whole, messageCues]
    unfold KeepsIfFresh at further ⊢
    rw [mergedText_cons, List.forall_mem_cons]
    by_cases fresh : Cue.Fresh ⟨earlier, spoken, delta⟩
    · rw [@resolve_fresh ⟨earlier, spoken, delta⟩ fresh, Cue.whole, List.append_assoc]
      simpa only [fresh, true_and] using further
    · refine ⟨fun all => absurd all.1 fresh, fun _ => ?_⟩
      refine message_short (fun none => fresh fun more => absurd none more) ?_
      simpa [Cue.whole] using resolve_stale fresh

theorem run_short {earlier buffer : List CodeUnit} {messages : List (List Delta)}
    (short : buffer.length < earlier.length) :
    (mergedText buffer ((runCues earlier messages).map Cue.event)).length <
      (earlier ++ messages.flatMap textOf).length := by
  induction messages generalizing earlier buffer with
  | nil => simpa [mergedText, runCues] using short
  | cons message rest inductionHypothesis =>
    have more : earlier ≠ [] := List.length_pos_iff.1 (Nat.zero_lt_of_lt short)
    have step := @message_short earlier [] buffer message more (by simpa using short)
    rw [runCues, mergedText_append]
    have further := @inductionHypothesis (earlier ++ textOf message) _ (by simpa using step)
    simpa using further

theorem run_keeps (earlier : List CodeUnit) (messages : List (List Delta)) :
    KeepsIfFresh (runCues earlier messages) earlier (earlier ++ messages.flatMap textOf) := by
  induction messages generalizing earlier with
  | nil =>
    refine ⟨fun _ => by simp [mergedText, runCues], fun stale => ?_⟩
    exact absurd (List.forall_mem_nil _) stale
  | cons message rest inductionHypothesis =>
    have whole : earlier ++ (message :: rest).flatMap textOf =
        earlier ++ textOf message ++ rest.flatMap textOf := by
      simp
    obtain ⟨keeps, loses⟩ := message_keeps earlier [] message
    rw [List.append_nil] at keeps loses
    have further := inductionHypothesis (earlier ++ textOf message)
    rw [whole, runCues]
    unfold KeepsIfFresh
    rw [mergedText_append, List.forall_mem_append]
    by_cases fresh : ∀ cue ∈ messageCues earlier [] message, cue.Fresh
    · rw [keeps fresh]
      exact ⟨fun all => further.1 all.2, fun stale => further.2 fun others => stale ⟨fresh, others⟩⟩
    · exact ⟨fun all => absurd all.1 fresh, fun _ => run_short (loses fresh)⟩

/-- The events of a run are merged to the texts of its messages if and only if no delta behind
the first text starts as the text before it ends. -/
theorem mergedText_events_iff (messages : List (List Delta)) :
    mergedText [] (events messages) = messages.flatMap textOf ↔
      ∀ cue ∈ runCues [] messages, cue.Fresh := by
  obtain ⟨keeps, loses⟩ := run_keeps [] messages
  rw [List.nil_append] at keeps loses
  refine ⟨fun merged => ?_, keeps⟩
  by_contra stale
  exact absurd (congrArg List.length merged) (loses stale).ne

/-- A second message in which a digit is repeated where a new delta starts. -/
def repeatedDigit : List (List Delta) :=
  [[⟨units "Sum: ", by decide⟩], [⟨units "10", by decide⟩, ⟨units "0", by decide⟩]]

theorem repeatedDigit_is_lost :
    mergedText [] (events repeatedDigit) = units "Sum: 10" ∧
      repeatedDigit.flatMap textOf = units "Sum: 100" ∧ units "Sum: 10" ≠ units "Sum: 100" := by
  decide +kernel

end OpenClaw.StreamedText
