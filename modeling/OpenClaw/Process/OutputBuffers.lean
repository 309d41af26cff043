/-
This file is about what the process registry keeps of a process's output:
`appendOutput` and `drainSession` of `agents/bash-process-registry.ts`.

The pending output of a stream is a list of chunks with a running count of its characters, and
the aggregated output is one text. Both are cut to a cap from the front. Cutting to a cap
forgets nothing that a later cut to the same cap would keep, so whatever the chunks are, what
is held is the end of what was appended.
-/

import Mathlib

namespace OpenClaw.Process

/-- A text, in UTF-16 code units. -/
abbrev Output := List UInt16

/-! ### Cutting from the front -/

theorem rtake_of_length_le {Item : Type} {items : List Item} {count : Nat}
    (short : items.length ≤ count) : items.rtake count = items := by
  rw [List.rtake, Nat.sub_eq_zero_of_le short, List.drop_zero]

theorem length_rtake {Item : Type} (items : List Item) (count : Nat) :
    (items.rtake count).length = min count items.length := by
  rw [List.rtake, List.length_drop]
  omega

/-- What is cut off early is not in the end of the whole. -/
theorem rtake_rtake_append {Item : Type} (front back : List Item) (count : Nat) :
    (front.rtake count ++ back).rtake count = (front ++ back).rtake count := by
  have shorter : min (count - back.reverse.length) count = count - back.reverse.length :=
    Nat.min_eq_left (Nat.sub_le _ _)
  rw [List.rtake_eq_reverse_take_reverse, List.rtake_eq_reverse_take_reverse front,
    List.rtake_eq_reverse_take_reverse, List.reverse_append, List.reverse_reverse,
    List.reverse_append, List.take_append, List.take_append, List.take_take, shorter]

/-! ### The buffers -/

inductive OutputStream
  | stdout
  | stderr
  deriving DecidableEq, Repr

/-- The parts of `ProcessSession` that hold output. -/
structure ProcessSession where
  maxOutputChars : Nat
  pendingMaxOutputChars : Option Nat := none
  totalOutputChars : Nat := 0
  pendingStdout : List Output := []
  pendingStderr : List Output := []
  pendingStdoutChars : Nat := 0
  pendingStderrChars : Nat := 0
  aggregated : Output := []
  tail : Output := []
  truncated : Bool := false

/-- `DEFAULT_PENDING_OUTPUT_CHARS`. -/
def defaultPendingOutputChars : Nat := 30000

/-- `trimWithCap`, and `tail` as well. -/
def trimWithCap (text : Output) (max : Nat) : Output :=
  if text.length ≤ max then text else text.drop (text.length - max)

/-- The loop of `capPendingBuffer`: whole chunks go while enough is left behind them. -/
def shiftChunks : List Output → Nat → Nat → List Output × Nat
  | [], pendingChars, _ => ([], pendingChars)
  | first :: rest, pendingChars, cap =>
    if cap + first.length ≤ pendingChars then shiftChunks rest (pendingChars - first.length) cap
    else (first :: rest, pendingChars)

def capPendingBuffer (buffer : List Output) (pendingChars cap : Nat) : List Output × Nat :=
  if pendingChars ≤ cap then (buffer, pendingChars)
  else
    let last := buffer.getLast?.getD []
    if !last.isEmpty && cap ≤ last.length then ([last.drop (last.length - cap)], cap)
    else match shiftChunks buffer pendingChars cap with
      | (first :: rest, pendingChars) =>
        if cap < pendingChars then (first.drop (pendingChars - cap) :: rest, cap)
        else (first :: rest, pendingChars)
      | ([], pendingChars) => ([], pendingChars)

namespace ProcessSession

variable (session : ProcessSession)

def pending : OutputStream → List Output
  | .stdout => session.pendingStdout
  | .stderr => session.pendingStderr

def pendingChars : OutputStream → Nat
  | .stdout => session.pendingStdoutChars
  | .stderr => session.pendingStderrChars

def setPending (stream : OutputStream) (buffer : List Output) (chars : Nat) : ProcessSession :=
  match stream with
  | .stdout => { session with pendingStdout := buffer, pendingStdoutChars := chars }
  | .stderr => { session with pendingStderr := buffer, pendingStderrChars := chars }

def pendingCap : Nat :=
  min (session.pendingMaxOutputChars.getD defaultPendingOutputChars) session.maxOutputChars

def appendOutput (stream : OutputStream) (chunk : Output) : ProcessSession :=
  let buffer := session.pending stream ++ [chunk]
  let chars := session.pendingChars stream + chunk.length
  let truncated := session.truncated || decide (session.pendingCap < chars)
  let (buffer, chars) :=
    if session.pendingCap < chars then capPendingBuffer buffer chars session.pendingCap
    else (buffer, chars)
  let aggregated := trimWithCap (session.aggregated ++ chunk) session.maxOutputChars
  { session.setPending stream buffer chars with
    totalOutputChars := session.totalOutputChars + chunk.length
    truncated := truncated ||
      decide (aggregated.length < session.aggregated.length + chunk.length)
    aggregated
    tail := trimWithCap aggregated 2000 }

/-- The texts that are handed out, and the session without them. -/
def drainSession : (Output × Output) × ProcessSession :=
  ((session.pendingStdout.flatten, session.pendingStderr.flatten),
    { session with
      pendingStdout := []
      pendingStderr := []
      pendingStdoutChars := 0
      pendingStderrChars := 0 })

end ProcessSession

inductive OutputCall
  | append (stream : OutputStream) (chunk : Output)
  | drain

def ProcessSession.call (session : ProcessSession) : OutputCall → ProcessSession
  | .append stream chunk => session.appendOutput stream chunk
  | .drain => session.drainSession.2

/-! ### What is to be held -/

/-- What was appended to a stream since the last drain. -/
def sinceDrain (stream : OutputStream) (calls : List OutputCall) : Output :=
  calls.foldl (fun text call =>
    match call with
    | .append other chunk => if other = stream then text ++ chunk else text
    | .drain => []) []

/-- Everything that was appended. -/
def allAppended (calls : List OutputCall) : Output :=
  calls.flatMap fun call =>
    match call with
    | .append _ chunk => chunk
    | .drain => []

/-- At some point there was more than a cap allows. -/
def Discarded (pendingCap maxOutputChars : Nat) (calls : List OutputCall) : Prop :=
  ∃ front, front <+: calls ∧ ((∃ stream, pendingCap < (sinceDrain stream front).length) ∨
    maxOutputChars < (allAppended front).length)

theorem trimWithCap_eq (text : Output) (max : Nat) : trimWithCap text max = text.rtake max := by
  rw [trimWithCap]
  split
  next short => exact (rtake_of_length_le short).symm
  · rfl

/-! ### Chunks -/

/-- The chunks that stay are the end of the chunks there were, and without the first of them too
little would stay. -/
theorem shiftChunks_spec (cap : Nat) {buffer : List Output} {pendingChars : Nat}
    (counted : pendingChars = buffer.flatten.length) (enough : cap ≤ pendingChars) :
    ∃ gone left chars, shiftChunks buffer pendingChars cap = (left, chars) ∧
      buffer.flatten = gone ++ left.flatten ∧ chars = left.flatten.length ∧ cap ≤ chars ∧
      ∀ first rest, left = first :: rest → chars < cap + first.length := by
  induction buffer generalizing pendingChars with
  | nil => exact ⟨[], [], pendingChars, rfl, rfl, counted, enough, nofun⟩
  | cons first rest inductionHypothesis =>
    rw [shiftChunks]
    split
    next goes =>
      have fewer : pendingChars - first.length = rest.flatten.length := by
        rw [counted, List.flatten_cons, List.length_append, Nat.add_sub_cancel_left]
      obtain ⟨gone, left, chars, shifted, split, rest⟩ := inductionHypothesis fewer (by omega)
      exact ⟨first ++ gone, left, chars, shifted,
        by rw [List.flatten_cons, split, List.append_assoc], rest⟩
    next stays =>
      refine ⟨[], first :: rest, pendingChars, rfl, rfl, counted, enough, fun other others same => ?_⟩
      obtain ⟨rfl, rfl⟩ := List.cons.inj same
      omega

/-- The end of a text is the end of its own end. -/
theorem rtake_append_of_le {Item : Type} (gone left : List Item) {count : Nat}
    (enough : count ≤ left.length) : (gone ++ left).rtake count = left.rtake count := by
  rw [List.rtake, List.rtake, List.length_append, List.drop_append,
    List.drop_eq_nil_of_le (by omega), List.nil_append]
  congr 1
  omega

theorem capPendingBuffer_spec (buffer : List Output) (cap : Nat) :
    (capPendingBuffer buffer buffer.flatten.length cap).1.flatten = buffer.flatten.rtake cap ∧
      (capPendingBuffer buffer buffer.flatten.length cap).2 =
        (capPendingBuffer buffer buffer.flatten.length cap).1.flatten.length := by
  rw [capPendingBuffer]
  split
  next short => exact ⟨(rtake_of_length_le short).symm, rfl⟩
  next long =>
    dsimp only
    split
    next large =>
      rw [Bool.and_eq_true, decide_eq_true_eq] at large
      cases isLast : buffer.getLast? with
      | none =>
        rw [isLast] at large
        exact absurd large.1 (by decide)
      | some last =>
        rw [isLast, Option.getD_some] at large
        obtain ⟨earlier, rfl⟩ := List.getLast?_eq_some_iff.1 isLast
        rw [Option.getD_some, List.flatten_append, List.flatten_singleton, List.flatten_singleton,
          rtake_append_of_le _ _ large.2, ← List.rtake, length_rtake, Nat.min_eq_left large.2]
        exact ⟨rfl, rfl⟩
    next small =>
      obtain ⟨gone, left, chars, shifted, split, counted, enough, least⟩ :=
        shiftChunks_spec cap rfl (Nat.le_of_not_le long)
      rw [shifted, split, rtake_append_of_le gone left.flatten (counted ▸ enough)]
      cases left with
      | nil =>
        obtain rfl : cap = 0 := by simpa [counted] using enough
        exact ⟨rfl, counted⟩
      | cons first rest =>
        have most := least first rest rfl
        rw [List.flatten_cons, List.length_append] at counted
        dsimp only
        split
        next overflows =>
          have kept : first.drop (chars - cap) ++ rest.flatten =
              (first ++ rest.flatten).rtake cap := by
            rw [List.rtake, List.length_append, ← counted, List.drop_append,
              Nat.sub_eq_zero_of_le (by omega : chars - cap ≤ first.length), List.drop_zero]
          rw [List.flatten_cons, List.flatten_cons, kept, length_rtake, List.length_append, ← counted,
            Nat.min_eq_left enough]
          exact ⟨rfl, rfl⟩
        next fits =>
          rw [List.flatten_cons, List.length_append, ← counted]
          exact ⟨(rtake_of_length_le (by rw [List.length_append]; omega)).symm, rfl⟩

/-! ### Runs -/

namespace ProcessSession

variable {session : ProcessSession}

/-- What is pending of a stream, after a chunk has been appended to it. -/
theorem pending_appendOutput (stream : OutputStream) (chunk : Output) {text : Output}
    (holds : (session.pending stream).flatten = text.rtake session.pendingCap)
    (counted : session.pendingChars stream = (session.pending stream).flatten.length) :
    ((session.appendOutput stream chunk).pending stream).flatten =
        (text ++ chunk).rtake session.pendingCap ∧
      (session.appendOutput stream chunk).pendingChars stream =
        ((session.appendOutput stream chunk).pending stream).flatten.length := by
  have appended : (session.pending stream ++ [chunk]).flatten =
      text.rtake session.pendingCap ++ chunk := by
    rw [List.flatten_append, List.flatten_singleton, holds]
  have chars : session.pendingChars stream + chunk.length =
      (session.pending stream ++ [chunk]).flatten.length := by
    rw [List.flatten_append, List.flatten_singleton, List.length_append, counted]
  have cut : (if session.pendingCap < session.pendingChars stream + chunk.length then
      capPendingBuffer (session.pending stream ++ [chunk])
        (session.pendingChars stream + chunk.length) session.pendingCap
      else (session.pending stream ++ [chunk], session.pendingChars stream + chunk.length)) =
      capPendingBuffer (session.pending stream ++ [chunk])
        (session.pending stream ++ [chunk]).flatten.length session.pendingCap := by
    rw [chars]
    split
    · rfl
    next fits => rw [capPendingBuffer, if_pos (Nat.le_of_not_lt fits)]
  have spec := capPendingBuffer_spec (session.pending stream ++ [chunk]) session.pendingCap
  rw [← cut, appended, rtake_rtake_append] at spec
  cases stream <;> exact spec

theorem pending_appendOutput_of_ne {stream other : OutputStream} (apart : other ≠ stream)
    (chunk : Output) :
    (session.appendOutput stream chunk).pending other = session.pending other ∧
      (session.appendOutput stream chunk).pendingChars other = session.pendingChars other := by
  cases stream <;> cases other <;> first | exact absurd rfl apart | exact ⟨rfl, rfl⟩

theorem maxOutputChars_call (session : ProcessSession) (call : OutputCall) :
    (session.call call).maxOutputChars = session.maxOutputChars ∧
      (session.call call).pendingMaxOutputChars = session.pendingMaxOutputChars := by
  cases call with
  | append stream chunk => cases stream <;> exact ⟨rfl, rfl⟩
  | drain => exact ⟨rfl, rfl⟩

end ProcessSession

theorem sinceDrain_append (stream other : OutputStream) (calls : List OutputCall)
    (chunk : Output) : sinceDrain stream (calls ++ [.append other chunk]) =
      if other = stream then sinceDrain stream calls ++ chunk else sinceDrain stream calls := by
  rw [sinceDrain, List.foldl_append]
  rfl

theorem sinceDrain_drain (stream : OutputStream) (calls : List OutputCall) :
    sinceDrain stream (calls ++ [.drain]) = [] := by
  rw [sinceDrain, List.foldl_append]
  rfl

theorem allAppended_append (calls : List OutputCall) (stream : OutputStream) (chunk : Output) :
    allAppended (calls ++ [.append stream chunk]) = allAppended calls ++ chunk := by
  rw [allAppended, List.flatMap_append, List.flatMap_singleton]
  rfl

theorem allAppended_drain (calls : List OutputCall) :
    allAppended (calls ++ [.drain]) = allAppended calls := by
  rw [allAppended, List.flatMap_append, List.flatMap_singleton, List.append_nil]
  rfl

theorem discarded_append {pendingCap maxOutputChars : Nat} {calls : List OutputCall}
    {call : OutputCall} : Discarded pendingCap maxOutputChars (calls ++ [call]) ↔
      Discarded pendingCap maxOutputChars calls ∨
        ((∃ stream, pendingCap < (sinceDrain stream (calls ++ [call])).length) ∨
          maxOutputChars < (allAppended (calls ++ [call])).length) := by
  constructor
  · rintro ⟨front, isFront, more⟩
    rcases List.prefix_concat_iff.1 isFront with rfl | earlier
    · exact Or.inr more
    · exact Or.inl ⟨front, earlier, more⟩
  · rintro (⟨front, isFront, more⟩ | more)
    · exact ⟨front, isFront.trans (List.prefix_append _ _), more⟩
    · exact ⟨_, List.prefix_rfl, more⟩

/-- As long as nothing is discarded, everything is held. -/
theorem fits_of_not_discarded {maxOutputChars pendingCap : Nat} {calls : List OutputCall}
    (whole : ¬Discarded pendingCap maxOutputChars calls) :
    (∀ stream, (sinceDrain stream calls).length ≤ pendingCap) ∧
      (allAppended calls).length ≤ maxOutputChars :=
  ⟨fun stream => Nat.le_of_not_lt fun more =>
      whole ⟨calls, List.prefix_rfl, Or.inl ⟨stream, more⟩⟩,
    Nat.le_of_not_lt fun more => whole ⟨calls, List.prefix_rfl, Or.inr more⟩⟩

/-- What a session holds after some calls. -/
structure Holds (maxOutputChars pendingCap : Nat) (calls : List OutputCall)
    (session : ProcessSession) : Prop where
  max : session.maxOutputChars = maxOutputChars
  cap : session.pendingCap = pendingCap
  pending : ∀ stream,
    (session.pending stream).flatten = (sinceDrain stream calls).rtake pendingCap
  counted : ∀ stream, session.pendingChars stream = (session.pending stream).flatten.length
  aggregated : session.aggregated = (allAppended calls).rtake maxOutputChars
  total : session.totalOutputChars = (allAppended calls).length
  truncated : session.truncated = true ↔ Discarded pendingCap maxOutputChars calls

namespace Holds

variable {maxOutputChars pendingCap : Nat} {calls : List OutputCall} {session : ProcessSession}
  (holds : Holds maxOutputChars pendingCap calls session)

include holds

theorem drain : Holds maxOutputChars pendingCap (calls ++ [.drain]) session.drainSession.2 where
  max := holds.max
  cap := holds.cap
  pending stream := by
    rw [sinceDrain_drain, List.rtake_nil]
    cases stream <;> rfl
  counted stream := by cases stream <;> rfl
  aggregated := by
    rw [allAppended_drain]
    exact holds.aggregated
  total := by
    rw [allAppended_drain]
    exact holds.total
  truncated := by
    refine holds.truncated.trans ⟨fun before => discarded_append.2 (Or.inl before), fun after => ?_⟩
    rcases discarded_append.1 after with before | ⟨stream, more⟩ | more
    · exact before
    · rw [sinceDrain_drain] at more
      exact absurd more (Nat.not_lt_zero _)
    · rw [allAppended_drain] at more
      exact ⟨calls, List.prefix_rfl, Or.inr more⟩

theorem append (stream : OutputStream) (chunk : Output) :
    Holds maxOutputChars pendingCap (calls ++ [.append stream chunk])
      (session.appendOutput stream chunk) where
  max := (session.maxOutputChars_call (.append stream chunk)).1.trans holds.max
  cap := by
    obtain ⟨max, pendingMax⟩ := session.maxOutputChars_call (.append stream chunk)
    rw [← holds.cap, ProcessSession.pendingCap, ProcessSession.pendingCap]
    exact congrArg₂ min (congrArg (Option.getD · _) pendingMax) max
  pending other := by
    rw [sinceDrain_append]
    split
    next same =>
      subst same
      have appended := (session.pending_appendOutput stream chunk
        (holds.cap ▸ holds.pending stream) (holds.counted stream)).1
      rwa [holds.cap] at appended
    next apart =>
      rw [(ProcessSession.pending_appendOutput_of_ne (Ne.symm apart) chunk).1]
      exact holds.pending other
  counted other := by
    rcases eq_or_ne other stream with rfl | apart
    · exact (session.pending_appendOutput other chunk (holds.cap ▸ holds.pending other)
        (holds.counted other)).2
    · obtain ⟨same, sameChars⟩ := ProcessSession.pending_appendOutput_of_ne apart chunk
      rw [same, sameChars]
      exact holds.counted other
  aggregated := by
    change trimWithCap (session.aggregated ++ chunk) session.maxOutputChars = _
    rw [trimWithCap_eq, holds.max, holds.aggregated, rtake_rtake_append, allAppended_append]
  total := by
    change session.totalOutputChars + chunk.length = _
    rw [holds.total, allAppended_append, List.length_append]
  truncated := by
    change ((session.truncated || decide (session.pendingCap <
        session.pendingChars stream + chunk.length)) ||
      decide ((trimWithCap (session.aggregated ++ chunk) session.maxOutputChars).length <
        session.aggregated.length + chunk.length)) = true ↔ _
    rw [Bool.or_eq_true, Bool.or_eq_true, decide_eq_true_eq, decide_eq_true_eq, discarded_append,
      holds.truncated, or_assoc]
    by_cases whole : Discarded pendingCap maxOutputChars calls
    · exact iff_of_true (Or.inl whole) (Or.inl whole)
    · obtain ⟨since, all⟩ := fits_of_not_discarded whole
      refine or_congr_right (or_congr ?_ ?_)
      · rw [holds.cap, holds.counted, holds.pending, rtake_of_length_le (since stream)]
        constructor
        · intro more
          refine ⟨stream, ?_⟩
          rw [sinceDrain_append, if_pos rfl, List.length_append]
          exact more
        · rintro ⟨other, more⟩
          rw [sinceDrain_append] at more
          split at more
          next same => rwa [List.length_append, ← same] at more
          · exact absurd (since other) (Nat.not_le_of_lt more)
      · rw [trimWithCap_eq, holds.max, holds.aggregated, rtake_of_length_le all, length_rtake,
          allAppended_append, List.length_append]
        omega

end Holds

theorem holds_of_calls (maxOutputChars : Nat) (pendingMaxOutputChars : Option Nat)
    (calls : List OutputCall) :
    Holds maxOutputChars
      (min (pendingMaxOutputChars.getD defaultPendingOutputChars) maxOutputChars) calls
      (calls.foldl ProcessSession.call { maxOutputChars, pendingMaxOutputChars }) := by
  induction calls using List.reverseRecOn with
  | nil =>
    refine ⟨rfl, rfl, fun stream => ?_, fun stream => ?_, ?_, rfl, ?_⟩
    · cases stream <;> simp [ProcessSession.pending, sinceDrain]
    · cases stream <;> rfl
    · simp [allAppended]
    · refine iff_of_false Bool.false_ne_true ?_
      rintro ⟨front, isFront, ⟨stream, more⟩ | more⟩
      · rw [List.prefix_nil.1 isFront] at more
        exact absurd more (Nat.not_lt_zero _)
      · rw [List.prefix_nil.1 isFront] at more
        exact absurd more (Nat.not_lt_zero _)
  | append_singleton calls call inductionHypothesis =>
    rw [List.foldl_append]
    cases call with
    | append stream chunk => exact inductionHypothesis.append stream chunk
    | drain => exact inductionHypothesis.drain

/-- The output buffers hold the latest output exactly: whatever has been appended and drained, the
pending text of each stream and the aggregated text are the ends of what was appended, the counters
count them, and `truncated` says whether anything has been discarded. -/
theorem output_buffers_hold (maxOutputChars : Nat) (pendingMaxOutputChars : Option Nat)
    (calls : List OutputCall) :
    let session := calls.foldl ProcessSession.call { maxOutputChars, pendingMaxOutputChars }
    let pendingCap := min (pendingMaxOutputChars.getD defaultPendingOutputChars) maxOutputChars
    (∀ stream, (session.pending stream).flatten = (sinceDrain stream calls).rtake pendingCap ∧
      session.pendingChars stream = (session.pending stream).flatten.length) ∧
      session.aggregated = (allAppended calls).rtake maxOutputChars ∧
      session.totalOutputChars = (allAppended calls).length ∧
      (session.truncated = true ↔ Discarded pendingCap maxOutputChars calls) := by
  have holds := holds_of_calls maxOutputChars pendingMaxOutputChars calls
  exact ⟨fun stream => ⟨holds.pending stream, holds.counted stream⟩, holds.aggregated, holds.total,
    holds.truncated⟩

end OpenClaw.Process
