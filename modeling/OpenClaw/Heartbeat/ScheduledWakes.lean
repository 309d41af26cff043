/-
This file says what the scheduler of heartbeat wakes keeps.

A timer is always armed for waiting wakes once a handler is registered. The other properties need
something of the run. Registering a handler forgets the batch in progress, and when that batch
ends it also forgets the batch of the new handler; so no batch may end after its handler has been
replaced while one of the new handler runs. The retry timer is only armed when no earlier timer
is there, so a refusal must find none, and a new handler starts without the cooldown. Targets are
told apart by their keys alone, and a call that throws sends the rest of its batch back.
-/

import OpenClaw.Base.Traces
import OpenClaw.Heartbeat.HeartbeatWake

namespace OpenClaw.Heartbeat

open Machine

/-! ### The property -/

/-- Wakes wait for a registered handler with a timer armed, whether a batch runs or not. -/
def Armed (state : WakeState) : Prop :=
  state.handler.isSome → state.pendingWakes.entries ≠ [] → state.timer.isSome

/-- No two calls for one registration are in progress. -/
def Exclusive (state : WakeState) : Prop := (state.batches.map WakeBatch.generation).Nodup

/-- After a refusal its target is not tried again before the retry delay has passed, unless a
handler has been registered since. -/
def BacksOff (history : List WakeEntry) : Prop :=
  ∀ before between after target refusedAt generation reason triedAt,
    history = before ++ .refused target refusedAt :: between ++
      .called generation target reason triedAt :: after →
    .registered ∉ between → refusedAt + defaultRetryMs ≤ triedAt

/-- A handler is called for the target of a wake, with a reason of at least its priority. -/
def Passed (wake : PendingWake) (state next : WakeState) : Prop :=
  ∃ generation reason, .called generation wake.target reason next.now ∈
      next.history.drop state.history.length ∧ wake.priority ≤ resolveReasonPriority reason

/-! ### What the runs have to meet -/

/-- The call of a batch ends the batch. -/
def Ends (batch : WakeBatch) (result : CallResult) : Prop := result = .thrown ∨ batch.rest = []

/-- No batch ends after its handler has been replaced while one of the new handler runs. -/
def HandedOver (state : WakeState) (event : ℕ × WakeEvent) : Prop :=
  ∀ index result, event.2 = .settle index result → ∀ batch, state.batches[index]? = some batch →
    Ends batch result → batch.generation ≠ state.handlerGeneration →
      ∀ other ∈ state.batches, other.generation ≠ state.handlerGeneration

/-- A timer that leaves the retry delay alone when it starts now. -/
def WakeTimer.IsLate (timer : WakeTimer) (now : ℕ) : Prop :=
  match timer.kind with
  | .retry => now + defaultRetryMs ≤ timer.dueAt
  | .normal => now + defaultRetryMs < timer.dueAt

/-- A refusal finds no earlier timer, and no other batch that still has to try its target. -/
def Cools (state : WakeState) (event : ℕ × WakeEvent) : Prop :=
  ∀ index result, event.2 = .settle index result → result.refuses = true →
    ∀ batch, state.batches[index]? = some batch →
      (∀ timer, state.timer = some timer → timer.IsLate event.1) ∧
        ∀ other ∈ state.batches.eraseIdx index, ∀ wake ∈ other.rest,
          wake.target ≠ batch.current.target

/-- The wakes that are requested have targets of a given set. -/
def Among (targets : Set WakeTarget) (_ : WakeState) (event : ℕ × WakeEvent) : Prop :=
  ∀ reason coalesceMs target, event.2 = .request reason coalesceMs target →
    target.normalized ∈ targets

/-- From some time on a handler stays registered and its calls do not throw; armed timers fire, and
each call ends. -/
structure Fair {targets : Set WakeTarget} (trace : Trace step (Among targets) .initial)
    (first : ℕ) : Prop where
  handled : (trace.states first).handler.isSome
  registered : ∀ time, first ≤ time → ∀ next, (trace.actions time).2 ≠ .register next
  undisposed : ∀ time, first ≤ time → ∀ generation next,
    (trace.actions time).2 ≠ .dispose generation next
  returns : ∀ time, first ≤ time → ∀ index, (trace.actions time).2 ≠ .settle index .thrown
  ends : ∀ time, ∀ batch ∈ (trace.states time).batches,
    ∃ later, time ≤ later ∧ batch ∉ (trace.states later).batches
  fires : ∀ time, (trace.states time).timer.isSome →
    ∃ later, time ≤ later ∧ (trace.actions later).2 = .fire

/-! ### What a step does -/

variable {state next : WakeState} {event : ℕ × WakeEvent}

/-- A step happens at a time, and then keeps what holds whatever the clock reads. -/
theorem step_eq_some (taken : step state event = some next) : state.now ≤ event.1 ∧
      happen { state with now := event.1 } event.2 = some next :=
  Option.ite_none_right_eq_some.1 taken

theorem happen_fire (taken : happen state .fire = some next) :
    ∃ timer, state.timer = some timer ∧ timer.firesAt ≤ state.now ∧ next = fireTimer state timer := by
  obtain ⟨timer, armed, fired⟩ := Option.bind_eq_some_iff.1 taken
  obtain ⟨due, same⟩ := Option.ite_none_right_eq_some.1 fired
  injection same with same
  exact ⟨timer, armed, due, same.symm⟩

theorem happen_settle {index : ℕ} {result : CallResult}
    (taken : happen state (.settle index result) = some next) :
    ∃ batch, state.batches[index]? = some batch ∧
      next = settleCall { state with batches := state.batches.eraseIdx index } batch result := by
  obtain ⟨batch, found, same⟩ := Option.map_eq_some_iff.1 taken
  exact ⟨batch, found, same.symm⟩

theorem perm_eraseIdx {batches : List WakeBatch} {index : ℕ} {batch : WakeBatch}
    (found : batches[index]? = some batch) : (batch :: batches.eraseIdx index).Perm batches := by
  obtain ⟨inside, rfl⟩ := List.getElem?_eq_some_iff.1 found
  exact List.getElem_cons_eraseIdx_perm inside

/-- The wakes that a refusal queues again. -/
def refusedWakes (batch : WakeBatch) (result : CallResult) : List PendingWake :=
  if result = .thrown then batch.pendingBatch else [batch.current]

/-- The wakes that a batch goes on with. -/
def remainingWakes (batch : WakeBatch) (result : CallResult) : List PendingWake :=
  if result = .thrown then [] else batch.rest

/-- The state after a call, before the batch goes on. -/
def afterCall (state : WakeState) (batch : WakeBatch) (result : CallResult) : WakeState :=
  if result.refuses then
    schedule ((refusedWakes batch result).foldl queueAgain
      { state with history := state.history ++ [.refused batch.current.target state.now] })
      defaultRetryMs .retry
  else state

theorem settleCall_eq (state : WakeState) (batch : WakeBatch) (result : CallResult) :
    settleCall state batch result = continueBatch (afterCall state batch result) batch.generation
      batch.delay batch.pendingBatch (remainingWakes batch result) := by
  cases result with
  | thrown => rfl
  | skipped reason =>
    unfold settleCall
    dsimp only
    by_cases busy : reason = "requests-in-flight"
    · subst busy
      rfl
    · rw [if_neg busy, afterCall, if_neg (by simp [CallResult.refuses, busy])]
      rfl
  | ran => rfl
  | failed reason => rfl

/-- Queueing wakes again changes the waiting wakes alone. -/
theorem foldl_queueAgain_eq (wakes : List PendingWake) (state : WakeState) :
    wakes.foldl queueAgain state =
      { state with pendingWakes := (wakes.foldl queueAgain state).pendingWakes } := by
  induction wakes generalizing state with
  | nil => rfl
  | cons wake wakes inductionHypothesis =>
    rw [List.foldl_cons, inductionHypothesis (queueAgain state wake), queueAgain,
      queuePendingWakeReason_eq state]

/-- A call changes the waiting wakes, the timer and the history alone. -/
theorem afterCall_eq (state : WakeState) (batch : WakeBatch) (result : CallResult) :
    afterCall state batch result = { state with
      pendingWakes := (afterCall state batch result).pendingWakes
      timer := (afterCall state batch result).timer
      history := (afterCall state batch result).history } := by
  unfold afterCall
  split
  · rw [schedule_eq, foldl_queueAgain_eq]
  · rfl

@[simp] theorem afterCall_handler (state : WakeState) (batch : WakeBatch) (result : CallResult) :
    (afterCall state batch result).handler = state.handler := by rw [afterCall_eq]

@[simp] theorem afterCall_handlerGeneration (state : WakeState) (batch : WakeBatch)
    (result : CallResult) :
    (afterCall state batch result).handlerGeneration = state.handlerGeneration := by
  rw [afterCall_eq]

@[simp] theorem afterCall_running (state : WakeState) (batch : WakeBatch) (result : CallResult) :
    (afterCall state batch result).running = state.running := by rw [afterCall_eq]

@[simp] theorem afterCall_batches (state : WakeState) (batch : WakeBatch) (result : CallResult) :
    (afterCall state batch result).batches = state.batches := by rw [afterCall_eq]

@[simp] theorem afterCall_now (state : WakeState) (batch : WakeBatch) (result : CallResult) :
    (afterCall state batch result).now = state.now := by rw [afterCall_eq]

/-! ### A timer is armed -/

theorem finishBatch_armed (state : WakeState) (delay : ℕ) : Armed (finishBatch state delay) := by
  intro _ waiting
  rw [finishBatch_pendingWakes] at waiting
  unfold finishBatch
  dsimp only
  rw [if_pos (by simp [waiting])]
  exact schedule_timer_isSome _ _ _

theorem continueBatch_armed (armed : Armed state) (generation delay : ℕ)
    (pendingBatch rest : List PendingWake) :
    Armed (continueBatch state generation delay pendingBatch rest) := by
  cases rest with
  | nil => exact finishBatch_armed state delay
  | cons current rest => exact armed

theorem settleCall_armed (armed : Armed state) (batch : WakeBatch)
    (result : CallResult) : Armed (settleCall state batch result) := by
  rw [settleCall_eq]
  refine continueBatch_armed ?_ _ _ _ _
  unfold afterCall
  split
  · exact fun _ _ => schedule_timer_isSome _ _ _
  · exact armed

theorem fireTimer_armed (state : WakeState) (timer : WakeTimer) : Armed (fireTimer state timer) := by
  unfold fireTimer
  dsimp only
  split
  next none => exact fun handled => absurd handled (by simp [none])
  next =>
    split
    next => exact fun _ _ => schedule_timer_isSome _ _ _
    next => exact continueBatch_armed (fun _ waiting => absurd rfl waiting) _ _ _ _

theorem setHeartbeatWakeHandler_armed (state : WakeState) (next : Option ℕ) :
    Armed (setHeartbeatWakeHandler state next) := by
  cases next with
  | none => exact fun handled => absurd handled Bool.false_ne_true
  | some function =>
    intro _ waiting
    unfold setHeartbeatWakeHandler at waiting ⊢
    dsimp only at waiting ⊢
    split at waiting
    next some => rw [if_pos some]; exact schedule_timer_isSome _ _ _
    next nothing => exact absurd waiting nothing

theorem happen_armed {event : WakeEvent} (armed : Armed state)
    (taken : happen state event = some next) : Armed next := by
  cases event with
  | idle =>
    injection taken with taken
    exact taken ▸ armed
  | request reason coalesceMs target =>
    injection taken with taken
    exact taken ▸ fun _ _ => schedule_timer_isSome _ _ _
  | fire =>
    obtain ⟨timer, -, -, rfl⟩ := happen_fire taken
    exact fireTimer_armed state timer
  | settle index result =>
    obtain ⟨batch, -, rfl⟩ := happen_settle taken
    have armed : Armed { state with batches := state.batches.eraseIdx index } := armed
    exact settleCall_armed armed batch result
  | register handler =>
    injection taken with taken
    exact taken ▸ setHeartbeatWakeHandler_armed state handler
  | dispose generation handler =>
    injection taken with taken
    subst taken
    unfold disposeHandler
    split
    · exact armed
    split
    · exact armed
    · exact fun handled => absurd handled Bool.false_ne_true

theorem step_armed (armed : Armed state) (taken : step state event = some next) : Armed next := by
  have armed : Armed { state with now := event.1 } := armed
  exact happen_armed armed (step_eq_some taken).2

/-! ### One batch for a registration -/

/-- The batches belong to different registrations, and only `running` lets that of the handler be
in progress. -/
structure Owned (state : WakeState) : Prop where
  exclusive : Exclusive state
  earlier : ∀ batch ∈ state.batches, batch.generation ≤ state.handlerGeneration
  free : state.handler.isSome → state.running = false →
    ∀ batch ∈ state.batches, batch.generation ≠ state.handlerGeneration

theorem owned_initial : Owned .initial where
  exclusive := List.nodup_nil
  earlier := fun _ member => absurd member List.not_mem_nil
  free := fun handled => absurd handled Bool.false_ne_true

/-- What a step does not change keeps the batches owned. -/
theorem Owned.of_eq {state other : WakeState} (owned : Owned state)
    (batches : other.batches = state.batches) (handler : other.handler = state.handler)
    (generation : other.handlerGeneration = state.handlerGeneration)
    (running : other.running = state.running) : Owned other := by
  obtain ⟨exclusive, earlier, free⟩ := owned
  refine ⟨?_, ?_, ?_⟩
  · rw [Exclusive, batches]
    exact exclusive
  · rw [batches, generation]
    exact earlier
  · rw [batches, generation, handler, running]
    exact free

theorem continueBatch_owned (owned : Owned state) {generation : ℕ}
    (fresh : ∀ other ∈ state.batches, other.generation ≠ generation)
    (known : generation ≤ state.handlerGeneration)
    (held : state.handler.isSome → generation = state.handlerGeneration → state.running = true)
    (delay : ℕ) (pendingBatch : List PendingWake) {rest : List PendingWake}
    (last : rest = [] → ∀ other ∈ state.batches, other.generation ≠ state.handlerGeneration) :
    Owned (continueBatch state generation delay pendingBatch rest) := by
  cases rest with
  | nil =>
    refine ⟨?_, ?_, ?_⟩
    · rw [Exclusive, continueBatch, finishBatch_batches]
      exact owned.exclusive
    · rw [continueBatch, finishBatch_batches, finishBatch_handlerGeneration]
      exact owned.earlier
    · rw [continueBatch, finishBatch_batches, finishBatch_handlerGeneration]
      exact fun _ _ => last rfl
  | cons current rest =>
    refine ⟨?_, fun batch member => ?_, fun handled idle batch member => ?_⟩
    · show (List.map WakeBatch.generation (state.batches ++ [_])).Nodup
      rw [List.map_append, List.nodup_append]
      refine ⟨owned.exclusive, List.nodup_singleton _, ?_⟩
      intro other listed same only
      obtain ⟨batch, member, rfl⟩ := List.mem_map.1 listed
      rw [List.map_singleton, List.mem_singleton] at only
      exact only ▸ fresh batch member
    · rcases List.mem_append.1 member with old | new
      · exact owned.earlier batch old
      · rw [List.mem_singleton] at new
        exact new ▸ known
    · rcases List.mem_append.1 member with old | new
      · exact owned.free handled idle batch old
      · rw [List.mem_singleton] at new
        subst new
        intro current
        have idle : state.running = false := idle
        rw [held handled current] at idle
        exact Bool.false_ne_true idle.symm

theorem settle_owned (owned : Owned state) {index : ℕ} {batch : WakeBatch}
    (found : state.batches[index]? = some batch) {result : CallResult}
    (handedOver : Ends batch result → batch.generation ≠ state.handlerGeneration →
      ∀ other ∈ state.batches, other.generation ≠ state.handlerGeneration) :
    Owned (settleCall { state with batches := state.batches.eraseIdx index } batch result) := by
  have whole := perm_eraseIdx found
  have member : batch ∈ state.batches := whole.mem_iff.1 List.mem_cons_self
  have others : ∀ other ∈ state.batches.eraseIdx index, other ∈ state.batches :=
    fun other inside => whole.mem_iff.1 (List.mem_cons_of_mem _ inside)
  have distinct := (whole.map WakeBatch.generation).nodup_iff.2 owned.exclusive
  rw [List.map_cons, List.nodup_cons] at distinct
  have fresh : ∀ other ∈ state.batches.eraseIdx index, other.generation ≠ batch.generation :=
    fun other inside same => distinct.1 (same ▸ List.mem_map_of_mem inside)
  have reduced : Owned { state with batches := state.batches.eraseIdx index } :=
    ⟨distinct.2, fun other inside => owned.earlier other (others other inside),
      fun handled idle other inside => owned.free handled idle other (others other inside)⟩
  rw [settleCall_eq]
  refine continueBatch_owned (reduced.of_eq (by simp) (by simp) (by simp) (by simp)) ?_ ?_ ?_ _ _ ?_
  · simpa using fresh
  · simpa using owned.earlier batch member
  · simp only [afterCall_handler, afterCall_handlerGeneration, afterCall_running]
    intro handled current
    by_contra idle
    exact owned.free handled (Bool.eq_false_iff.2 idle) batch member current
  · intro empty
    simp only [afterCall_batches, afterCall_handlerGeneration]
    have ends : Ends batch result := by
      by_cases threw : result = .thrown
      · exact .inl threw
      · exact .inr (by rwa [remainingWakes, if_neg threw] at empty)
    by_cases current : batch.generation = state.handlerGeneration
    · exact fun other inside => current ▸ fresh other inside
    · exact fun other inside => handedOver ends current other (others other inside)

theorem fireTimer_owned (owned : Owned state) (timer : WakeTimer) :
    Owned (fireTimer state timer) := by
  unfold fireTimer
  dsimp only
  split
  next => exact owned.of_eq rfl rfl rfl rfl
  next function registered =>
    have handled : state.handler.isSome := by rw [registered]; rfl
    split
    next => exact owned.of_eq (by simp) (by simp) (by simp) (by simp)
    next idle =>
      have others := owned.free handled (Bool.eq_false_iff.2 idle)
      have emptied : Owned { state with
          timer := none, scheduled := false, pendingWakes := ∅, running := true } :=
        ⟨owned.exclusive, owned.earlier, fun _ running => absurd running Bool.true_eq_false.mp⟩
      exact continueBatch_owned emptied others le_rfl (fun _ _ => rfl) _ _ fun _ => others

theorem step_owned (owned : Owned state)
    (handedOver : HandedOver state event) (taken : step state event = some next) : Owned next := by
  obtain ⟨now, event⟩ := event
  have taken := (step_eq_some taken).2
  have owned : Owned { state with now } := owned.of_eq rfl rfl rfl rfl
  cases event with
  | idle =>
    injection taken with taken
    exact taken ▸ owned
  | request reason coalesceMs target =>
    injection taken with taken
    exact taken ▸ owned.of_eq (by simp [requestHeartbeatNow]) (by simp [requestHeartbeatNow])
      (by simp [requestHeartbeatNow]) (by simp [requestHeartbeatNow])
  | fire =>
    obtain ⟨timer, -, -, rfl⟩ := happen_fire taken
    exact fireTimer_owned owned timer
  | settle index result =>
    obtain ⟨batch, found, rfl⟩ := happen_settle taken
    exact settle_owned owned found (handedOver index result rfl batch found)
  | register handler =>
    injection taken with taken
    subst taken
    have later : ∀ batch ∈ state.batches, batch.generation ≤ state.handlerGeneration + 1 :=
      fun batch member => Nat.le_succ_of_le (owned.earlier batch member)
    have distinct : ∀ batch ∈ state.batches, batch.generation ≠ state.handlerGeneration + 1 :=
      fun batch member => Nat.ne_of_lt (Nat.lt_succ_of_le (owned.earlier batch member))
    cases handler with
    | none => exact ⟨owned.exclusive, later, fun _ _ => distinct⟩
    | some function =>
      have replaced : Owned { state with
          now, handlerGeneration := state.handlerGeneration + 1, handler := some function
          timer := none, running := false, scheduled := false
          history := state.history ++ [.registered] } :=
        ⟨owned.exclusive, later, fun _ _ => distinct⟩
      unfold setHeartbeatWakeHandler
      dsimp only
      split
      · exact replaced.of_eq (by simp) (by simp) (by simp) (by simp)
      · exact replaced
  | dispose generation handler =>
    injection taken with taken
    subst taken
    unfold disposeHandler
    split
    · exact owned
    split
    · exact owned
    · exact ⟨owned.exclusive, fun batch member => Nat.le_succ_of_le (owned.earlier batch member),
        fun handled => absurd handled Bool.false_ne_true⟩

end OpenClaw.Heartbeat
