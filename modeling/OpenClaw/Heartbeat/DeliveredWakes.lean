/-
This file says that wakes are not lost and puts the properties of the scheduler together.

A requested wake is owed until a handler is called for it: a wake of at least its priority waits
under its key, or comes later in a batch. A batch that goes on gets shorter, one that throws puts
its wakes back. In a fair run the batch in progress ends, the timer that is armed for what waits
fires, and the wakes become a batch of their own, whose calls come one after the other.
-/

import OpenClaw.Heartbeat.RetryCooldown

namespace OpenClaw.Heartbeat

open Machine OrderedMap

/-! ### Owed wakes -/

/-- A wake of at least the priority waits under the key of a wake. -/
def Waits (state : WakeState) (wake : PendingWake) : Prop :=
  ∃ waiting, state.pendingWakes.get (getWakeTargetKey wake.target) = some waiting ∧
    wake.priority ≤ waiting.priority

/-- A wake of at least the priority comes later in a batch under the key of a wake. -/
def Comes (batch : WakeBatch) (wake : PendingWake) : Prop :=
  ∃ next ∈ batch.rest, getWakeTargetKey next.target = getWakeTargetKey wake.target ∧
    wake.priority ≤ next.priority

def Owed (state : WakeState) (wake : PendingWake) : Prop :=
  Waits state wake ∨ ∃ batch ∈ state.batches, Comes batch wake

theorem queue_waits (state : WakeState) (reason : Option String) (target : WakeTarget) :
    Waits (queuePendingWakeReason state reason target)
      (.ofRequest reason target state.now) := by
  unfold Waits queuePendingWakeReason
  dsimp only
  split
  next => exact ⟨_, by rw [get_set, if_pos rfl], le_rfl⟩
  next previous found =>
    split
    next => exact ⟨_, by rw [get_set, if_pos rfl], le_rfl⟩
    next kept =>
      refine ⟨previous, found, Nat.le_of_not_lt fun higher => kept ?_⟩
      simp [PendingWake.replaces, higher]

variable {state : WakeState} {wake : PendingWake}

theorem queue_keeps (waits : Waits state wake) (reason : Option String) (target : WakeTarget) :
    Waits (queuePendingWakeReason state reason target) wake := by
  obtain ⟨waiting, stored, high⟩ := waits
  unfold Waits queuePendingWakeReason
  dsimp only
  by_cases same : getWakeTargetKey wake.target =
      getWakeTargetKey (PendingWake.ofRequest reason target state.now).target
  · rw [← same, stored]
    dsimp only
    split
    next replaced =>
      refine ⟨_, by rw [get_set, if_pos rfl], ?_⟩
      simp only [PendingWake.replaces, Bool.or_eq_true, Bool.and_eq_true, decide_eq_true_eq] at replaced
      omega
    next => exact ⟨waiting, stored, high⟩
  · split
    next => exact ⟨waiting, by rw [get_set_of_ne _ _ same, stored], high⟩
    next =>
      split
      · exact ⟨waiting, by rw [get_set_of_ne _ _ same, stored], high⟩
      · exact ⟨waiting, stored, high⟩

/-- A wake is queued again as itself. -/
theorem queueAgain_waits (state : WakeState) (wake : PendingWake) :
    Waits (queueAgain state wake) wake := by
  obtain ⟨waiting, stored, high⟩ := queue_waits state (some wake.reason) wake.target
  have sameTarget : (PendingWake.ofRequest (some wake.reason) wake.target state.now).target =
      wake.target := by
    rw [PendingWake.ofRequest_target, wake.targetNormal]
  have samePriority : (PendingWake.ofRequest (some wake.reason) wake.target state.now).priority =
      wake.priority := by
    rw [PendingWake.ofRequest_priority, wake.reasonNormal]
    exact wake.ranked.symm
  rw [sameTarget] at stored
  rw [samePriority] at high
  exact ⟨waiting, stored, high⟩

theorem foldl_queueAgain_keeps (wakes : List PendingWake)
    (waits : Waits state wake) : Waits (wakes.foldl queueAgain state) wake := by
  induction wakes generalizing state with
  | nil => exact waits
  | cons first wakes inductionHypothesis => exact inductionHypothesis (queue_keeps waits _ _)

theorem foldl_queueAgain_waits {wakes : List PendingWake} (state : WakeState)
    (member : wake ∈ wakes) : Waits (wakes.foldl queueAgain state) wake := by
  induction wakes generalizing state with
  | nil => exact absurd member List.not_mem_nil
  | cons first wakes inductionHypothesis =>
    rcases List.mem_cons.1 member with rfl | later
    · exact foldl_queueAgain_keeps wakes (queueAgain_waits state wake)
    · exact inductionHypothesis (queueAgain state first) later

/-! ### The invariant -/

/-- All wakes have targets of the set, those that wait have their keys, batches hold what they have
ahead, and one is in progress while `running` is set. -/
structure Tracked (targets : Set WakeTarget) (state : WakeState) : Prop where
  keyed : KeyedBy (fun wake => getWakeTargetKey wake.target) state.pendingWakes
  waiting : ∀ wake ∈ state.pendingWakes.values, wake.target ∈ targets
  batched : ∀ batch ∈ state.batches, ∀ wake ∈ batch.pendingBatch, wake.target ∈ targets
  ahead : ∀ batch ∈ state.batches, ∀ wake ∈ batch.rest, wake ∈ batch.pendingBatch
  current : ∀ batch ∈ state.batches, batch.current ∈ batch.pendingBatch
  busy : state.running = true → state.batches ≠ []

theorem tracked_initial (targets : Set WakeTarget) : Tracked targets .initial where
  keyed := keyedBy_empty _
  waiting := fun _ member => absurd member List.not_mem_nil
  batched := fun _ member => absurd member List.not_mem_nil
  ahead := fun _ member => absurd member List.not_mem_nil
  current := fun _ member => absurd member List.not_mem_nil
  busy := nofun

variable {targets : Set WakeTarget} {event : ℕ × WakeEvent} {state next : WakeState}

theorem queue_waiting
    (waiting : ∀ wake ∈ state.pendingWakes.values, wake.target ∈ targets) (reason : Option String)
    {target : WakeTarget} (known : target.normalized ∈ targets) :
    ∀ wake ∈ (queuePendingWakeReason state reason target).pendingWakes.values,
      wake.target ∈ targets := by
  have stored : ∀ wake ∈ (state.pendingWakes.set
      (getWakeTargetKey (PendingWake.ofRequest reason target state.now).target)
      (.ofRequest reason target state.now)).values, wake.target ∈ targets := by
    intro wake member
    obtain ⟨key, found⟩ := (mem_values_iff _ _).1 member
    rw [get_set] at found
    split at found
    · injection found with found
      exact found ▸ known
    · exact waiting wake ((mem_values_iff _ _).2 ⟨key, found⟩)
  unfold queuePendingWakeReason
  dsimp only
  split
  · exact stored
  split
  · exact stored
  · exact waiting

theorem foldl_queueAgain_waiting {wakes : List PendingWake}
    (waiting : ∀ wake ∈ state.pendingWakes.values, wake.target ∈ targets)
    (known : ∀ wake ∈ wakes, wake.target ∈ targets) :
    ∀ wake ∈ (wakes.foldl queueAgain state).pendingWakes.values, wake.target ∈ targets := by
  induction wakes generalizing state with
  | nil => exact waiting
  | cons first wakes inductionHypothesis =>
    refine inductionHypothesis (queue_waiting waiting _ ?_)
      fun wake member => known wake (List.mem_cons_of_mem _ member)
    rw [first.targetNormal]
    exact known first List.mem_cons_self

/-- Scheduling keeps the wakes tracked. -/
theorem schedule_tracked (tracked : Tracked targets state) (delay : ℕ)
    (kind : WakeTimerKind) : Tracked targets (schedule state delay kind) := by
  rw [schedule_eq]
  exact { tracked with }

theorem continueBatch_tracked (generation delay : ℕ) {pendingBatch rest : List PendingWake}
    (keyed : KeyedBy (fun wake => getWakeTargetKey wake.target) state.pendingWakes)
    (waiting : ∀ wake ∈ state.pendingWakes.values, wake.target ∈ targets)
    (batched : ∀ batch ∈ state.batches, ∀ wake ∈ batch.pendingBatch, wake.target ∈ targets)
    (ahead : ∀ batch ∈ state.batches, ∀ wake ∈ batch.rest, wake ∈ batch.pendingBatch)
    (current : ∀ batch ∈ state.batches, batch.current ∈ batch.pendingBatch)
    (known : ∀ wake ∈ pendingBatch, wake.target ∈ targets)
    (part : ∀ wake ∈ rest, wake ∈ pendingBatch) :
    Tracked targets (continueBatch state generation delay pendingBatch rest) := by
  cases rest with
  | nil =>
    rw [continueBatch, finishBatch_eq]
    exact ⟨keyed, waiting, batched, ahead, current, fun more => by cases more⟩
  | cons first rest =>
    have either : ∀ batch ∈ state.batches ++ [⟨generation, delay, pendingBatch, first, rest⟩],
        batch ∈ state.batches ∨ batch = ⟨generation, delay, pendingBatch, first, rest⟩ :=
      fun batch member => (List.mem_append.1 member).imp_right List.mem_singleton.1
    refine ⟨keyed, waiting, fun batch member => ?_, fun batch member => ?_,
      fun batch member => ?_, fun _ => List.append_ne_nil_of_right_ne_nil _ (List.cons_ne_nil _ _)⟩
    · obtain old | rfl := either batch member
      · exact batched batch old
      · exact known
    · obtain old | rfl := either batch member
      · exact ahead batch old
      · exact fun wake next => part wake (List.mem_cons_of_mem _ next)
    · obtain old | rfl := either batch member
      · exact current batch old
      · exact part first List.mem_cons_self

theorem settle_tracked (tracked : Tracked targets state) {index : ℕ}
    {batch : WakeBatch} (found : state.batches[index]? = some batch) (result : CallResult) :
    Tracked targets
      (settleCall { state with batches := state.batches.eraseIdx index } batch result) := by
  have whole := perm_eraseIdx found
  have member : batch ∈ state.batches := whole.mem_iff.1 List.mem_cons_self
  have others : ∀ other ∈ state.batches.eraseIdx index, other ∈ state.batches :=
    fun other inside => whole.mem_iff.1 (List.mem_cons_of_mem _ inside)
  have refused : ∀ wake ∈ refusedWakes batch result, wake.target ∈ targets := by
    unfold refusedWakes
    split
    · exact tracked.batched batch member
    · intro wake inside
      rw [List.mem_singleton] at inside
      exact inside ▸ tracked.batched batch member _ (tracked.current batch member)
  rw [settleCall_eq]
  refine continueBatch_tracked _ _ ?_ ?_ ?_ ?_ ?_ (tracked.batched batch member) ?_
  · unfold afterCall
    split
    · rw [schedule_pendingWakes]
      exact keyedBy_foldl_queueAgain _ tracked.keyed
    · exact tracked.keyed
  · unfold afterCall
    split
    · rw [schedule_pendingWakes]
      exact foldl_queueAgain_waiting tracked.waiting refused
    · exact tracked.waiting
  · rw [afterCall_batches]
    exact fun other inside => tracked.batched other (others other inside)
  · rw [afterCall_batches]
    exact fun other inside => tracked.ahead other (others other inside)
  · rw [afterCall_batches]
    exact fun other inside => tracked.current other (others other inside)
  · unfold remainingWakes
    split
    · exact fun wake inside => absurd inside List.not_mem_nil
    · exact tracked.ahead batch member

theorem fireTimer_tracked (tracked : Tracked targets state)
    (timer : WakeTimer) : Tracked targets (fireTimer state timer) := by
  unfold fireTimer
  dsimp only
  split
  next => exact { tracked with }
  next =>
    split
    next =>
      refine schedule_tracked ?_ _ _
      exact { tracked with }
    next =>
      exact continueBatch_tracked _ _ (keyedBy_empty _)
        (fun _ member => absurd member List.not_mem_nil) tracked.batched tracked.ahead
        tracked.current tracked.waiting fun wake member => member

theorem step_tracked (tracked : Tracked targets state) (among : Among targets state event)
    (taken : step state event = some next) : Tracked targets next := by
  obtain ⟨now, event⟩ := event
  have taken := (step_eq_some taken).2
  have tracked : Tracked targets { state with now } := { tracked with }
  cases event with
  | idle =>
    injection taken with taken
    exact taken ▸ tracked
  | request reason coalesceMs target =>
    injection taken with taken
    subst taken
    refine schedule_tracked ?_ _ _
    have keyed := keyedBy_queue reason target tracked.keyed
    have waiting := queue_waiting tracked.waiting reason (among reason coalesceMs target rfl)
    rw [queuePendingWakeReason_eq]
    exact { tracked with keyed := keyed, waiting := waiting }
  | fire =>
    obtain ⟨timer, -, -, rfl⟩ := happen_fire taken
    exact fireTimer_tracked tracked timer
  | settle index result =>
    obtain ⟨batch, found, rfl⟩ := happen_settle taken
    exact settle_tracked tracked found result
  | register handler =>
    injection taken with taken
    subst taken
    unfold setHeartbeatWakeHandler
    dsimp only
    split
    next => exact { tracked with }
    next =>
      split
      · refine schedule_tracked ?_ _ _
        exact { tracked with busy := nofun }
      · exact { tracked with busy := nofun }
  | dispose generation handler =>
    injection taken with taken
    subst taken
    unfold disposeHandler
    split
    · exact tracked
    split
    · exact tracked
    · exact { tracked with }

/-! ### Steps on owed wakes -/

/-- A call that is made for a wake. -/
theorem passed_of_called {wake next : PendingWake} (known : wake.target ∈ targets)
    (nextKnown : next.target ∈ targets) (separate : Set.InjOn getWakeTargetKey targets)
    (sameKey : getWakeTargetKey next.target = getWakeTargetKey wake.target)
    (high : wake.priority ≤ next.priority) {state after : WakeState} (generation : ℕ)
    (called : .called generation next.target next.reason after.now ∈
      after.history.drop state.history.length) : Passed wake state after := by
  have sameTarget := separate nextKnown known sameKey
  refine ⟨generation, next.reason, sameTarget ▸ called, ?_⟩
  rw [← next.ranked]
  exact high

/-- What a batch does with a wake that comes later in it, when its call does not throw. -/
theorem settle_comes (separate : Set.InjOn getWakeTargetKey targets) (state : WakeState)
    {batch : WakeBatch} (known : wake.target ∈ targets)
    (batched : ∀ next ∈ batch.rest, next.target ∈ targets) (comes : Comes batch wake)
    {result : CallResult} (returned : result ≠ .thrown) :
    Passed wake state (settleCall state batch result) ∨
      ∃ later ∈ (settleCall state batch result).batches,
        Comes later wake ∧ later.rest.length < batch.rest.length := by
  obtain ⟨next, member, sameKey, high⟩ := comes
  rw [settleCall_eq, remainingWakes, if_neg returned]
  obtain ⟨told, history⟩ : ∃ told, (afterCall state batch result).history =
      state.history ++ told := by
    unfold afterCall
    split
    · exact ⟨_, by rw [schedule_history, foldl_queueAgain_eq]⟩
    · exact ⟨[], by simp⟩
  cases rest : batch.rest with
  | nil => simp [rest] at member
  | cons first others =>
    rw [rest] at member batched
    rcases List.mem_cons.1 member with rfl | later
    · left
      refine passed_of_called known (batched next List.mem_cons_self) separate sameKey high
        batch.generation ?_
      show _ ∈ (List.drop state.history.length ((afterCall state batch result).history ++ [_]))
      rw [history, List.append_assoc, List.drop_left]
      exact List.mem_append_right _ (List.mem_singleton_self _)
    · right
      refine ⟨⟨batch.generation, batch.delay, batch.pendingBatch, first, others⟩,
        List.mem_append_right _ (List.mem_singleton_self _), ⟨next, later, sameKey, high⟩, ?_⟩
      simp

/-- A timer that fires on a handler while no batch runs makes a batch of all that waits. -/
theorem fireTimer_waits (separate : Set.InjOn getWakeTargetKey targets)
    (tracked : Tracked targets state) (known : wake.target ∈ targets)
    (waits : Waits state wake) (handled : state.handler.isSome) (idle : state.running = false)
    (timer : WakeTimer) : Passed wake state (fireTimer state timer) ∨
      ∃ batch ∈ (fireTimer state timer).batches, Comes batch wake := by
  obtain ⟨waiting, stored, high⟩ := waits
  have member : waiting ∈ state.pendingWakes.values := (mem_values_iff _ _).2 ⟨_, stored⟩
  have sameKey := tracked.keyed _ _ stored
  obtain ⟨function, registered⟩ := Option.isSome_iff_exists.1 handled
  unfold fireTimer
  dsimp only
  rw [registered]
  dsimp only
  rw [if_neg (by simp [idle])]
  cases values : state.pendingWakes.values with
  | nil => simp [values] at member
  | cons first others =>
    rw [values] at member
    rcases List.mem_cons.1 member with rfl | later
    · left
      refine passed_of_called known (tracked.waiting waiting (values ▸ List.mem_cons_self)) separate
        sameKey high state.handlerGeneration ?_
      show _ ∈ List.drop state.history.length (state.history ++ [_])
      rw [List.drop_left]
      exact List.mem_singleton_self _
    · right
      exact ⟨_, List.mem_append_right _ (List.mem_singleton_self _), waiting, later, sameKey, high⟩

/-- A timer that does not start a batch leaves what waits. -/
theorem fireTimer_keeps (waits : Waits state wake)
    (stays : state.handler.isSome → state.running = true) (timer : WakeTimer) :
    Waits (fireTimer state timer) wake := by
  unfold fireTimer
  dsimp only
  split
  next => exact waits
  next function registered =>
    rw [if_pos (stays (by rw [registered]; rfl))]
    unfold Waits
    rw [schedule_pendingWakes]
    exact waits

theorem settleCall_keeps (waits : Waits state wake)
    (batch : WakeBatch) (result : CallResult) : Waits (settleCall state batch result) wake := by
  have after : Waits (afterCall state batch result) wake := by
    unfold afterCall
    split
    · unfold Waits
      rw [schedule_pendingWakes]
      exact foldl_queueAgain_keeps _ waits
    · exact waits
  rw [settleCall_eq]
  unfold Waits
  cases remainingWakes batch result with
  | nil =>
    rw [continueBatch, finishBatch_pendingWakes]
    exact after
  | cons current rest => exact after

/-- What waits stays, unless a timer starts a batch. -/
theorem step_keeps (waits : Waits state wake) (taken : step state event = some next)
    (stays : event.2 = .fire → state.handler.isSome → state.running = true) : Waits next wake := by
  obtain ⟨now, event⟩ := event
  have taken := (step_eq_some taken).2
  have waits : Waits { state with now } wake := waits
  cases event with
  | idle =>
    injection taken with taken
    exact taken ▸ waits
  | request reason coalesceMs target =>
    injection taken with taken
    subst taken
    unfold Waits requestHeartbeatNow
    rw [schedule_pendingWakes]
    exact queue_keeps waits reason target
  | fire =>
    obtain ⟨timer, -, -, rfl⟩ := happen_fire taken
    exact fireTimer_keeps waits (stays rfl) timer
  | settle index result =>
    obtain ⟨batch, -, rfl⟩ := happen_settle taken
    have waits : Waits { state with now, batches := state.batches.eraseIdx index } wake := waits
    exact settleCall_keeps waits batch result
  | register handler =>
    injection taken with taken
    subst taken
    unfold Waits setHeartbeatWakeHandler
    dsimp only
    split
    · exact waits
    split
    · rw [schedule_pendingWakes]
      exact waits
    · exact waits
  | dispose generation handler =>
    injection taken with taken
    subst taken
    unfold Waits disposeHandler
    split
    · exact waits
    split
    · exact waits
    · exact waits

/-- A batch stays in progress until its call ends. -/
theorem batch_stays {batch : WakeBatch}
    (member : batch ∈ state.batches) (taken : step state event = some next) :
    batch ∈ next.batches ∨ ∃ index result, event.2 = .settle index result ∧
      state.batches[index]? = some batch ∧ next = settleCall
        { state with now := event.1, batches := state.batches.eraseIdx index } batch result := by
  obtain ⟨now, event⟩ := event
  have taken := (step_eq_some taken).2
  cases event with
  | idle =>
    injection taken with taken
    exact .inl (taken ▸ member)
  | request reason coalesceMs target =>
    injection taken with taken
    left
    rw [← taken, requestHeartbeatNow, schedule_batches, queuePendingWakeReason_batches]
    exact member
  | fire =>
    obtain ⟨timer, -, -, rfl⟩ := happen_fire taken
    left
    unfold fireTimer
    dsimp only
    split
    next => exact member
    next =>
      split
      next =>
        rw [schedule_batches]
        exact member
      next =>
        cases state.pendingWakes.values with
        | nil =>
          rw [continueBatch, finishBatch_batches]
          exact member
        | cons first others => exact List.mem_append_left _ member
  | settle index result =>
    obtain ⟨settled, found, rfl⟩ := happen_settle taken
    rcases List.mem_cons.1 ((perm_eraseIdx found).mem_iff.2 member) with rfl | other
    · exact .inr ⟨index, result, rfl, found, rfl⟩
    · left
      rw [settleCall_eq]
      cases remainingWakes settled result with
      | nil =>
        rw [continueBatch, finishBatch_batches, afterCall_batches]
        exact other
      | cons first others =>
        refine List.mem_append_left _ ?_
        rw [afterCall_batches]
        exact other
  | register handler =>
    injection taken with taken
    left
    rw [← taken]
    unfold setHeartbeatWakeHandler
    dsimp only
    split
    · exact member
    split
    · rw [schedule_batches]
      exact member
    · exact member
  | dispose generation handler =>
    injection taken with taken
    left
    rw [← taken]
    unfold disposeHandler
    split
    · exact member
    split
    · exact member
    · exact member

theorem step_handled (handled : state.handler.isSome) (taken : step state event = some next)
    (registered : ∀ handler, event.2 ≠ .register handler)
    (undisposed : ∀ generation handler, event.2 ≠ .dispose generation handler) :
    next.handler.isSome := by
  obtain ⟨now, event⟩ := event
  have taken := (step_eq_some taken).2
  cases event with
  | idle =>
    injection taken with taken
    exact taken ▸ handled
  | request reason coalesceMs target =>
    injection taken with taken
    rw [← taken, requestHeartbeatNow, schedule_handler, queuePendingWakeReason_handler]
    exact handled
  | fire =>
    obtain ⟨timer, -, -, rfl⟩ := happen_fire taken
    unfold fireTimer
    dsimp only
    split
    next => exact handled
    next =>
      split
      next =>
        rw [schedule_handler]
        exact handled
      next =>
        cases state.pendingWakes.values with
        | nil =>
          rw [continueBatch, finishBatch_handler]
          exact handled
        | cons first others => exact handled
  | settle index result =>
    obtain ⟨batch, -, rfl⟩ := happen_settle taken
    rw [settleCall_eq]
    cases remainingWakes batch result with
    | nil =>
      rw [continueBatch, finishBatch_handler, afterCall_handler]
      exact handled
    | cons first others =>
      show (afterCall _ batch result).handler.isSome
      rw [afterCall_handler]
      exact handled
  | register handler => exact absurd rfl (registered handler)
  | dispose generation handler => exact absurd rfl (undisposed generation handler)

/-- Only a timer that fires sets `running`. -/
theorem step_idle (idle : state.running = false)
    (taken : step state event = some next) (other : event.2 ≠ .fire) : next.running = false := by
  obtain ⟨now, event⟩ := event
  have taken := (step_eq_some taken).2
  cases event with
  | idle =>
    injection taken with taken
    exact taken ▸ idle
  | request reason coalesceMs target =>
    injection taken with taken
    rw [← taken, requestHeartbeatNow, schedule_running, queuePendingWakeReason_running]
    exact idle
  | fire => exact absurd rfl other
  | settle index result =>
    obtain ⟨batch, -, rfl⟩ := happen_settle taken
    rw [settleCall_eq]
    cases remainingWakes batch result with
    | nil => rw [continueBatch, finishBatch_running]
    | cons first others =>
      show (afterCall _ batch result).running = false
      rw [afterCall_running]
      exact idle
  | register handler =>
    injection taken with taken
    rw [← taken]
    unfold setHeartbeatWakeHandler
    dsimp only
    split
    · exact idle
    split
    · rw [schedule_running]
    · rfl
  | dispose generation handler =>
    injection taken with taken
    rw [← taken]
    unfold disposeHandler
    split
    · exact idle
    split
    · exact idle
    · exact idle

/-- Owed wakes are passed or stay owed, also when a call throws. -/
theorem step_owed (separate : Set.InjOn getWakeTargetKey targets)
    (tracked : Tracked targets state) (known : wake.target ∈ targets) (owed : Owed state wake)
    (taken : step state event = some next) : Passed wake state next ∨ Owed next wake := by
  rcases owed with waits | ⟨batch, member, comes⟩
  · by_cases starts : event.2 = .fire ∧ state.handler.isSome ∧ state.running = false
    · obtain ⟨isFire, handled, idle⟩ := starts
      obtain ⟨now, event⟩ := event
      have taken := (step_eq_some taken).2
      obtain rfl : event = .fire := isFire
      obtain ⟨timer, -, -, rfl⟩ := happen_fire taken
      have tracked : Tracked targets { state with now } := { tracked with }
      exact (fireTimer_waits separate tracked known waits handled idle timer).imp_right .inr
    · refine .inr (.inl (step_keeps waits taken fun isFire handled => ?_))
      by_contra idle
      exact starts ⟨isFire, handled, Bool.eq_false_iff.2 idle⟩
  · rcases batch_stays member taken with stays | ⟨index, result, -, found, rfl⟩
    · exact .inr (.inr ⟨batch, stays, comes⟩)
    have batched : ∀ next ∈ batch.rest, next.target ∈ targets := fun next later =>
      tracked.batched batch member next (tracked.ahead batch member next later)
    by_cases threw : result = .thrown
    · right; left
      subst threw
      obtain ⟨next, later, sameKey, high⟩ := comes
      obtain ⟨waiting, stored, higher⟩ := foldl_queueAgain_waits
        { state with
          now := event.1
          batches := state.batches.eraseIdx index
          history := state.history ++ [.refused batch.current.target event.1] }
        (tracked.ahead batch member next later)
      refine ⟨waiting, ?_, high.trans higher⟩
      rw [settleCall, finishBatch_pendingWakes, schedule_pendingWakes, ← sameKey]
      exact stored
    · obtain passed | ⟨later, inside, comes, -⟩ := settle_comes separate
        { state with now := event.1, batches := state.batches.eraseIdx index } known batched comes threw
      · exact .inl passed
      · exact .inr (.inr ⟨later, inside, comes⟩)

/-! ### Fair runs -/

section Fairness

variable {trace : Trace step (Among targets) .initial} {first : ℕ} {wake : PendingWake} {time : ℕ}

theorem trace_tracked (trace : Trace step (Among targets) .initial) (time : ℕ) :
    Tracked targets (trace.states time) :=
  trace.invariant (fun _ _ _ tracked among taken => step_tracked tracked among taken)
    (tracked_initial targets) time

theorem trace_armed (trace : Trace step (Among targets) .initial) (time : ℕ) :
    Armed (trace.states time) :=
  trace.invariant (fun _ _ _ armed _ taken => step_armed armed taken) nofun time

theorem Fair.isHandled (fair : Fair trace first) (later : first ≤ time) :
    (trace.states time).handler.isSome := by
  induction time, later using Nat.le_induction with
  | base => exact fair.handled
  | succ time later inductionHypothesis =>
    exact step_handled inductionHypothesis (trace.taken time) (fair.registered time later)
      (fair.undisposed time later)

/-- The call that a batch waits for ends now. -/
def Settles (trace : Trace step (Among targets) .initial) (batch : WakeBatch) (time : ℕ) : Prop :=
  batch ∈ (trace.states time).batches ∧ ∃ index result,
    (trace.actions time).2 = .settle index result ∧
    trace.states (time + 1) = settleCall { trace.states time with
      now := (trace.actions time).1
      batches := (trace.states time).batches.eraseIdx index } batch result

/-- A timer starts a batch now. -/
def Starts (trace : Trace step (Among targets) .initial) (time : ℕ) : Prop :=
  (trace.actions time).2 = .fire ∧ (trace.states time).running = false

theorem Fair.settles (fair : Fair trace first) {batch : WakeBatch}
    (member : batch ∈ (trace.states time).batches) :
    ∃ later, time ≤ later ∧ Settles trace batch later := by
  obtain ⟨gone, after, absent⟩ := fair.ends time batch member
  have lasts := Trace.lasts_or_happens (fun time => batch ∈ (trace.states time).batches)
    (Settles trace batch) member (fun time _ inside => ?_) gone after
  · obtain ⟨later, reached, -, settles⟩ | stays := lasts
    · exact ⟨later, reached, settles⟩
    · exact absurd stays absent
  · obtain stays | ⟨index, result, is, -, next⟩ := batch_stays inside (trace.taken time)
    · exact .inr stays
    · exact .inl ⟨inside, index, result, is, next⟩

/-- Batches in progress end. -/
theorem Fair.idles_of_batch (fair : Fair trace first) {size time : ℕ} {batch : WakeBatch}
    (member : batch ∈ (trace.states time).batches) (isSize : batch.rest.length = size) :
    ∃ later, time ≤ later ∧ (trace.states later).running = false := by
  induction size using Nat.strong_induction_on generalizing time batch with
  | _ size inductionHypothesis =>
    obtain ⟨later, after, -, index, result, -, next⟩ := fair.settles member
    rw [settleCall_eq] at next
    cases remaining : remainingWakes batch result with
    | nil =>
      rw [remaining, continueBatch] at next
      exact ⟨later + 1, Nat.le_succ_of_le after, by rw [next, finishBatch_running]⟩
    | cons current rest =>
      rw [remaining] at next
      have inside : ⟨batch.generation, batch.delay, batch.pendingBatch, current, rest⟩ ∈
          (trace.states (later + 1)).batches := by
        rw [next]
        exact List.mem_append_right _ (List.mem_singleton_self _)
      have shorter : rest.length < size := by
        have whole : batch.rest = current :: rest := by
          unfold remainingWakes at remaining
          split at remaining
          · cases remaining
          · exact remaining
        rw [← isSize, whole]
        exact Nat.lt_succ_self _
      obtain ⟨idle, reached, quiet⟩ := inductionHypothesis rest.length shorter inside rfl
      exact ⟨idle, (Nat.le_succ_of_le after).trans reached, quiet⟩

theorem Fair.idles (fair : Fair trace first) (time : ℕ) :
    ∃ later, time ≤ later ∧ (trace.states later).running = false := by
  cases running : (trace.states time).running with
  | false => exact ⟨time, le_rfl, running⟩
  | true =>
    obtain ⟨batch, member⟩ := List.exists_mem_of_ne_nil _ ((trace_tracked trace time).busy running)
    exact fair.idles_of_batch member rfl

/-- A wake that comes later in a batch is passed. -/
theorem Fair.comes_passes (fair : Fair trace first)
    (separate : Set.InjOn getWakeTargetKey targets)
    (known : wake.target ∈ targets) {size time : ℕ} (late : first ≤ time) {batch : WakeBatch}
    (member : batch ∈ (trace.states time).batches) (comes : Comes batch wake)
    (isSize : batch.rest.length = size) :
    ∃ later, time ≤ later ∧ Passed wake (trace.states later) (trace.states (later + 1)) := by
  induction size using Nat.strong_induction_on generalizing time batch with
  | _ size inductionHypothesis =>
    obtain ⟨later, after, inside, index, result, is, next⟩ := fair.settles member
    have tracked := trace_tracked trace later
    have batched : ∀ next ∈ batch.rest, next.target ∈ targets := fun next ahead =>
      tracked.batched batch inside next (tracked.ahead batch inside next ahead)
    have returned : result ≠ .thrown := by
      rintro rfl
      exact fair.returns later (late.trans after) index is
    obtain passed | ⟨shorter, inNext, comes, less⟩ := settle_comes separate
      { trace.states later with
        now := (trace.actions later).1
        batches := (trace.states later).batches.eraseIdx index } known batched comes returned
    · exact ⟨later, after, next ▸ passed⟩
    · rw [← next] at inNext
      obtain ⟨final, reached, passed⟩ := inductionHypothesis shorter.rest.length (isSize ▸ less)
        (Nat.le_succ_of_le (late.trans after)) inNext comes rfl
      exact ⟨final, (Nat.le_succ_of_le after).trans reached, passed⟩

/-- What waits stays until a timer starts a batch. -/
theorem Fair.waits_until_start
    (waits : Waits (trace.states time) wake) {later : ℕ} (after : time ≤ later) :
    (∃ start, time ≤ start ∧ Starts trace start ∧ Waits (trace.states start) wake) ∨
      Waits (trace.states later) wake := by
  have lasts := Trace.lasts_or_happens (fun time => Waits (trace.states time) wake)
    (fun time => Starts trace time ∧ Waits (trace.states time) wake) waits
    (fun time _ waits => ?_) later after
  · exact lasts.imp_left fun ⟨start, reached, _, happens⟩ => ⟨start, reached, happens⟩
  · by_cases starts : Starts trace time
    · exact .inl ⟨starts, waits⟩
    · refine .inr (step_keeps waits (trace.taken time) fun isFire _ => ?_)
      by_contra idle
      exact starts ⟨isFire, Bool.eq_false_iff.2 idle⟩

/-- The timer that is armed for what waits starts a batch with it. -/
theorem Fair.starts (fair : Fair trace first) (late : first ≤ time)
    (waits : Waits (trace.states time) wake) :
    ∃ start, time ≤ start ∧ Starts trace start ∧ Waits (trace.states start) wake := by
  obtain ⟨idle, after, quiet⟩ := fair.idles time
  obtain done | waiting := Fair.waits_until_start waits after
  · exact done
  have armed : (trace.states idle).timer.isSome := by
    obtain ⟨waiting, stored, -⟩ := waiting
    exact trace_armed trace idle (fair.isHandled (late.trans after))
      (List.ne_nil_of_mem ((get_eq_some_iff _ _ _).1 stored))
  obtain ⟨fire, reached, isFire⟩ := fair.fires idle armed
  have starts : ∃ start, time ≤ start ∧ Starts trace start := by
    obtain ⟨start, since, -, starts⟩ | quiet := Trace.lasts_or_happens
      (fun time => (trace.states time).running = false) (Starts trace) quiet
      (fun time _ quiet => by
        by_cases isFire : (trace.actions time).2 = .fire
        · exact .inl ⟨isFire, quiet⟩
        · exact .inr (step_idle quiet (trace.taken time) isFire)) fire reached
    · exact ⟨start, after.trans since, starts⟩
    · exact ⟨fire, after.trans reached, isFire, quiet⟩
  obtain ⟨start, since, starts⟩ := starts
  obtain done | waiting := Fair.waits_until_start waits since
  · exact done
  · exact ⟨start, since, starts, waiting⟩

/-- An owed wake is passed. -/
theorem Fair.owed_passes (fair : Fair trace first)
    (separate : Set.InjOn getWakeTargetKey targets)
    (known : wake.target ∈ targets) (late : first ≤ time) (owed : Owed (trace.states time) wake) :
    ∃ later, time ≤ later ∧ Passed wake (trace.states later) (trace.states (later + 1)) := by
  rcases owed with waits | ⟨batch, member, comes⟩
  · obtain ⟨start, since, ⟨isFire, quiet⟩, waiting⟩ := fair.starts late waits
    have taken := trace.taken start
    have tracked := trace_tracked trace start
    have handled := fair.isHandled (late.trans since)
    have happened := (step_eq_some taken).2
    rw [isFire] at happened
    obtain ⟨timer, -, -, next⟩ := happen_fire happened
    have tracked : Tracked targets { trace.states start with now := (trace.actions start).1 } :=
      { tracked with }
    rcases fireTimer_waits separate tracked known waiting handled quiet timer with
      passed | ⟨batch, inside, comes⟩
    · exact ⟨start, since, next ▸ passed⟩
    · rw [← next] at inside
      obtain ⟨later, after, passed⟩ := fair.comes_passes separate known
        (Nat.le_succ_of_le (late.trans since)) inside comes rfl
      exact ⟨later, (Nat.le_succ_of_le since).trans after, passed⟩
  · exact fair.comes_passes separate known late member comes rfl

/-- A requested wake is passed. -/
theorem Fair.request_passes (fair : Fair trace first)
    (separate : Set.InjOn getWakeTargetKey targets) {time now : ℕ} {reason : Option String}
    {coalesceMs : Option ℤ} {target : WakeTarget}
    (requested : trace.actions time = (now, .request reason coalesceMs target)) :
    ∃ later, time ≤ later ∧ Passed (.ofRequest reason target now) (trace.states later)
      (trace.states (later + 1)) := by
  have known : (PendingWake.ofRequest reason target now).target ∈ targets := by
    rw [PendingWake.ofRequest_target]
    exact trace.admitted time reason coalesceMs target (by rw [requested])
  have owed : Owed (trace.states (time + 1)) (.ofRequest reason target now) := by
    have happened := (step_eq_some (trace.taken time)).2
    rw [requested] at happened
    injection happened with happened
    rw [← happened]
    left
    unfold Waits requestHeartbeatNow
    rw [schedule_pendingWakes]
    exact queue_waits { trace.states time with now } reason target
  obtain ⟨later, after, -, passed⟩ | owed := Trace.lasts_or_happens
    (fun time => Owed (trace.states time) (.ofRequest reason target now))
    (fun time => Passed (.ofRequest reason target now) (trace.states time) (trace.states (time + 1)))
    owed (fun time _ owed =>
      step_owed separate (trace_tracked trace time) known owed (trace.taken time))
    (max (time + 1) first) (le_max_left _ _)
  · exact ⟨later, Nat.le_of_succ_le after, passed⟩
  · obtain ⟨later, after, passed⟩ := fair.owed_passes separate known (le_max_right _ _) owed
    exact ⟨later, Nat.le_of_succ_le ((le_max_left _ _).trans after), passed⟩

end Fairness

/-! ### The result -/

/-- What the scheduler keeps, and in which runs. -/
structure WakesAreKept : Prop where
  armed : ∀ state, Reachable step .initial state → Armed state
  exclusive : ∀ events state, Steps step HandedOver .initial events state → Exclusive state
  backsOff : ∀ events state, Steps step Cools .initial events state → BacksOff state.history
  passed : ∀ targets, Set.InjOn getWakeTargetKey targets →
    ∀ (trace : Trace step (Among targets) .initial) (first : ℕ), Fair trace first →
      ∀ time now reason coalesceMs target,
        trace.actions time = (now, .request reason coalesceMs target) →
          ∃ later, time ≤ later ∧ Passed (.ofRequest reason target now) (trace.states later)
            (trace.states (later + 1))

theorem heartbeat_wakes_are_kept : WakesAreKept where
  armed _ reachable :=
    reachable.invariant (fun _ _ _ armed taken => step_armed armed taken) nofun
  exclusive _ _ run :=
    (run.invariant (fun _ _ _ owned handedOver taken => step_owned owned handedOver taken)
      owned_initial).exclusive
  backsOff _ _ run :=
    (run.invariant (fun _ _ _ cooled cools taken => step_cooled cooled cools taken)
      cooled_initial).backsOff
  passed _ separate _ _ fair _ _ _ _ _ requested := fair.request_passes separate requested

/-- A new handler is called before the retry delay has passed. A handler is called twice at a time,
after the batch of the handler before has ended. And a target is retried at once when a timer had
been armed before it was refused. -/
theorem heartbeats_overlap_and_hurry :
    (∃ state, Reachable step .initial state ∧ state.history =
      [.registered, .called 1 ⟨none, none⟩ "requested" 250, .refused ⟨none, none⟩ 250] ++
        [.registered, .called 2 ⟨none, none⟩ "requested" 500]) ∧
    (∃ state, Reachable step .initial state ∧ ¬Exclusive state) ∧
    ∃ state, Reachable step .initial state ∧ ¬BacksOff state.history := by
  have ran : ∀ (events : List (ℕ × WakeEvent)) (holds : WakeState → Bool),
      (execute step .initial events).any holds = true →
        ∃ state, Reachable step .initial state ∧ holds state = true := by
    intro events holds found
    obtain ⟨state, evaluates, held⟩ := (Option.any_eq_true _ _).1 found
    exact ⟨state, reachable_of_execute evaluates, held⟩
  refine ⟨?_, ?_, ?_⟩
  · obtain ⟨state, reachable, is⟩ := ran [(0, .register (some 1)), (0, .request none none ⟨none, none⟩),
      (250, .fire), (250, .settle 0 (.skipped "requests-in-flight")), (250, .register (some 2)),
      (500, .fire)] (fun state => state.history = [.registered,
        .called 1 ⟨none, none⟩ "requested" 250, .refused ⟨none, none⟩ 250, .registered,
        .called 2 ⟨none, none⟩ "requested" 500]) (by decide +kernel)
    exact ⟨state, reachable, of_decide_eq_true is⟩
  · obtain ⟨state, reachable, is⟩ := ran [(0, .register (some 1)), (0, .request none none ⟨none, none⟩),
      (250, .fire), (250, .register (some 2)), (250, .request none none ⟨none, none⟩), (500, .fire),
      (500, .settle 0 .ran), (500, .request none none ⟨none, none⟩), (750, .fire)]
      (fun state => state.batches.map WakeBatch.generation = [2, 2]) (by decide +kernel)
    refine ⟨state, reachable, ?_⟩
    rw [Exclusive, of_decide_eq_true is]
    decide
  · obtain ⟨state, reachable, is⟩ := ran [(0, .register (some 1)), (0, .request none none ⟨none, none⟩),
      (250, .fire), (250, .request none (some 0) ⟨none, none⟩),
      (250, .settle 0 (.skipped "requests-in-flight")), (251, .fire)]
      (fun state => state.history = [.registered, .called 1 ⟨none, none⟩ "requested" 250,
        .refused ⟨none, none⟩ 250, .called 1 ⟨none, none⟩ "requested" 251]) (by decide +kernel)
    refine ⟨state, reachable, fun backsOff => ?_⟩
    rw [of_decide_eq_true is] at backsOff
    exact absurd (backsOff [.registered, .called 1 ⟨none, none⟩ "requested" 250] [] []
      ⟨none, none⟩ 250 1 "requested" 251 rfl List.not_mem_nil) (by decide)

end OpenClaw.Heartbeat
