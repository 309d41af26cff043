/-
This file says when a refused target is left alone for the retry delay.

The refusals since the last registration are read off the history. Each is past or cools: the
retry timer is armed and does not fire before its delay has passed, and no batch in progress still
has the target ahead. Only a timer that fires starts a batch, so the target is not tried until then.
-/

import OpenClaw.Heartbeat.ScheduledWakes

namespace OpenClaw.Heartbeat

open Machine OrderedMap

/-! ### Refusals -/

/-- The refusals since a handler was registered. -/
def refusals (history : List WakeEntry) : List (WakeTarget × ℕ) :=
  history.foldl (fun refused entry => match entry with
    | .registered => []
    | .refused target time => refused ++ [(target, time)]
    | .called .. => refused) []

@[simp] theorem refusals_registered (history : List WakeEntry) :
    refusals (history ++ [.registered]) = [] := by
  simp [refusals]

@[simp] theorem refusals_refused (history : List WakeEntry) (target : WakeTarget) (time : ℕ) :
    refusals (history ++ [.refused target time]) = refusals history ++ [(target, time)] := by
  simp [refusals]

@[simp] theorem refusals_called (history : List WakeEntry) (generation : ℕ) (target : WakeTarget)
    (reason : String) (time : ℕ) :
    refusals (history ++ [.called generation target reason time]) = refusals history := by
  simp [refusals]

theorem mem_refusals (before between : List WakeEntry) (target : WakeTarget) (time : ℕ)
    (unregistered : .registered ∉ between) :
    (target, time) ∈ refusals (before ++ .refused target time :: between) := by
  induction between using List.reverseRecOn with
  | nil => simp
  | append_singleton between entry inductionHypothesis =>
    rw [List.mem_append, not_or] at unregistered
    have earlier := inductionHypothesis unregistered.1
    have grows : before ++ .refused target time :: (between ++ [entry]) =
        before ++ .refused target time :: between ++ [entry] := by simp
    rw [grows]
    cases entry with
    | registered => exact absurd (List.mem_singleton_self _) unregistered.2
    | called generation other reason called =>
      rw [refusals_called]
      exact earlier
    | refused other refused =>
      rw [refusals_refused]
      exact List.mem_append_left _ earlier

/-- A history backs off when each call it is extended by does. -/
theorem BacksOff.append {history : List WakeEntry} (backsOff : BacksOff history) {entry : WakeEntry}
    (late : ∀ generation target reason triedAt,
      entry = .called generation target reason triedAt →
      ∀ refusedAt, (target, refusedAt) ∈ refusals history →
        refusedAt + defaultRetryMs ≤ triedAt) : BacksOff (history ++ [entry]) := by
  intro before between after target refusedAt generation reason triedAt is unregistered
  rcases after.eq_nil_or_concat with rfl | ⟨earlier, last, rfl⟩
  · obtain ⟨rfl, same⟩ := List.append_inj' is rfl
    injection same with same
    exact late generation target reason triedAt same refusedAt
      (mem_refusals before between target refusedAt unregistered)
  · have shorter : history ++ [entry] = (before ++ .refused target refusedAt :: between ++
        .called generation target reason triedAt :: earlier) ++ [last] := by simpa using is
    exact backsOff _ _ _ _ _ _ _ _ (List.append_inj' shorter rfl).1 unregistered

theorem backsOff_nil : BacksOff [] := by
  intro before between after target refusedAt generation reason triedAt is
  simp at is

/-! ### The invariant -/

/-- A refused target waits for the retry timer. -/
structure Cooling (state : WakeState) (target : WakeTarget) (refusedAt : ℕ) : Prop where
  armed : ∃ timer, state.timer = some timer ∧ timer.kind = .retry ∧
    refusedAt + defaultRetryMs ≤ timer.firesAt
  ahead : ∀ batch ∈ state.batches, ∀ wake ∈ batch.rest, wake.target ≠ target

structure Cooled (state : WakeState) : Prop where
  backsOff : BacksOff state.history
  cooling : ∀ refusal ∈ refusals state.history,
    refusal.2 + defaultRetryMs ≤ state.now ∨ Cooling state refusal.1 refusal.2
  /-- Retry timers have the retry delay. -/
  retries : ∀ timer, state.timer = some timer → timer.kind = .retry →
    timer.delay = defaultRetryMs ∧ timer.firesAt = timer.dueAt
  keyed : KeyedBy (fun wake => getWakeTargetKey wake.target) state.pendingWakes
  apart : ∀ batch ∈ state.batches,
    ((batch.current :: batch.rest).map PendingWake.target).Nodup

theorem cooled_initial : Cooled .initial where
  backsOff := backsOff_nil
  cooling := fun _ member => absurd member List.not_mem_nil
  retries := fun _ armed => nomatch armed
  keyed := keyedBy_empty _
  apart := fun _ member => absurd member List.not_mem_nil

variable {state : WakeState}

/-- Time passes. -/
theorem Cooled.later (cooled : Cooled state) {now : ℕ} (later : state.now ≤ now) :
    Cooled { state with now } :=
  { cooled with
    cooling := fun refusal member => (cooled.cooling refusal member).imp
      (fun past => past.trans later) (fun cooling => ⟨cooling.armed, cooling.ahead⟩) }

/-- Without a retry timer all refusals are past. -/
theorem Cooled.past (cooled : Cooled state)
    (normal : ∀ timer, state.timer = some timer → timer.kind = .normal) :
    ∀ refusal ∈ refusals state.history, refusal.2 + defaultRetryMs ≤ state.now := by
  intro refusal member
  refine (cooled.cooling refusal member).resolve_right ?_
  rintro ⟨⟨timer, armed, retry, -⟩, -⟩
  rw [normal timer armed] at retry
  cases retry

theorem schedule_cooled (cooled : Cooled state) {delay : ℕ}
    {kind : WakeTimerKind} (standard : kind = .retry → delay = defaultRetryMs) :
    Cooled (schedule state delay kind) := by
  obtain ⟨_, -, same, -⟩ | ⟨normal, same⟩ := schedule_cases state delay kind
  · rw [same]
    exact cooled
  · rw [same]
    have past := cooled.past fun timer armed => (normal timer armed).1
    refine { cooled with cooling := fun refusal member => .inl (past refusal member), retries := ?_ }
    intro timer armed retry
    injection armed with armed
    subst armed
    obtain rfl := standard retry
    exact ⟨rfl, rfl⟩

theorem keyedBy_queue (reason : Option String) (target : WakeTarget)
    (keyed : KeyedBy (fun wake => getWakeTargetKey wake.target) state.pendingWakes) :
    KeyedBy (fun wake => getWakeTargetKey wake.target)
      (queuePendingWakeReason state reason target).pendingWakes := by
  unfold queuePendingWakeReason
  dsimp only
  split
  · exact keyed.set rfl
  split
  · exact keyed.set rfl
  · exact keyed

theorem keyedBy_foldl_queueAgain (wakes : List PendingWake) {state : WakeState}
    (keyed : KeyedBy (fun wake => getWakeTargetKey wake.target) state.pendingWakes) :
    KeyedBy (fun wake => getWakeTargetKey wake.target)
      (wakes.foldl queueAgain state).pendingWakes := by
  induction wakes generalizing state with
  | nil => exact keyed
  | cons wake wakes inductionHypothesis => exact inductionHypothesis (keyedBy_queue _ _ keyed)

/-- A batch goes on with wakes whose targets are not cooling. -/
theorem continueBatch_cooled (cooled : Cooled state) (generation delay : ℕ)
    (pendingBatch : List PendingWake) {rest : List PendingWake}
    (ahead : ∀ refusal ∈ refusals state.history, refusal.2 + defaultRetryMs ≤ state.now ∨
      ∀ wake ∈ rest, wake.target ≠ refusal.1)
    (apart : (rest.map PendingWake.target).Nodup) :
    Cooled (continueBatch state generation delay pendingBatch rest) := by
  cases rest with
  | nil =>
    have idle : Cooled { state with running := false } :=
      { cooled with
        cooling := fun refusal member => (cooled.cooling refusal member).imp_right
          fun cooling => ⟨cooling.armed, cooling.ahead⟩ }
    unfold continueBatch finishBatch
    dsimp only
    split
    · exact schedule_cooled idle nofun
    · exact idle
  | cons current rest =>
    have called : BacksOff (state.history ++
        [.called generation current.target current.reason state.now]) := by
      refine cooled.backsOff.append fun _ target _ triedAt is refusedAt member => ?_
      injection is with _ sameTarget _ sameTime
      subst sameTarget sameTime
      exact (ahead _ member).resolve_right fun away => away current List.mem_cons_self rfl
    refine ⟨called, fun refusal member => ?_, cooled.retries, cooled.keyed, fun batch member => ?_⟩
    · have member : refusal ∈ refusals state.history := by simpa [continueBatch] using member
      rcases cooled.cooling refusal member with past | cooling
      · exact .inl past
      rcases ahead refusal member with past | away
      · exact .inl past
      refine .inr ⟨cooling.armed, fun batch inside wake next => ?_⟩
      rcases List.mem_append.1 inside with old | new
      · exact cooling.ahead batch old wake next
      · rw [List.mem_singleton] at new
        subst new
        exact away wake (List.mem_cons_of_mem _ next)
    · rcases List.mem_append.1 member with old | new
      · exact cooled.apart batch old
      · rw [List.mem_singleton] at new
        exact new ▸ apart

/-- A refusal that finds no earlier timer cools. -/
theorem afterCall_cooled (cooled : Cooled state) (batch : WakeBatch)
    (result : CallResult) (late : result.refuses = true →
      (∀ timer, state.timer = some timer → timer.IsLate state.now) ∧
        ∀ other ∈ state.batches, ∀ wake ∈ other.rest, wake.target ≠ batch.current.target) :
    Cooled (afterCall state batch result) := by
  unfold afterCall
  split
  next refuses =>
    obtain ⟨late, away⟩ := late refuses
    have keyed := @keyedBy_foldl_queueAgain (refusedWakes batch result) { state with
      history := state.history ++ [.refused batch.current.target state.now] } cooled.keyed
    rw [foldl_queueAgain_eq]
    generalize (List.foldl queueAgain _ (refusedWakes batch result)).pendingWakes = pending at keyed ⊢
    have backsOff : BacksOff (state.history ++ [.refused batch.current.target state.now]) :=
      cooled.backsOff.append nofun
    obtain ⟨timer, armed, same, kept⟩ | ⟨normal, same⟩ := schedule_cases { state with
      pendingWakes := pending
      history := state.history ++ [.refused batch.current.target state.now] } defaultRetryMs .retry
    · rw [same]
      refine ⟨backsOff, fun refusal member => ?_, cooled.retries, keyed, cooled.apart⟩
      have isLate := late timer armed
      have retry : timer.kind = .retry := by
        cases own : timer.kind with
        | retry => rfl
        | normal =>
          rw [WakeTimer.IsLate, own] at isLate
          have early := kept.resolve_left (by rw [own]; nofun)
          exact absurd isLate (Nat.not_lt.2 early)
      rw [refusals_refused, List.mem_append, List.mem_singleton] at member
      rcases member with old | rfl
      · exact (cooled.cooling refusal old).imp_right fun cooling => ⟨cooling.armed, cooling.ahead⟩
      · rw [WakeTimer.IsLate, retry] at isLate
        refine .inr ⟨⟨timer, armed, retry, ?_⟩, away⟩
        rw [(cooled.retries timer armed retry).2]
        exact isLate
    · rw [same]
      have past := cooled.past fun timer armed => (normal timer armed).1
      refine ⟨backsOff, fun refusal member => ?_, fun timer armed _ => ?_, keyed, cooled.apart⟩
      · rw [refusals_refused, List.mem_append, List.mem_singleton] at member
        rcases member with old | rfl
        · exact .inl (past refusal old)
        · exact .inr ⟨⟨_, rfl, rfl, le_rfl⟩, away⟩
      · injection armed with armed
        subst armed
        exact ⟨rfl, rfl⟩
  next => exact cooled

/-! ### Steps -/

theorem settle_cooled (cooled : Cooled state) {index : ℕ} {batch : WakeBatch}
    (found : state.batches[index]? = some batch) {result : CallResult}
    (cools : result.refuses = true → (∀ timer, state.timer = some timer → timer.IsLate state.now) ∧
      ∀ other ∈ state.batches.eraseIdx index, ∀ wake ∈ other.rest,
        wake.target ≠ batch.current.target) :
    Cooled (settleCall { state with batches := state.batches.eraseIdx index } batch result) := by
  have whole := perm_eraseIdx found
  have member : batch ∈ state.batches := whole.mem_iff.1 List.mem_cons_self
  have others : ∀ other ∈ state.batches.eraseIdx index, other ∈ state.batches :=
    fun other inside => whole.mem_iff.1 (List.mem_cons_of_mem _ inside)
  have reduced : Cooled { state with batches := state.batches.eraseIdx index } :=
    { cooled with
      cooling := fun refusal inside => (cooled.cooling refusal inside).imp_right fun cooling =>
        ⟨cooling.armed, fun other listed => cooling.ahead other (others other listed)⟩
      apart := fun other listed => cooled.apart other (others other listed) }
  have apart := cooled.apart batch member
  rw [List.map_cons, List.nodup_cons] at apart
  have remaining : ∀ wake ∈ remainingWakes batch result, wake ∈ batch.rest := by
    unfold remainingWakes
    split
    · exact fun wake inside => absurd inside List.not_mem_nil
    · exact fun wake inside => inside
  rw [settleCall_eq]
  refine continueBatch_cooled (afterCall_cooled reduced batch result cools) _ _ _ ?_ ?_
  · have waits : ∀ refusal ∈ refusals state.history, refusal.2 + defaultRetryMs ≤ state.now ∨
        ∀ wake ∈ remainingWakes batch result, wake.target ≠ refusal.1 :=
      fun refusal inside => (cooled.cooling refusal inside).imp_right fun cooling wake next =>
        cooling.ahead batch member wake (remaining wake next)
    rw [afterCall_now]
    unfold afterCall
    split
    · rw [schedule_history, foldl_queueAgain_eq, refusals_refused]
      intro refusal inside
      rcases List.mem_append.1 inside with old | new
      · exact waits refusal old
      · rw [List.mem_singleton] at new
        subst new
        exact .inr fun wake next same =>
          apart.1 (List.mem_map.2 ⟨wake, remaining wake next, same⟩)
    · exact waits
  · unfold remainingWakes
    split
    · exact List.nodup_nil
    · exact apart.2

/-- The wakes that wait have different targets. -/
theorem nodup_targets {pending : OrderedMap String PendingWake}
    (keyed : KeyedBy (fun wake => getWakeTargetKey wake.target) pending) :
    (pending.values.map PendingWake.target).Nodup := by
  have sameKeys : (pending.values.map PendingWake.target).map getWakeTargetKey = pending.keys := by
    rw [values, keys, List.map_map, List.map_map]
    refine List.map_congr_left fun entry member => ?_
    exact keyed entry.1 entry.2 ((pending.get_eq_some_iff _ _).2 member)
  exact List.Nodup.of_map getWakeTargetKey (sameKeys ▸ pending.nodup_keys)

theorem fireTimer_cooled (cooled : Cooled state) {timer : WakeTimer}
    (armed : state.timer = some timer) (due : timer.firesAt ≤ state.now) :
    Cooled (fireTimer state timer) := by
  have past : ∀ refusal ∈ refusals state.history, refusal.2 + defaultRetryMs ≤ state.now := by
    intro refusal member
    rcases cooled.cooling refusal member with past | ⟨⟨own, sameTimer, -, late⟩, -⟩
    · exact past
    · rw [armed, Option.some.injEq] at sameTimer
      subst sameTimer
      exact late.trans due
  have unarmed : Cooled { state with timer := none, scheduled := false } :=
    { cooled with
      cooling := fun refusal member => .inl (past refusal member)
      retries := nofun }
  unfold fireTimer
  dsimp only
  split
  next => exact unarmed
  next =>
    split
    next =>
      have scheduled : Cooled { state with timer := none, scheduled := true } :=
        { unarmed with cooling := fun refusal member => .inl (past refusal member) }
      exact schedule_cooled scheduled fun retry => (cooled.retries timer armed retry).1
    next =>
      have emptied : Cooled { state with
          timer := none, scheduled := false, pendingWakes := ∅, running := true } :=
        { unarmed with
          cooling := fun refusal member => .inl (past refusal member)
          keyed := keyedBy_empty _ }
      exact continueBatch_cooled emptied _ _ _ (fun refusal member => .inl (past refusal member))
        (nodup_targets cooled.keyed)

theorem setHeartbeatWakeHandler_cooled (cooled : Cooled state)
    (next : Option ℕ) : Cooled (setHeartbeatWakeHandler state next) := by
  cases next with
  | none =>
    exact { cooled with
      cooling := fun refusal member => (cooled.cooling refusal member).imp_right
        fun cooling => ⟨cooling.armed, cooling.ahead⟩ }
  | some function =>
    have replaced : Cooled { state with
        handlerGeneration := state.handlerGeneration + 1, handler := some function
        timer := none, running := false, scheduled := false
        history := state.history ++ [.registered] } :=
      { cooled with
        backsOff := cooled.backsOff.append nofun
        cooling := fun refusal member => by simp at member
        retries := nofun }
    unfold setHeartbeatWakeHandler
    dsimp only
    split
    · exact schedule_cooled replaced nofun
    · exact replaced

theorem step_cooled {state next : WakeState} {event : ℕ × WakeEvent} (cooled : Cooled state)
    (cools : Cools state event) (taken : step state event = some next) : Cooled next := by
  obtain ⟨now, event⟩ := event
  obtain ⟨later, taken⟩ := step_eq_some taken
  have cooled := cooled.later later
  cases event with
  | idle =>
    injection taken with taken
    exact taken ▸ cooled
  | request reason coalesceMs target =>
    injection taken with taken
    subst taken
    refine schedule_cooled ?_ nofun
    have keyed := keyedBy_queue reason target cooled.keyed
    rw [queuePendingWakeReason_eq]
    exact { cooled with
      cooling := fun refusal member => (cooled.cooling refusal member).imp_right
        fun cooling => ⟨cooling.armed, cooling.ahead⟩
      keyed := keyed }
  | fire =>
    obtain ⟨timer, armed, due, rfl⟩ := happen_fire taken
    exact fireTimer_cooled cooled armed due
  | settle index result =>
    obtain ⟨batch, found, rfl⟩ := happen_settle taken
    exact settle_cooled cooled found fun refuses => cools index result rfl refuses batch found
  | register handler =>
    injection taken with taken
    exact taken ▸ setHeartbeatWakeHandler_cooled cooled handler
  | dispose generation handler =>
    injection taken with taken
    subst taken
    unfold disposeHandler
    split
    · exact cooled
    split
    · exact cooled
    · exact { cooled with
        cooling := fun refusal member => (cooled.cooling refusal member).imp_right
          fun cooling => ⟨cooling.armed, cooling.ahead⟩ }

end OpenClaw.Heartbeat
