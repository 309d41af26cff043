/-
This file says that every ACP prompt is answered, and by its own run: what concerns one run leaves
the prompts of the others alone, every prompt is settled, being finished or pending, and while the
gateway is away a timer or a deadline check covers those that are pending.

Prompts are pending by session and belong to runs. A late step of an earlier run takes away
whatever is pending for its session then, a second prompt takes the place of the first without an
answer, and a deadline check that ends clears the timer that a later prompt has armed. While no
step finds the prompt of another run in its session, no prompt is superseded and no check clears a
timer that is needed, the three promises hold.
-/

import OpenClaw.Acp.Translator

namespace OpenClaw.Acp

open Text Machine

/-- A reconciliation will still ask about a prompt, or waits to be told of it. -/
def Reconciliation.Covers (reconciliation : Reconciliation) (sessionId run : String) : Prop :=
  (sessionId, run) ∈ reconciliation.remaining ∨
    ∃ context, reconciliation.phase = .waiting sessionId run context

namespace AcpState

/-! ### What is promised -/

section Promises

variable (state : AcpState)

/-- The promise of a run has been settled. -/
def Settled (run : String) : Prop :=
  ∃ effect ∈ state.effects, effect.run = run ∧ ∃ outcome, effect.kind = .settles outcome

/-- A run is being finished. -/
def Finishing (run : String) : Prop := ∃ prompt ∈ state.finishing, prompt.run = run

/-- The prompt of a run is pending for a session. -/
def Pends (sessionId run : String) : Prop :=
  ∃ pending, state.pendingPrompts.get sessionId = some pending ∧ pending.idempotencyKey = run

/-- A deadline check in progress covers a prompt since some disconnect. -/
def Checked (generation : ℕ) (sessionId run : String) : Prop :=
  ∃ reconciliation ∈ state.reconciliations, reconciliation.deadlineExpired = true ∧
    reconciliation.observedDisconnectGeneration = generation ∧ reconciliation.Covers sessionId run

/-- While the gateway is away, every pending prompt is covered by the timer or by what is under
way. -/
def CoveredBy (underway : ℕ → String → String → Prop) : Prop :=
  ∀ context, state.activeDisconnectContext = some context →
    ∀ sessionId pending, state.pendingPrompts.get sessionId = some pending →
      state.disconnectTimer = some context.generation ∨
        underway context.generation sessionId pending.idempotencyKey

/-- Every prompt is answered, and by its own run. -/
structure Answered : Prop where
  own : ∀ effect ∈ state.effects, effect.run = effect.cause
  registered : ∀ sessionId run, (sessionId, run) ∈ state.prompts →
    state.Settled run ∨ state.Finishing run ∨ state.Pends sessionId run
  covered : state.CoveredBy state.Checked

/-- The prompt that is pending for a session and its active run are those of a run. -/
def IsAbout (sessionId run : String) : Prop :=
  (∀ pending, state.pendingPrompts.get sessionId = some pending → pending.idempotencyKey = run) ∧
    ∀ active, state.activeRunId sessionId = some active → active = run

/-- No prompt is superseded, no late step finds the prompt of another run, and no check clears a
timer that a prompt still needs. -/
def Careful : AcpEvent → Prop
  | .prompt sessionId _ valid => valid = true → state.pendingPrompts.get sessionId = none
  | .sendRefused sessionId run _ gatewayClosed =>
    state.waitsForGateway sessionId run gatewayClosed = false → state.IsAbout sessionId run
  | .cancelReturned call => ∀ run, call.pending = some run →
    ∀ pending, state.pendingPrompts.get call.sessionId = some pending →
      pending.idempotencyKey = run
  | .finalForwarded event => state.IsAbout event.sessionId event.pending
  | .reconcileContinues reconciliation =>
    reconciliation.remaining.all (fun entry =>
      !state.isDue reconciliation.observedDisconnectGeneration entry) = true →
    reconciliation.keepDisconnectTimer = false → reconciliation.phase = .returned false →
    state.disconnectGeneration = reconciliation.observedDisconnectGeneration →
    ∀ context, state.activeDisconnectContext = some context →
      ∀ sessionId pending, state.pendingPrompts.get sessionId = some pending →
        ∃ other ∈ state.reconciliations.erase reconciliation, other.deadlineExpired = true ∧
          other.observedDisconnectGeneration = context.generation ∧
          other.Covers sessionId pending.idempotencyKey
  | _ => True

end Promises

/-! ### The invariant -/

/-- What the promises rest on. -/
structure Kept (state : AcpState) : Prop where
  own : ∀ effect ∈ state.effects, effect.run = effect.cause
  registered : ∀ sessionId run, (sessionId, run) ∈ state.prompts →
    state.Settled run ∨ state.Finishing run ∨ state.Pends sessionId run
  keyed : ∀ sessionId pending, state.pendingPrompts.get sessionId = some pending →
    pending.sessionId = sessionId
  active : ∀ sessionId run, state.activeRunId sessionId = some run →
    ∀ pending, state.pendingPrompts.get sessionId = some pending → pending.idempotencyKey = run
  calls : ∀ call ∈ state.cancels, ∀ run, call.pending = some run → run = call.scopedRunId
  finals : ∀ event ∈ state.finals, event.pending = event.cause
  finishing : ∀ prompt ∈ state.finishing, prompt.run = prompt.cause
  idle : (∀ sessionId, state.pendingPrompts.get sessionId = none) → state.disconnectTimer = none
  timer : ∀ context, state.activeDisconnectContext = some context →
    ∀ generation, state.disconnectTimer = some generation → generation = context.generation
  context : ∀ context, state.activeDisconnectContext = some context →
    ∀ sessionId pending, state.pendingPrompts.get sessionId = some pending →
      pending.disconnectContext = some context
  waiting : ∀ reconciliation ∈ state.reconciliations, ∀ sessionId run context,
    reconciliation.phase = .waiting sessionId run context →
      context.generation = reconciliation.observedDisconnectGeneration

theorem kept_initial (sessionKeys : OrderedMap String String) : Kept (initial sessionKeys) where
  own _ member := nomatch member
  registered _ _ member := nomatch member
  keyed _ _ found := nomatch found
  active _ _ _ _ found := nomatch found
  calls _ member := nomatch member
  finals _ member := nomatch member
  finishing _ member := nomatch member
  idle _ := rfl
  timer _ is := nomatch is
  context _ is := nomatch is
  waiting _ member := nomatch member

/-! ### Removals -/

theorem entries_eq_nil_iff (prompts : OrderedMap String PendingPrompt) :
    prompts.entries = [] ↔ ∀ sessionId, prompts.get sessionId = none := by
  simp only [OrderedMap.get_eq_none_iff, List.eq_nil_iff_forall_not_mem, Prod.forall]

/-- What is done to the prompt of a session: it is pending no more, its session has lost its
active run or keeps it, and the timer goes with the last prompt. -/
structure Removal (state : AcpState) (sessionId : String) (sessions : OrderedMap String AcpSession)
    (timer : Option ℕ) : Prop where
  active : ∀ other run, (sessions.get other).bind AcpSession.activeRunId = some run →
    state.activeRunId other = some run
  timer : (timer = none ∧ ∀ other, (state.pendingPrompts.delete sessionId).get other = none) ∨
    (timer = state.disconnectTimer ∧
      ¬ ∀ other, (state.pendingPrompts.delete sessionId).get other = none)

variable {state : AcpState} {underway : ℕ → String → String → Prop} {sessionId : String}
variable {pending : PendingPrompt} {run : String} {next : AcpState}

theorem Kept.remove (kept : state.Kept) {sessions : OrderedMap String AcpSession} {timer : Option ℕ}
    (removal : state.Removal sessionId sessions timer) {news : List Effect}
    {finishing : List FinishingPrompt} (own : ∀ effect ∈ news, effect.run = effect.cause)
    (stillFinishing : ∀ prompt ∈ state.finishing, prompt ∈ finishing)
    (ownFinishing : ∀ prompt ∈ finishing, prompt.run = prompt.cause)
    (answered : ∀ pending, state.pendingPrompts.get sessionId = some pending →
      (∃ effect ∈ news, effect.run = pending.idempotencyKey ∧
        ∃ outcome, effect.kind = .settles outcome) ∨
      ∃ prompt ∈ finishing, prompt.run = pending.idempotencyKey) :
    Kept { state with
      sessions
      pendingPrompts := state.pendingPrompts.delete sessionId
      disconnectTimer := timer
      finishing
      effects := state.effects ++ news } := by
  have earlier : ∀ {other pending},
      (state.pendingPrompts.delete sessionId).get other = some pending →
        state.pendingPrompts.get other = some pending := fun {other pending} found => by
    rw [OrderedMap.get_delete] at found
    split at found
    · cases found
    · exact found
  refine ⟨List.forall_mem_append.2 ⟨kept.own, own⟩, ?_, fun other pending found =>
    kept.keyed other pending (earlier found), fun other run is pending found =>
    kept.active other run (removal.active other run is) pending (earlier found), kept.calls,
    kept.finals, ownFinishing, ?_, ?_,
    fun context is other pending found => kept.context context is other pending (earlier found),
    kept.waiting⟩
  · intro other run member
    rcases kept.registered other run member with ⟨effect, isEffect, is⟩ | ⟨prompt, isPrompt, is⟩ |
      ⟨pending, found, is⟩
    · exact .inl ⟨effect, List.mem_append_left _ isEffect, is⟩
    · exact .inr (.inl ⟨prompt, stillFinishing prompt isPrompt, is⟩)
    · by_cases same : other = sessionId
      · subst same
        rcases answered pending found with ⟨effect, isEffect, about, settles⟩ |
          ⟨prompt, isPrompt, about⟩
        · exact .inl ⟨effect, List.mem_append_right _ isEffect, about.trans is, settles⟩
        · exact .inr (.inl ⟨prompt, isPrompt, about.trans is⟩)
      · exact .inr (.inr ⟨pending, (OrderedMap.get_delete_of_ne _ same).trans found, is⟩)
  · intro empty
    rcases removal.timer with ⟨cleared, -⟩ | ⟨-, nonempty⟩
    · exact cleared
    · exact absurd empty nonempty
  · intro context is generation armed
    rcases removal.timer with ⟨cleared, -⟩ | ⟨same, -⟩
    · rw [show timer = some generation from armed] at cleared
      cases cleared
    · exact kept.timer context is generation (same ▸ armed)

/-- A removal leaves what is pending covered. -/
theorem CoveredBy.remove (covered : state.CoveredBy underway)
    {sessions : OrderedMap String AcpSession} {timer : Option ℕ}
    (removal : state.Removal sessionId sessions timer) (news : List Effect)
    (finishing : List FinishingPrompt) : CoveredBy { state with
      sessions
      pendingPrompts := state.pendingPrompts.delete sessionId
      disconnectTimer := timer
      finishing
      effects := state.effects ++ news } underway := by
  intro context is other pending found
  rcases removal.timer with ⟨-, empty⟩ | ⟨same, -⟩
  · exact absurd found (by simp [empty other])
  · have before : state.pendingPrompts.get other = some pending := by
      rw [OrderedMap.get_delete] at found
      split at found
      · cases found
      · exact found
    exact (covered context is other pending before).imp_left same.trans

/-- The removal of a prompt that takes the active run of its session with it. -/
theorem removed_eq (state : AcpState) (cause sessionId : String) :
    ∃ sessions timer news, state.Removal sessionId sessions timer ∧
      ((state.unregister cause sessionId).clearActiveRun cause sessionId).clearTimerIfIdle =
        { state with
          sessions
          pendingPrompts := state.pendingPrompts.delete sessionId
          disconnectTimer := timer
          effects := state.effects ++ news } ∧
      (state.IsAbout sessionId cause → ∀ effect ∈ news, effect.run = effect.cause) := by
  have cleared : ∃ sessions news,
      (state.unregister cause sessionId).clearActiveRun cause sessionId =
        { state with
          sessions
          pendingPrompts := state.pendingPrompts.delete sessionId
          effects := state.effects ++ news } ∧
      (∀ other run, (sessions.get other).bind AcpSession.activeRunId = some run →
        state.activeRunId other = some run) ∧
      (state.IsAbout sessionId cause → ∀ effect ∈ news, effect.run = effect.cause) := by
    have ownUnregister : state.IsAbout sessionId cause →
        ∀ effect ∈ ((state.pendingPrompts.get sessionId).map fun pending =>
          (⟨cause, .unregisters, pending.idempotencyKey⟩ : Effect)).toList,
            effect.run = effect.cause := by
      rintro ⟨about, -⟩ effect member
      obtain ⟨pending, found, rfl⟩ := Option.map_eq_some_iff.1 (Option.mem_toList.1 member)
      exact about pending found
    unfold clearActiveRun
    cases found : (state.unregister cause sessionId).sessions.get sessionId with
    | none => exact ⟨state.sessions, _, rfl, fun _ _ is => is, ownUnregister⟩
    | some session =>
      refine ⟨_, _, congrArg₂ (fun sessions effects => { state with
          sessions
          pendingPrompts := state.pendingPrompts.delete sessionId
          effects }) rfl (List.append_assoc _ _ _), ?_, ?_⟩
      · intro other run is
        rw [show (state.unregister cause sessionId).sessions = state.sessions from rfl,
          OrderedMap.get_set] at is
        split at is
        · cases is
        · exact is
      · intro isAbout
        refine List.forall_mem_append.2 ⟨ownUnregister isAbout, fun effect member => ?_⟩
        obtain ⟨run, isRun, rfl⟩ := Option.map_eq_some_iff.1 (Option.mem_toList.1 member)
        refine isAbout.2 run ?_
        rw [activeRunId, show state.sessions.get sessionId = some session from found]
        exact isRun
  obtain ⟨sessions, news, is, active, own⟩ := cleared
  rw [is, clearTimerIfIdle]
  by_cases empty : (state.pendingPrompts.delete sessionId).entries = []
  · exact ⟨sessions, none, news, ⟨active, .inl ⟨rfl, (entries_eq_nil_iff _).1 empty⟩⟩,
      if_pos empty, own⟩
  · exact ⟨sessions, state.disconnectTimer, news,
      ⟨active, .inr ⟨rfl, fun all => empty ((entries_eq_nil_iff _).2 all)⟩⟩, if_neg empty, own⟩

theorem Kept.finishPrompt (kept : state.Kept)
    (about : state.IsAbout sessionId run) (stopReason : StopReason) :
    (state.finishPrompt run sessionId run stopReason).Kept := by
  obtain ⟨sessions, timer, news, removal, is, own⟩ := removed_eq state run sessionId
  unfold AcpState.finishPrompt
  rw [is]
  refine kept.remove removal (own about) (fun prompt member => List.mem_append_left _ member)
    (List.forall_mem_append.2 ⟨kept.finishing, List.forall_mem_singleton.2 rfl⟩) ?_
  exact fun pending found => .inr ⟨_, List.mem_append_right _ (List.mem_singleton_self _),
    (about.1 pending found).symm⟩

theorem CoveredBy.finishPrompt
    (covered : state.CoveredBy underway) (cause sessionId run : String) (stopReason : StopReason) :
    (state.finishPrompt cause sessionId run stopReason).CoveredBy underway := by
  obtain ⟨sessions, timer, news, removal, is, -⟩ := removed_eq state cause sessionId
  unfold AcpState.finishPrompt
  rw [is]
  exact covered.remove removal _ _

/-- The prompt of a run is taken away and settled. -/
theorem Kept.settleRemoved (kept : state.Kept)
    (about : state.IsAbout sessionId run) (outcome : PromptOutcome) :
    ((((state.unregister run sessionId).clearActiveRun run sessionId).clearTimerIfIdle).settle
      run run outcome).Kept := by
  obtain ⟨sessions, timer, news, removal, is, own⟩ := removed_eq state run sessionId
  unfold settle
  rw [is]
  dsimp only
  rw [List.append_assoc]
  refine kept.remove removal (List.forall_mem_append.2 ⟨own about, List.forall_mem_singleton.2 rfl⟩)
    (fun _ member => member) kept.finishing fun pending found => .inl
      ⟨_, List.mem_append_right _ (List.mem_singleton_self _), (about.1 pending found).symm, _, rfl⟩

theorem CoveredBy.settleRemoved
    (covered : state.CoveredBy underway) (cause sessionId run : String) (outcome : PromptOutcome) :
    ((((state.unregister cause sessionId).clearActiveRun cause sessionId).clearTimerIfIdle).settle
      cause run outcome).CoveredBy underway := by
  obtain ⟨sessions, timer, news, removal, is, -⟩ := removed_eq state cause sessionId
  unfold settle
  rw [is]
  dsimp only
  rw [List.append_assoc]
  exact covered.remove removal _ _

/-- What is pending for a session, found by its run, is what the session is about. -/
theorem Kept.isAbout (kept : state.Kept)
    (found : state.getPendingPrompt sessionId run = some pending) :
    state.IsAbout sessionId run ∧ pending.idempotencyKey = run ∧ pending.sessionId = sessionId := by
  obtain ⟨isPending, is⟩ := Option.filter_eq_some_iff.1 found
  rw [decide_eq_true_eq] at is
  refine ⟨⟨fun other isOther => ?_, fun active isActive => ?_⟩, is, kept.keyed _ _ isPending⟩
  · rw [isPending] at isOther
    rw [← Option.some.inj isOther, is]
  · exact (kept.active sessionId active isActive pending isPending).symm.trans is

/-! ### Steps that take prompts away -/

theorem Kept.rejectPendingPrompt (kept : state.Kept)
    (found : state.getPendingPrompt sessionId run = some pending)
    (error : String) : (state.rejectPendingPrompt run pending error).Kept := by
  obtain ⟨about, rfl, rfl⟩ := kept.isAbout found
  unfold AcpState.rejectPendingPrompt
  rw [found]
  exact kept.settleRemoved about _

theorem Kept.sendRefused (kept : state.Kept) (error : String)
    {gatewayClosed : Bool} (about : state.waitsForGateway sessionId run gatewayClosed = false →
      state.IsAbout sessionId run) :
    (state.sendRefused sessionId run error gatewayClosed).Kept := by
  unfold AcpState.sendRefused
  rcases Bool.eq_false_or_eq_true (state.waitsForGateway sessionId run gatewayClosed) with
    waits | fails
  · rw [if_pos waits]
    exact kept
  · rw [if_neg (by rw [fails]; exact nofun)]
    exact kept.settleRemoved (about fails) _

theorem CoveredBy.sendRefused
    (covered : state.CoveredBy underway) (sessionId run error : String) (gatewayClosed : Bool) :
    (state.sendRefused sessionId run error gatewayClosed).CoveredBy underway := by
  unfold AcpState.sendRefused
  split
  · exact covered
  · exact covered.settleRemoved _ _ _ _

theorem removal_of_unregister (state : AcpState) (sessionId : String) :
    ∃ timer, state.Removal sessionId state.sessions timer ∧
      ∀ cause, (state.unregister cause sessionId).clearTimerIfIdle =
        { state.unregister cause sessionId with disconnectTimer := timer } := by
  by_cases empty : (state.pendingPrompts.delete sessionId).entries = []
  · exact ⟨none, ⟨fun _ _ is => is, .inl ⟨rfl, (entries_eq_nil_iff _).1 empty⟩⟩,
      fun _ => if_pos empty⟩
  · exact ⟨state.disconnectTimer, ⟨fun _ _ is => is,
      .inr ⟨rfl, fun all => empty ((entries_eq_nil_iff _).2 all)⟩⟩, fun _ => if_neg empty⟩

theorem Kept.cancelReturned (kept : state.Kept) {call : CancelCall}
    (own : ∀ run, call.pending = some run → run = call.scopedRunId)
    (careful : ∀ run, call.pending = some run →
      ∀ pending, state.pendingPrompts.get call.sessionId = some pending →
        pending.idempotencyKey = run) : (state.cancelReturned call).Kept := by
  unfold AcpState.cancelReturned
  cases isPending : call.pending with
  | none => exact kept
  | some run =>
    obtain ⟨timer, removal, is⟩ := removal_of_unregister state call.sessionId
    have same := own run isPending
    dsimp only
    unfold settle
    rw [is]
    dsimp only [AcpState.unregister]
    rw [List.append_assoc]
    refine kept.remove removal (List.forall_mem_append.2 ⟨fun effect member => ?_,
      List.forall_mem_singleton.2 same⟩) (fun _ member => member) kept.finishing
      fun pending found => .inl ⟨_, List.mem_append_right _ (List.mem_singleton_self _),
        (careful run isPending pending found).symm, _, rfl⟩
    obtain ⟨pending, found, rfl⟩ := Option.map_eq_some_iff.1 (Option.mem_toList.1 member)
    exact (careful run isPending pending found).trans same

theorem CoveredBy.cancelReturned (covered : state.CoveredBy underway) (call : CancelCall) :
    (state.cancelReturned call).CoveredBy underway := by
  unfold AcpState.cancelReturned
  cases call.pending with
  | none => exact covered
  | some run =>
    obtain ⟨timer, removal, is⟩ := removal_of_unregister state call.sessionId
    dsimp only
    unfold settle
    rw [is]
    dsimp only [AcpState.unregister]
    rw [List.append_assoc]
    exact covered.remove removal _ _

/-! ### Prompts and events -/

/-- A pending prompt is noted to be sent, or to wait for no disconnect any more. -/
theorem Kept.replace (kept : state.Kept) {pending other : PendingPrompt}
    (found : state.pendingPrompts.get sessionId = some pending)
    (sameSession : other.sessionId = pending.sessionId)
    (sameRun : other.idempotencyKey = pending.idempotencyKey)
    (context : ∀ context, state.activeDisconnectContext = some context →
      other.disconnectContext = some context) :
    Kept { state with pendingPrompts := state.pendingPrompts.set sessionId other } where
  own := kept.own
  registered := fun id run member =>
    (kept.registered id run member).imp_right fun rest => rest.imp_right fun ⟨was, isWas, is⟩ => by
      by_cases same : id = sessionId
      · subst same
        rw [found] at isWas
        obtain rfl := Option.some.inj isWas
        exact ⟨other, OrderedMap.get_set_self _ _ _, sameRun.trans is⟩
      · exact ⟨was, (OrderedMap.get_set_of_ne _ _ same).trans isWas, is⟩
  keyed := fun id was isWas => by
    rw [OrderedMap.get_set] at isWas
    split at isWas
    next same =>
      obtain rfl := Option.some.inj isWas
      rw [sameSession, kept.keyed sessionId pending found, same]
    next => exact kept.keyed id was isWas
  active := fun id run isActive was isWas => by
    rw [OrderedMap.get_set] at isWas
    split at isWas
    next same =>
      obtain rfl := Option.some.inj isWas
      exact sameRun.trans (kept.active id run isActive pending (same ▸ found))
    next => exact kept.active id run isActive was isWas
  calls := kept.calls
  finals := kept.finals
  finishing := kept.finishing
  idle := fun empty => absurd (empty sessionId) (by simp)
  timer := kept.timer
  context := fun since is id was isWas => by
    rw [OrderedMap.get_set] at isWas
    split at isWas
    next =>
      obtain rfl := Option.some.inj isWas
      exact context since is
    next => exact kept.context since is id was isWas
  waiting := kept.waiting

theorem CoveredBy.replace (covered : state.CoveredBy underway) {pending other : PendingPrompt}
    (found : state.pendingPrompts.get sessionId = some pending)
    (sameRun : other.idempotencyKey = pending.idempotencyKey) :
    CoveredBy { state with pendingPrompts := state.pendingPrompts.set sessionId other }
      underway := by
  intro context is id was isWas
  rw [OrderedMap.get_set] at isWas
  split at isWas
  next same =>
    obtain rfl := Option.some.inj isWas
    rw [sameRun]
    exact covered context is id pending (same ▸ found)
  next => exact covered context is id was isWas

theorem Kept.sendAccepted (kept : state.Kept) (sessionId runId : String) :
    (state.sendAccepted sessionId runId).Kept := by
  unfold AcpState.sendAccepted
  split
  next => exact kept
  next pending found =>
    have isPending := (Option.filter_eq_some_iff.1 found).1
    exact kept.replace isPending rfl rfl fun context is =>
      kept.context context is sessionId pending isPending

theorem CoveredBy.sendAccepted (covered : state.CoveredBy underway) (sessionId runId : String) :
    (state.sendAccepted sessionId runId).CoveredBy underway := by
  unfold AcpState.sendAccepted
  split
  next => exact covered
  next pending found => exact covered.replace (Option.filter_eq_some_iff.1 found).1 rfl

theorem Kept.registerPrompt (kept : state.Kept) (runId : String)
    (session : AcpSession) (free : state.pendingPrompts.get sessionId = none) :
    (state.registerPrompt sessionId runId session).Kept where
  own := kept.own
  registered := fun id run member => by
    rcases List.mem_append.1 member with earlier | last
    · refine (kept.registered id run earlier).imp_right fun rest => rest.imp_right ?_
      rintro ⟨was, isWas, is⟩
      have other : id ≠ sessionId := fun same => by
        rw [same, free] at isWas
        nomatch isWas
      exact ⟨was, (OrderedMap.get_set_of_ne _ _ other).trans isWas, is⟩
    · obtain ⟨rfl, rfl⟩ := Prod.mk.inj (List.mem_singleton.1 last)
      exact .inr (.inr ⟨_, OrderedMap.get_set_self _ _ _, rfl⟩)
  keyed := fun id was isWas => by
    rw [AcpState.registerPrompt, OrderedMap.get_set] at isWas
    split at isWas
    next same =>
      obtain rfl := Option.some.inj isWas
      exact same.symm
    next => exact kept.keyed id was isWas
  active := fun id run is was isWas => by
    rw [AcpState.registerPrompt, OrderedMap.get_set] at isWas
    rw [activeRunId, AcpState.registerPrompt, OrderedMap.get_set] at is
    split at isWas
    next same =>
      obtain rfl := Option.some.inj isWas
      rw [if_pos same] at is
      exact Option.some.inj is
    next different =>
      rw [if_neg different] at is
      exact kept.active id run is was isWas
  calls := kept.calls
  finals := kept.finals
  finishing := kept.finishing
  idle := fun empty => absurd (empty sessionId) (by simp [AcpState.registerPrompt])
  timer := kept.timer
  context := fun since is id was isWas => by
    rw [AcpState.registerPrompt, OrderedMap.get_set] at isWas
    split at isWas
    next =>
      obtain rfl := Option.some.inj isWas
      exact is
    next => exact kept.context since is id was isWas
  waiting := kept.waiting

theorem Kept.armIfAway (kept : state.Kept)
    (found : state.pendingPrompts.get sessionId = some pending) : state.armIfAway.Kept := by
  unfold AcpState.armIfAway
  cases is : state.activeDisconnectContext with
  | none => exact kept
  | some context =>
    dsimp only
    split
    · refine { kept with
        idle := fun empty => ?_
        timer := fun other isOther generation armed => ?_ }
      · exact absurd (found.symm.trans (empty sessionId)) nofun
      · have same : some context = some other := is.symm.trans isOther
        rw [← Option.some.inj armed, Option.some.inj same]
    · exact kept

/-- A prompt that comes while the gateway is away finds the timer armed, or arms it. -/
theorem Kept.armed (kept : state.Kept) {context : DisconnectContext}
    (away : state.activeDisconnectContext = some context) :
    state.armIfAway.disconnectTimer = some context.generation := by
  unfold AcpState.armIfAway
  rw [away]
  dsimp only
  cases armed : state.disconnectTimer with
  | none => rfl
  | some generation =>
    rw [if_neg (by simp), armed, kept.timer context away generation armed]

/-- A prompt of a session that has none pending. -/
theorem Kept.prompt (kept : state.Kept) (runId : String) {valid : Bool}
    (careful : valid = true → state.pendingPrompts.get sessionId = none) :
    (state.prompt sessionId runId valid).Kept := by
  unfold AcpState.prompt
  split
  next => exact kept
  next session found =>
    split
    next isValid =>
      exact (kept.registerPrompt runId session (careful isValid)).armIfAway
        (OrderedMap.get_set_self _ sessionId _)
    next =>
      refine { kept with active := fun id run is pending isPending => ?_ }
      rw [activeRunId, OrderedMap.get_set] at is
      split at is
      · cases is
      · exact kept.active id run is pending isPending

theorem activeDisconnectContext_armIfAway (state : AcpState) :
    state.armIfAway.activeDisconnectContext = state.activeDisconnectContext := by
  unfold AcpState.armIfAway
  split
  · split <;> rfl
  · rfl

theorem CoveredBy.prompt (covered : state.CoveredBy underway) (kept : state.Kept) (runId : String)
    {valid : Bool} (careful : valid = true → state.pendingPrompts.get sessionId = none) :
    (state.prompt sessionId runId valid).CoveredBy underway := by
  unfold AcpState.prompt
  split
  next => exact covered
  next session found =>
    split
    next isValid =>
      intro context is id pending isPending
      rw [activeDisconnectContext_armIfAway] at is
      exact .inl ((kept.registerPrompt runId session (careful isValid)).armed is)
    next => exact covered

theorem Kept.cancel (kept : state.Kept) (sessionId : String) : (state.cancel sessionId).Kept := by
  unfold AcpState.cancel
  dsimp only
  split
  next => exact kept
  next scopedRunId isScoped =>
    have cleared : (state.clearActiveRun scopedRunId sessionId).Kept := by
      unfold clearActiveRun
      split
      next => exact kept
      next session found =>
        refine { kept with
          own := List.forall_mem_append.2 ⟨kept.own, fun effect member => ?_⟩
          registered := fun id run member => (kept.registered id run member).imp_left
            fun ⟨effect, isEffect, is⟩ => ⟨effect, List.mem_append_left _ isEffect, is⟩
          active := fun id run is pending isPending => ?_ }
        · obtain ⟨run, isRun, rfl⟩ := Option.map_eq_some_iff.1 (Option.mem_toList.1 member)
          rw [activeRunId, found, Option.bind_some, isRun] at isScoped
          exact Option.some.inj isScoped
        · rw [activeRunId, OrderedMap.get_set] at is
          split at is
          · cases is
          · exact kept.active id run is pending isPending
    have own : ∀ run, (state.pendingPrompts.get sessionId).map PendingPrompt.idempotencyKey =
        some run → run = scopedRunId := fun run isRun => by
      obtain ⟨pending, isPending, rfl⟩ := Option.map_eq_some_iff.1 isRun
      cases isActive : state.activeRunId sessionId with
      | none =>
        rw [isActive, isRun] at isScoped
        exact Option.some.inj isScoped
      | some active =>
        rw [isActive] at isScoped
        exact (kept.active sessionId active isActive pending isPending).trans
          (Option.some.inj isScoped)
    exact { cleared with
      calls := List.forall_mem_append.2 ⟨cleared.calls, List.forall_mem_singleton.2 own⟩ }

theorem CoveredBy.clearActiveRun (covered : state.CoveredBy underway) (cause sessionId : String) :
    (state.clearActiveRun cause sessionId).CoveredBy underway := by
  unfold AcpState.clearActiveRun
  split
  · exact covered
  · exact covered

theorem CoveredBy.cancel (covered : state.CoveredBy underway) (sessionId : String) :
    (state.cancel sessionId).CoveredBy underway := by
  unfold AcpState.cancel
  dsimp only
  split
  · exact covered
  · exact covered.clearActiveRun _ _

theorem findPendingBySessionKey_spec {sessionKey : String} {runId : Option String}
    (found : state.findPendingBySessionKey sessionKey runId = some pending) :
    (∃ sessionId, state.pendingPrompts.get sessionId = some pending) ∧
      (nonEmpty runId).getD pending.idempotencyKey = pending.idempotencyKey := by
  refine ⟨?_, ?_⟩
  · obtain ⟨⟨sessionId, other⟩, member, rfl⟩ := List.mem_map.1 (List.mem_of_find?_eq_some found)
    exact ⟨sessionId, (OrderedMap.get_eq_some_iff _ _ _).2 member⟩
  · have matched := List.find?_some found
    rw [Bool.and_eq_true] at matched
    cases named : nonEmpty runId with
    | none => rfl
    | some run =>
      have same := matched.2
      rw [named, Option.all_some, decide_eq_true_eq] at same
      exact same.symm

theorem Kept.handleChatEvent (kept : state.Kept) (sessionKey chatState : String)
    (runId : Option String) (hasMessage : Bool) (rawStopReason : Option String) :
    (state.handleChatEvent sessionKey chatState runId hasMessage rawStopReason).Kept := by
  unfold AcpState.handleChatEvent
  split
  next => exact kept
  next =>
    split
    next => exact kept
    next pending found =>
      obtain ⟨⟨sessionId, isPending⟩, cause⟩ := findPendingBySessionKey_spec found
      have about : state.IsAbout pending.sessionId pending.idempotencyKey := by
        have same := kept.keyed sessionId pending isPending
        subst same
        exact (kept.isAbout (Option.filter_eq_some_iff.2 ⟨isPending, by simp⟩)).1
      dsimp only
      rw [cause]
      split
      next =>
        split
        next => exact { kept with
          finals := List.forall_mem_append.2 ⟨kept.finals, List.forall_mem_singleton.2 rfl⟩ }
        next => exact kept.finishPrompt about _
      next =>
        split
        next => exact kept.finishPrompt about _
        next =>
          split
          next => exact kept.finishPrompt about _
          next => exact kept

theorem CoveredBy.handleChatEvent
    (covered : state.CoveredBy underway) (sessionKey chatState : String) (runId : Option String)
    (hasMessage : Bool) (rawStopReason : Option String) :
    (state.handleChatEvent sessionKey chatState runId hasMessage rawStopReason).CoveredBy
      underway := by
  unfold AcpState.handleChatEvent
  split
  next => exact covered
  next =>
    split
    next => exact covered
    next =>
      dsimp only
      split
      next =>
        split
        next => exact covered
        next => exact covered.finishPrompt _ _ _ _
      next =>
        split
        next => exact covered.finishPrompt _ _ _ _
        next =>
          split
          next => exact covered.finishPrompt _ _ _ _
          next => exact covered

/-- The snapshot of a prompt that is being finished is sent: the prompt is settled. -/
theorem Kept.finished (kept : state.Kept) {prompt : FinishingPrompt}
    (member : prompt ∈ state.finishing) :
    ({ state with finishing := state.finishing.erase prompt }.settle prompt.cause prompt.run
      (.resolved prompt.stopReason)).Kept where
  own := List.forall_mem_append.2
    ⟨kept.own, List.forall_mem_singleton.2 (kept.finishing prompt member)⟩
  registered := fun id run isPrompt => by
    rcases kept.registered id run isPrompt with ⟨effect, isEffect, is⟩ | ⟨other, isOther, is⟩ |
      pends
    · exact .inl ⟨effect, List.mem_append_left _ isEffect, is⟩
    · by_cases same : other = prompt
      · subst same
        exact .inl ⟨_, List.mem_append_right _ (List.mem_singleton_self _), is, _, rfl⟩
      · exact .inr (.inl ⟨other, (List.mem_erase_of_ne same).2 isOther, is⟩)
    · exact .inr (.inr pends)
  keyed := kept.keyed
  active := kept.active
  calls := kept.calls
  finals := kept.finals
  finishing := fun other isOther => kept.finishing other (List.mem_of_mem_erase isOther)
  idle := kept.idle
  timer := kept.timer
  context := kept.context
  waiting := kept.waiting

theorem Kept.finalForwarded (kept : state.Kept) {event : FinalEvent}
    (own : event.pending = event.cause) (about : state.IsAbout event.sessionId event.pending) :
    (state.finalForwarded event).Kept := by
  unfold AcpState.finalForwarded
  rw [← own]
  exact kept.finishPrompt about _

/-! ### Disconnects -/

theorem Kept.handleGatewayDisconnect (kept : state.Kept) (reason : String) :
    (state.handleGatewayDisconnect reason).Kept := by
  have next : ∀ timer : Option ℕ,
      ((∀ sessionId, state.pendingPrompts.get sessionId = none) → timer = none) →
      (∀ generation, timer = some generation → generation = state.disconnectGeneration + 1) →
      Kept { state with
        disconnectGeneration := state.disconnectGeneration + 1
        activeDisconnectContext := some ⟨state.disconnectGeneration + 1, reason⟩
        pendingPrompts := state.pendingPrompts.mapValues fun _ pending =>
          { pending with disconnectContext := some ⟨state.disconnectGeneration + 1, reason⟩ }
        disconnectTimer := timer } := fun timer idle armed => by
    refine { kept with
      registered := fun id run member => (kept.registered id run member).imp_right fun rest =>
        rest.imp_right fun ⟨pending, found, is⟩ =>
          ⟨_, (OrderedMap.get_mapValues _ _ _).trans (congrArg (Option.map _) found), is⟩
      keyed := fun id pending found => ?_
      active := fun id run is pending found => ?_
      idle := fun empty => idle fun id => ?_
      timer := fun context is generation isArmed => ?_
      context := fun context is id pending found => ?_ }
    · rw [OrderedMap.get_mapValues] at found
      obtain ⟨before, isBefore, rfl⟩ := Option.map_eq_some_iff.1 found
      exact kept.keyed id before isBefore
    · rw [OrderedMap.get_mapValues] at found
      obtain ⟨before, isBefore, rfl⟩ := Option.map_eq_some_iff.1 found
      exact kept.active id run is before isBefore
    · have none := empty id
      rw [OrderedMap.get_mapValues] at none
      exact Option.map_eq_none_iff.1 none
    · rw [← Option.some.inj is]
      exact armed generation isArmed
    · rw [OrderedMap.get_mapValues] at found
      obtain ⟨before, -, rfl⟩ := Option.map_eq_some_iff.1 found
      exact is
  unfold AcpState.handleGatewayDisconnect
  dsimp only
  split
  next empty =>
    have idle := kept.idle ((entries_eq_nil_iff _).1 empty)
    exact next state.disconnectTimer (fun _ => idle) fun generation armed =>
      absurd (idle.symm.trans armed) nofun
  next nonempty =>
    exact next (some (state.disconnectGeneration + 1))
      (fun empty => absurd ((entries_eq_nil_iff _).2 empty) nonempty)
      fun generation armed => (Option.some.inj armed).symm

/-- A disconnect arms the timer for all that is pending. -/
theorem coveredBy_handleGatewayDisconnect (state : AcpState) (reason : String)
    (underway : ℕ → String → String → Prop) :
    (state.handleGatewayDisconnect reason).CoveredBy underway := by
  unfold AcpState.handleGatewayDisconnect
  dsimp only
  split
  next empty =>
    intro context _ sessionId pending found
    have none := (entries_eq_nil_iff _).1 empty sessionId
    rw [OrderedMap.get_mapValues, none] at found
    nomatch found
  next =>
    intro context is _ _ _
    obtain rfl := Option.some.inj is
    exact .inl rfl

/-! ### Reconciliations -/

/-- What is pending since a disconnect is due for the reconciliations of that disconnect. -/
theorem Kept.isDue (kept : state.Kept) {context : DisconnectContext}
    (away : state.activeDisconnectContext = some context)
    (found : state.pendingPrompts.get sessionId = some pending) :
    state.isDue context.generation (sessionId, pending.idempotencyKey) = true := by
  unfold AcpState.isDue getPendingPrompt
  simp [found, kept.context context away sessionId pending found]

theorem contextOf_of_isDue {generation : ℕ} (due : state.isDue generation (sessionId, run) = true) :
    ∃ context, state.contextOf sessionId = some context ∧ context.generation = generation := by
  obtain ⟨pending, found, since⟩ := (Option.any_eq_true _ _).1 due
  obtain ⟨context, isContext, same⟩ := Option.map_eq_some_iff.1 (of_decide_eq_true since)
  refine ⟨context, ?_, same⟩
  rw [contextOf, (Option.filter_eq_some_iff.1 found).1, Option.bind_some, isContext]

/-- What a reconciliation does next: it asks about the first prompt that is due, or, with none
left, it ends and may clear the timer. -/
theorem reconcileNext_cases (state : AcpState) (generation : ℕ) (deadlineExpired : Bool)
    (remaining : List (String × String)) (keepDisconnectTimer : Bool) :
    (∃ skipped sessionId run rest context, remaining = skipped ++ (sessionId, run) :: rest ∧
      (∀ entry ∈ skipped, state.isDue generation entry = false) ∧
      context.generation = generation ∧
      state.reconcileNext generation deadlineExpired remaining keepDisconnectTimer =
        { state with reconciliations := state.reconciliations ++ [⟨generation, deadlineExpired,
            rest, keepDisconnectTimer, .waiting sessionId run context⟩] }) ∨
    ((∀ entry ∈ remaining, state.isDue generation entry = false) ∧
      state.reconcileNext generation deadlineExpired remaining keepDisconnectTimer =
        if !keepDisconnectTimer && state.disconnectGeneration = generation then
          state.clearDisconnectTimer else state) := by
  have skips : ∀ entry ∈ remaining.takeWhile fun entry => !state.isDue generation entry,
      state.isDue generation entry = false := fun entry member => by
    have skipped := List.all_eq_true.1 List.all_takeWhile entry member
    rw [Bool.not_eq_true'] at skipped
    exact skipped
  have whole : remaining.takeWhile (fun entry => !state.isDue generation entry) ++
      remaining.dropWhile (fun entry => !state.isDue generation entry) = remaining :=
    List.takeWhile_append_dropWhile
  unfold AcpState.reconcileNext
  cases left : remaining.dropWhile fun entry => !state.isDue generation entry with
  | nil =>
    rw [left, List.append_nil] at whole
    exact .inr ⟨fun entry member => skips entry (whole.symm ▸ member), rfl⟩
  | cons first rest =>
    obtain ⟨sessionId, run⟩ := first
    have due : state.isDue generation (sessionId, run) = true := by
      have stops := List.head?_dropWhile_not (fun entry => !state.isDue generation entry) remaining
      rw [left, List.head?_cons] at stops
      simpa using stops
    obtain ⟨context, isContext, same⟩ := contextOf_of_isDue due
    rw [left] at whole
    refine .inl ⟨_, sessionId, run, rest, context, whole.symm, skips, same, ?_⟩
    dsimp only
    rw [isContext]

theorem Kept.clearDisconnectTimer (kept : state.Kept) : state.clearDisconnectTimer.Kept :=
  { kept with idle := fun _ => rfl, timer := fun _ _ _ => (nomatch ·) }

theorem Kept.reconcileNext (kept : state.Kept) (generation : ℕ) (deadlineExpired : Bool)
    (remaining : List (String × String)) (keepDisconnectTimer : Bool) :
    (state.reconcileNext generation deadlineExpired remaining keepDisconnectTimer).Kept := by
  rcases reconcileNext_cases state generation deadlineExpired remaining keepDisconnectTimer with
    ⟨_, sessionId, run, rest, context, -, -, same, is⟩ | ⟨-, is⟩
  · rw [is]
    have waiting : ∀ other otherRun found,
        ReconcilePhase.waiting sessionId run context = .waiting other otherRun found →
          found.generation = generation := fun other otherRun found waits => by
      obtain ⟨-, -, rfl⟩ := ReconcilePhase.waiting.inj waits
      exact same
    exact { kept with
      waiting := List.forall_mem_append.2 ⟨kept.waiting, List.forall_mem_singleton.2 waiting⟩ }
  · rw [is]
    split
    · exact kept.clearDisconnectTimer
    · exact kept

/-- A reconciliation that goes on covers what it has still to ask about, and one that ends clears
the timer only where something else covers what is pending. -/
theorem Kept.covered_reconcileNext (kept : state.Kept) {generation : ℕ} {deadlineExpired : Bool}
    {remaining : List (String × String)} {keepDisconnectTimer : Bool}
    (covered : state.CoveredBy fun since sessionId run => state.Checked since sessionId run ∨
      (deadlineExpired = true ∧ generation = since ∧ (sessionId, run) ∈ remaining))
    (safe : (∀ entry ∈ remaining, state.isDue generation entry = false) →
      keepDisconnectTimer = false → state.disconnectGeneration = generation →
      ∀ context, state.activeDisconnectContext = some context →
        ∀ sessionId pending, state.pendingPrompts.get sessionId = some pending →
          state.Checked context.generation sessionId pending.idempotencyKey) :
    let next := state.reconcileNext generation deadlineExpired remaining keepDisconnectTimer
    next.CoveredBy next.Checked := by
  have due : ∀ {context sessionId pending}, state.activeDisconnectContext = some context →
      state.pendingPrompts.get sessionId = some pending → generation = context.generation →
      state.isDue generation (sessionId, pending.idempotencyKey) ≠ false :=
    fun away found same => by
    rw [same, kept.isDue away found]
    exact nofun
  intro next
  rcases reconcileNext_cases state generation deadlineExpired remaining keepDisconnectTimer with
    ⟨skipped, sessionId, run, rest, context, rfl, skips, -, is⟩ | ⟨skips, is⟩
  · rw [show next = _ from is]
    intro since away id pending found
    refine (covered since away id pending found).imp_right ?_
    rintro (⟨other, member, checks⟩ | ⟨expired, same, member⟩)
    · exact ⟨other, List.mem_append_left _ member, checks⟩
    · refine ⟨_, List.mem_append_right _ (List.mem_singleton_self _), expired, same, ?_⟩
      rcases List.mem_append.1 member with wasSkipped | isNext
      · exact absurd (skips _ wasSkipped) (due away found same)
      · rcases List.mem_cons.1 isNext with first | later
        · obtain ⟨rfl, rfl⟩ := Prod.mk.inj first
          exact .inr ⟨context, rfl⟩
        · exact .inl later
  · rw [show next = _ from is]
    split
    next clears =>
      rw [Bool.and_eq_true, Bool.not_eq_true', decide_eq_true_eq] at clears
      exact fun since away id pending found =>
        .inr (safe skips clears.1 clears.2 since away id pending found)
    next =>
      intro since away id pending found
      refine (covered since away id pending found).imp_right ?_
      rintro (checked | ⟨-, same, member⟩)
      · exact checked
      · exact absurd (skips _ member) (due away found same)

theorem Kept.reconcilePendingPrompts (kept : state.Kept) (generation : ℕ) (deadlineExpired : Bool) :
    (state.reconcilePendingPrompts generation deadlineExpired).Kept := by
  unfold AcpState.reconcilePendingPrompts
  split
  · split
    · exact kept.clearDisconnectTimer
    · exact kept
  · exact kept.reconcileNext _ _ _ _

theorem Kept.handleGatewayReconnect (kept : state.Kept) : state.handleGatewayReconnect.Kept := by
  unfold AcpState.handleGatewayReconnect
  split
  · exact kept
  · refine Kept.reconcilePendingPrompts ?_ _ _
    exact { kept with timer := (fun _ is => nomatch is), context := (fun _ is => nomatch is) }

theorem activeDisconnectContext_reconcilePendingPrompts (state : AcpState) (generation : ℕ)
    (deadlineExpired : Bool) :
    (state.reconcilePendingPrompts generation deadlineExpired).activeDisconnectContext =
      state.activeDisconnectContext := by
  unfold AcpState.reconcilePendingPrompts
  split
  · split <;> rfl
  · rcases reconcileNext_cases state generation deadlineExpired (state.pendingPrompts.entries.map
      fun entry => (entry.1, entry.2.idempotencyKey)) false with
      ⟨_, _, _, _, _, -, -, -, is⟩ | ⟨-, is⟩
    · rw [is]
    · rw [is]
      split <;> rfl

theorem covered_handleGatewayReconnect (covered : state.CoveredBy state.Checked) :
    state.handleGatewayReconnect.CoveredBy state.handleGatewayReconnect.Checked := by
  cases away : state.activeDisconnectContext with
  | none =>
    have same : state.handleGatewayReconnect = state := by
      rw [AcpState.handleGatewayReconnect, away]
    rw [same]
    exact covered
  | some context =>
    intro other isOther
    rw [AcpState.handleGatewayReconnect, away,
      activeDisconnectContext_reconcilePendingPrompts] at isOther
    nomatch isOther

/-- The deadline check that the timer starts covers what the timer has covered. -/
theorem Kept.covered_disconnectTimerFires (kept : state.Kept) {generation : ℕ}
    (armed : state.disconnectTimer = some generation) :
    (state.disconnectTimerFires generation).CoveredBy
      (state.disconnectTimerFires generation).Checked := by
  unfold disconnectTimerFires AcpState.reconcilePendingPrompts
  split
  next empty =>
    have none := (entries_eq_nil_iff _).1 empty
    have nothing : ∀ {sessionId pending},
        state.pendingPrompts.get sessionId ≠ some pending := fun {sessionId _} found =>
      absurd (found.symm.trans (none sessionId)) nofun
    split
    · exact fun _ _ _ _ found => absurd found nothing
    · exact fun _ _ _ _ found => absurd found nothing
  next =>
    have all : ∀ {sessionId pending}, state.pendingPrompts.get sessionId = some pending →
        (sessionId, pending.idempotencyKey) ∈ state.pendingPrompts.entries.map fun entry =>
          (entry.1, entry.2.idempotencyKey) := fun {sessionId pending} found =>
      List.mem_map.2 ⟨(sessionId, pending), (OrderedMap.get_eq_some_iff _ _ _).1 found, rfl⟩
    refine kept.clearDisconnectTimer.covered_reconcileNext ?_ ?_
    · exact fun context away sessionId pending found => .inr (.inr
        ⟨rfl, kept.timer context away generation armed, all found⟩)
    · intro skips _ _ context away sessionId pending found
      have due := kept.clearDisconnectTimer.isDue away found
      rw [← kept.timer context away generation armed, skips _ (all found)] at due
      nomatch due

/-! ### Answers of a reconciliation -/

/-- While the gateway is away since a disconnect, its deadline checks keep no prompt pending. -/
theorem Kept.shouldReject (kept : state.Kept) {context other : DisconnectContext}
    (away : state.activeDisconnectContext = some other)
    (same : context.generation = other.generation)
    (found : state.pendingPrompts.get sessionId = some pending) :
    state.shouldRejectPendingAtDisconnectDeadline pending context = true := by
  unfold shouldRejectPendingAtDisconnectDeadline PendingPrompt.since
  simp [away, same, kept.context other away sessionId pending found]

theorem Kept.meetDeadline (kept : state.Kept)
    (found : state.getPendingPrompt sessionId run = some pending) (context : DisconnectContext) :
    (state.meetDeadline pending context).Kept := by
  obtain ⟨-, rfl, rfl⟩ := kept.isAbout found
  have isPending := (Option.filter_eq_some_iff.1 found).1
  unfold AcpState.meetDeadline
  split
  next => exact kept.rejectPendingPrompt found _
  next keeps =>
    unfold clearPendingDisconnectState
    split
    next since =>
      refine kept.replace isPending rfl rfl fun other away => ?_
      rw [PendingPrompt.since, kept.context other away _ pending isPending, Option.map_some,
        decide_eq_true_eq] at since
      exact absurd (kept.shouldReject away (Option.some.inj since).symm isPending) keeps
    next => exact kept

theorem CoveredBy.meetDeadline (covered : state.CoveredBy underway)
    (found : state.pendingPrompts.get pending.sessionId = some pending)
    (context : DisconnectContext) : (state.meetDeadline pending context).CoveredBy underway := by
  unfold AcpState.meetDeadline
  split
  · unfold AcpState.rejectPendingPrompt
    split
    · exact covered
    · exact covered.settleRemoved _ _ _ _
  · unfold clearPendingDisconnectState
    split
    · exact covered.replace found rfl
    · exact covered

theorem Kept.reconcilePendingPrompt (kept : state.Kept) (sessionId runId : String)
    (context : DisconnectContext) (deadlineExpired : Bool) (answer : WaitAnswer) :
    (state.reconcilePendingPrompt sessionId runId context deadlineExpired answer).1.Kept := by
  unfold AcpState.reconcilePendingPrompt
  split
  next => exact kept
  next pending found =>
    obtain ⟨about, -, -⟩ := kept.isAbout found
    cases answer with
    | ok => exact kept.finishPrompt about _
    | error => exact kept.finishPrompt about _
    | other =>
      dsimp only
      split
      · exact kept.meetDeadline found context
      · exact kept
    | failed =>
      dsimp only
      split
      · exact kept.meetDeadline found context
      · exact kept

theorem CoveredBy.reconcilePendingPrompt
    (covered : state.CoveredBy underway) (kept : state.Kept) (sessionId runId : String)
    (context : DisconnectContext) (deadlineExpired : Bool) (answer : WaitAnswer) :
    (state.reconcilePendingPrompt sessionId runId context deadlineExpired answer).1.CoveredBy
      underway := by
  unfold AcpState.reconcilePendingPrompt
  split
  next => exact covered
  next pending found =>
    obtain ⟨-, rfl, rfl⟩ := kept.isAbout found
    have isPending := (Option.filter_eq_some_iff.1 found).1
    cases answer with
    | ok => exact covered.finishPrompt _ _ _ _
    | error => exact covered.finishPrompt _ _ _ _
    | other =>
      dsimp only
      split
      · exact covered.meetDeadline isPending context
      · exact covered
    | failed =>
      dsimp only
      split
      · exact covered.meetDeadline isPending context
      · exact covered

/-- What a removal does to prompts, disconnects and reconciliations. -/
theorem removed_frame (state : AcpState) (cause sessionId : String) :
    let next := ((state.unregister cause sessionId).clearActiveRun cause sessionId).clearTimerIfIdle
    next.pendingPrompts = state.pendingPrompts.delete sessionId ∧
      next.activeDisconnectContext = state.activeDisconnectContext ∧
      next.reconciliations = state.reconciliations := by
  obtain ⟨sessions, timer, news, -, is, -⟩ := removed_eq state cause sessionId
  rw [is]
  exact ⟨rfl, rfl, rfl⟩

/-- What an answer leaves as it is, and that a deadline check of the disconnect that the gateway
is away since leaves no prompt pending that it has been answered of. -/
theorem Kept.reconcilePendingPrompt_frame (kept : state.Kept) (sessionId runId : String)
    (context : DisconnectContext) (deadlineExpired : Bool) (answer : WaitAnswer) :
    let next := (state.reconcilePendingPrompt sessionId runId context deadlineExpired answer).1
    next.activeDisconnectContext = state.activeDisconnectContext ∧
      next.reconciliations = state.reconciliations ∧
      ∀ other, state.activeDisconnectContext = some other →
        context.generation = other.generation → deadlineExpired = true →
          ∀ pending, next.pendingPrompts.get sessionId = some pending →
            pending.idempotencyKey ≠ runId := by
  intro next
  -- Where the prompt is taken away, nothing is pending for its session.
  have removed : ∀ {last : AcpState},
      last.pendingPrompts = state.pendingPrompts.delete sessionId →
        ∀ pending, last.pendingPrompts.get sessionId = some pending →
          pending.idempotencyKey ≠ runId := fun {last} is pending found => by
    rw [is, OrderedMap.get_delete_self] at found
    nomatch found
  cases found : state.getPendingPrompt sessionId runId with
  | none =>
    have same : next = state := by
      simp only [next, AcpState.reconcilePendingPrompt, found]
    rw [same]
    refine ⟨rfl, rfl, fun _ _ _ _ pending isPending is => ?_⟩
    have hit : state.getPendingPrompt sessionId runId = some pending :=
      Option.filter_eq_some_iff.2 ⟨isPending, decide_eq_true is⟩
    rw [found] at hit
    nomatch hit
  | some pending =>
    obtain ⟨-, isRun, isSession⟩ := kept.isAbout found
    obtain ⟨removedPrompts, removedContext, removedReconciliations⟩ :=
      removed_frame state runId sessionId
    have isPending := (Option.filter_eq_some_iff.1 found).1
    have meets : ∀ expired : Bool,
        let last := if expired then state.meetDeadline pending context else state
        last.activeDisconnectContext = state.activeDisconnectContext ∧
          last.reconciliations = state.reconciliations ∧
          ∀ other, state.activeDisconnectContext = some other →
            context.generation = other.generation → expired = true →
              ∀ pending, last.pendingPrompts.get sessionId = some pending →
                pending.idempotencyKey ≠ runId := by
      intro expired last
      cases expired with
      | false => exact ⟨rfl, rfl, fun _ _ _ => (nomatch ·)⟩
      | true =>
        cases rejects : state.shouldRejectPendingAtDisconnectDeadline pending context with
        | true =>
          have is : last = (((state.unregister runId sessionId).clearActiveRun runId
              sessionId).clearTimerIfIdle).settle runId runId
                (.rejected ("Gateway disconnected: " ++ context.reason)) := by
            simp only [last, AcpState.meetDeadline, rejects, if_true, AcpState.rejectPendingPrompt,
              isRun, isSession, found]
          rw [is]
          exact ⟨removedContext, removedReconciliations, fun _ _ _ _ => removed removedPrompts⟩
        | false =>
          have is : last = state.clearPendingDisconnectState pending context := by
            simp [last, AcpState.meetDeadline, rejects]
          rw [is]
          refine ⟨?_, ?_, fun other away same => ?_⟩
          · unfold clearPendingDisconnectState
            split <;> rfl
          · unfold clearPendingDisconnectState
            split <;> rfl
          · rw [kept.shouldReject away same isPending] at rejects
            nomatch rejects
    cases answer with
    | ok =>
      have is : next = state.finishPrompt runId sessionId runId .endTurn := by
        simp only [next, AcpState.reconcilePendingPrompt, found]
      rw [is]
      exact ⟨removedContext, removedReconciliations, fun _ _ _ _ => removed removedPrompts⟩
    | error =>
      have is : next = state.finishPrompt runId sessionId runId .endTurn := by
        simp only [next, AcpState.reconcilePendingPrompt, found]
      rw [is]
      exact ⟨removedContext, removedReconciliations, fun _ _ _ _ => removed removedPrompts⟩
    | other =>
      have is : next = if deadlineExpired then state.meetDeadline pending context else state := by
        simp only [next, AcpState.reconcilePendingPrompt, found]
        cases deadlineExpired <;> rfl
      rw [is]
      exact meets deadlineExpired
    | failed =>
      have is : next = if deadlineExpired then state.meetDeadline pending context else state := by
        simp only [next, AcpState.reconcilePendingPrompt, found]
        cases deadlineExpired <;> rfl
      rw [is]
      exact meets deadlineExpired

/-- A reconciliation that is under way apart, so that only it may cover a prompt. -/
theorem CoveredBy.setApart (covered : state.CoveredBy state.Checked)
    (reconciliation : Reconciliation) :
    CoveredBy { state with reconciliations := state.reconciliations.erase reconciliation }
      fun since sessionId run =>
        (∃ other ∈ state.reconciliations.erase reconciliation, other.deadlineExpired = true ∧
          other.observedDisconnectGeneration = since ∧ other.Covers sessionId run) ∨
        (reconciliation.deadlineExpired = true ∧
          reconciliation.observedDisconnectGeneration = since ∧
          reconciliation.Covers sessionId run) := by
  intro context away sessionId pending found
  refine (covered context away sessionId pending found).imp_right ?_
  rintro ⟨other, member, checks⟩
  by_cases same : other = reconciliation
  · exact .inr (same ▸ checks)
  · exact .inl ⟨other, (List.mem_erase_of_ne same).2 member, checks⟩

theorem Kept.setApart (kept : state.Kept) (reconciliation : Reconciliation) :
    Kept { state with reconciliations := state.reconciliations.erase reconciliation } :=
  { kept with waiting := fun other member => kept.waiting other (List.mem_of_mem_erase member) }

theorem Kept.waitAnswered (kept : state.Kept) (covered : state.CoveredBy state.Checked)
    {reconciliation : Reconciliation} (member : reconciliation ∈ state.reconciliations)
    {answer : WaitAnswer} (taken : { state with
      reconciliations := state.reconciliations.erase reconciliation }.waitAnswered reconciliation
        answer = some next) : next.Kept ∧ next.CoveredBy next.Checked := by
  have keptApart := kept.setApart reconciliation
  have apart := covered.setApart reconciliation
  unfold AcpState.waitAnswered at taken
  cases isPhase : reconciliation.phase with
  | returned shouldKeepPending =>
    rw [isPhase] at taken
    nomatch taken
  | waiting sessionId runId context =>
    rw [isPhase] at taken
    obtain rfl := Option.some.inj taken
    obtain ⟨sameContext, sameReconciliations, gone⟩ := keptApart.reconcilePendingPrompt_frame
      sessionId runId context reconciliation.deadlineExpired answer
    have keptNext := keptApart.reconcilePendingPrompt sessionId runId context
      reconciliation.deadlineExpired answer
    constructor
    · exact { keptNext with
        waiting := List.forall_mem_append.2 ⟨keptNext.waiting,
          List.forall_mem_singleton.2 fun _ _ _ is => nomatch is⟩ }
    · intro since away id pending found
      refine (apart.reconcilePendingPrompt keptApart sessionId runId context
        reconciliation.deadlineExpired answer since away id pending found).imp_right ?_
      rintro (⟨other, isOther, checks⟩ | ⟨expired, same, covers⟩)
      · exact ⟨other, List.mem_append_left _ (sameReconciliations ▸ isOther), checks⟩
      · refine ⟨_, List.mem_append_right _ (List.mem_singleton_self _), expired, same, .inl ?_⟩
        rcases covers with remains | ⟨other, waits⟩
        · exact remains
        · rw [isPhase] at waits
          obtain ⟨rfl, isRun, rfl⟩ := ReconcilePhase.waiting.inj waits
          have sameGeneration := (kept.waiting _ member _ _ _ isPhase).trans same
          exact absurd isRun.symm
            (gone since (sameContext.symm.trans away) sameGeneration expired pending found)

theorem Kept.reconcileContinues (kept : state.Kept) (covered : state.CoveredBy state.Checked)
    {reconciliation : Reconciliation}
    (careful : state.Careful (.reconcileContinues reconciliation)) (taken : { state with
      reconciliations := state.reconciliations.erase reconciliation }.reconcileContinues
        reconciliation = some next) : next.Kept ∧ next.CoveredBy next.Checked := by
  have keptApart := kept.setApart reconciliation
  unfold AcpState.reconcileContinues at taken
  cases isPhase : reconciliation.phase with
  | waiting sessionId runId context =>
    rw [isPhase] at taken
    nomatch taken
  | returned shouldKeepPending =>
    rw [isPhase] at taken
    obtain rfl := Option.some.inj taken
    refine ⟨keptApart.reconcileNext _ _ _ _, keptApart.covered_reconcileNext ?_ ?_⟩
    · intro since away id pending found
      refine (covered.setApart reconciliation since away id pending found).imp_right fun by_ =>
        by_.imp_right fun ⟨expired, same, covers⟩ => ⟨expired, same, ?_⟩
      rcases covers with remains | ⟨other, waits⟩
      · exact remains
      · rw [isPhase] at waits
        nomatch waits
    · intro skips keeps
      obtain ⟨noTimer, rfl⟩ := Bool.or_eq_false_iff.1 keeps
      refine careful (List.all_eq_true.2 fun entry member => ?_) noTimer isPhase
      rw [Bool.not_eq_true']
      exact skips entry member

/-! ### Runs -/

section Frames

/-! Only reconciliations change what is under way. -/

variable (state : AcpState)

@[simp] theorem reconciliations_clearActiveRun (cause sessionId : String) :
    (state.clearActiveRun cause sessionId).reconciliations = state.reconciliations := by
  unfold clearActiveRun
  split <;> rfl

@[simp] theorem reconciliations_finishPrompt (cause sessionId run : String)
    (stopReason : StopReason) :
    (state.finishPrompt cause sessionId run stopReason).reconciliations = state.reconciliations :=
  (removed_frame state cause sessionId).2.2

theorem reconciliations_prompt (sessionId runId : String) (valid : Bool) :
    (state.prompt sessionId runId valid).reconciliations = state.reconciliations := by
  unfold prompt armIfAway
  split
  · rfl
  · split
    · split
      · split <;> rfl
      · rfl
    · rfl

theorem reconciliations_sendAccepted (sessionId runId : String) :
    (state.sendAccepted sessionId runId).reconciliations = state.reconciliations := by
  unfold sendAccepted
  split <;> rfl

theorem reconciliations_sendRefused (sessionId runId error : String) (gatewayClosed : Bool) :
    (state.sendRefused sessionId runId error gatewayClosed).reconciliations =
      state.reconciliations := by
  unfold sendRefused
  split
  · rfl
  · exact (removed_frame state runId sessionId).2.2

theorem reconciliations_cancel (sessionId : String) :
    (state.cancel sessionId).reconciliations = state.reconciliations := by
  unfold cancel
  dsimp only
  split
  · rfl
  · exact reconciliations_clearActiveRun state _ _

theorem reconciliations_cancelReturned (call : CancelCall) :
    (state.cancelReturned call).reconciliations = state.reconciliations := by
  unfold cancelReturned clearTimerIfIdle
  split
  · rfl
  · split <;> rfl

theorem reconciliations_handleChatEvent (sessionKey chatState : String) (runId : Option String)
    (hasMessage : Bool) (rawStopReason : Option String) :
    (state.handleChatEvent sessionKey chatState runId hasMessage rawStopReason).reconciliations =
      state.reconciliations := by
  unfold handleChatEvent
  split
  · rfl
  · split
    · rfl
    · dsimp only
      split
      · split
        · rfl
        · exact reconciliations_finishPrompt state _ _ _ _
      · split
        · exact reconciliations_finishPrompt state _ _ _ _
        · split
          · exact reconciliations_finishPrompt state _ _ _ _
          · rfl

end Frames

/-- What is covered stays covered where the same reconciliations are under way. -/
theorem CoveredBy.checked (covered : next.CoveredBy state.Checked)
    (same : next.reconciliations = state.reconciliations) : next.CoveredBy next.Checked := by
  unfold Checked at covered ⊢
  rw [same]
  exact covered

/-- One careful step keeps the invariant and leaves what is pending covered. -/
theorem Kept.step (kept : state.Kept) (covered : state.CoveredBy state.Checked) {event : AcpEvent}
    (careful : state.Careful event) (taken : state.step event = some next) :
    next.Kept ∧ next.CoveredBy next.Checked := by
  cases event with
  | prompt sessionId runId valid =>
    obtain rfl := Option.some.inj taken
    exact ⟨kept.prompt runId careful, (covered.prompt kept runId careful).checked
      (reconciliations_prompt state _ _ _)⟩
  | sendAccepted sessionId runId =>
    obtain ⟨-, isNext⟩ := Option.ite_none_right_eq_some.1 taken
    obtain rfl := Option.some.inj isNext
    have apart : Kept { state with sends := state.sends.erase (sessionId, runId) } := { kept with }
    have coveredApart : CoveredBy { state with sends := state.sends.erase (sessionId, runId) }
      state.Checked := covered
    exact ⟨apart.sendAccepted _ _, (coveredApart.sendAccepted _ _).checked
      (reconciliations_sendAccepted _ _ _)⟩
  | sendRefused sessionId runId error gatewayClosed =>
    obtain ⟨-, isNext⟩ := Option.ite_none_right_eq_some.1 taken
    obtain rfl := Option.some.inj isNext
    have apart : Kept { state with sends := state.sends.erase (sessionId, runId) } := { kept with }
    have coveredApart : CoveredBy { state with sends := state.sends.erase (sessionId, runId) }
      state.Checked := covered
    exact ⟨apart.sendRefused _ careful, (coveredApart.sendRefused _ _ _ _).checked
      (reconciliations_sendRefused _ _ _ _ _)⟩
  | cancel sessionId =>
    obtain rfl := Option.some.inj taken
    exact ⟨kept.cancel sessionId, (covered.cancel sessionId).checked
      (reconciliations_cancel state _)⟩
  | cancelReturned call =>
    obtain ⟨member, isNext⟩ := Option.ite_none_right_eq_some.1 taken
    obtain rfl := Option.some.inj isNext
    have apart : Kept { state with cancels := state.cancels.erase call } :=
      { kept with calls := fun other isOther => kept.calls other (List.mem_of_mem_erase isOther) }
    have coveredApart : CoveredBy { state with cancels := state.cancels.erase call }
      state.Checked := covered
    exact ⟨apart.cancelReturned (kept.calls call member) careful,
      (coveredApart.cancelReturned call).checked (reconciliations_cancelReturned _ _)⟩
  | chatEvent sessionKey chatState runId hasMessage rawStopReason =>
    obtain rfl := Option.some.inj taken
    exact ⟨kept.handleChatEvent _ _ _ _ _, (covered.handleChatEvent _ _ _ _ _).checked
      (reconciliations_handleChatEvent state _ _ _ _ _)⟩
  | finalForwarded event =>
    obtain ⟨member, isNext⟩ := Option.ite_none_right_eq_some.1 taken
    obtain rfl := Option.some.inj isNext
    have apart : Kept { state with finals := state.finals.erase event } :=
      { kept with finals := fun other isOther => kept.finals other (List.mem_of_mem_erase isOther) }
    have coveredApart : CoveredBy { state with finals := state.finals.erase event }
      state.Checked := covered
    exact ⟨apart.finalForwarded (kept.finals event member) careful,
      (coveredApart.finishPrompt _ _ _ _).checked (reconciliations_finishPrompt _ _ _ _ _)⟩
  | finalFailed event =>
    obtain ⟨-, isNext⟩ := Option.ite_none_right_eq_some.1 taken
    obtain rfl := Option.some.inj isNext
    exact ⟨{ kept with
      finals := fun other isOther => kept.finals other (List.mem_of_mem_erase isOther) }, covered⟩
  | finished prompt =>
    obtain ⟨member, isNext⟩ := Option.ite_none_right_eq_some.1 taken
    obtain rfl := Option.some.inj isNext
    exact ⟨kept.finished member, covered⟩
  | disconnect reason =>
    obtain rfl := Option.some.inj taken
    exact ⟨kept.handleGatewayDisconnect reason, coveredBy_handleGatewayDisconnect state reason _⟩
  | reconnect =>
    obtain rfl := Option.some.inj taken
    exact ⟨kept.handleGatewayReconnect, covered_handleGatewayReconnect covered⟩
  | timerFires =>
    obtain ⟨generation, armed, rfl⟩ := Option.map_eq_some_iff.1 taken
    exact ⟨kept.clearDisconnectTimer.reconcilePendingPrompts _ _,
      kept.covered_disconnectTimerFires armed⟩
  | waitAnswered reconciliation answer =>
    obtain ⟨member, answered⟩ := Option.ite_none_right_eq_some.1 taken
    exact kept.waitAnswered covered member answered
  | reconcileContinues reconciliation =>
    obtain ⟨-, continued⟩ := Option.ite_none_right_eq_some.1 taken
    exact kept.reconcileContinues covered careful continued

/-- In a run whose steps are careful, every prompt is answered, and by its own run. -/
theorem every_prompt_is_answered {sessionKeys : OrderedMap String String} {events : List AcpEvent}
    {final : AcpState} (run : Steps step Careful (initial sessionKeys) events final) :
    final.Answered := by
  have preserved : ∀ (state : AcpState) (event : AcpEvent) (next : AcpState),
      state.Kept ∧ state.CoveredBy state.Checked → state.Careful event →
        state.step event = some next → next.Kept ∧ next.CoveredBy next.Checked :=
    fun _ _ _ always careful taken => always.1.step always.2 careful taken
  have always := run.invariant preserved ⟨kept_initial sessionKeys, fun _ away => nomatch away⟩
  exact ⟨always.1.own, always.1.registered, always.2⟩

/-- One session. -/
def exampleSessions : OrderedMap String String := (∅ : OrderedMap String String).set "s" "main"

/-- The gateway goes away, and the deadline of the prompt passes. -/
def interruptedRun : List AcpEvent :=
  [.prompt "s" "r1" true, .disconnect "connection lost", .timerFires]

theorem interruptedRun_is_answered :
    ∃ final, execute step (initial exampleSessions) interruptedRun = some final ∧
      final.Answered := by
  have evaluated : (execute step (initial exampleSessions) interruptedRun).isSome = true := by
    decide +kernel
  obtain ⟨final, reached⟩ := Option.isSome_iff_exists.1 evaluated
  have careful : Steps step Careful (initial exampleSessions) interruptedRun final := by
    cases steps_of_execute reached with
    | cons _ taken tail =>
      refine .cons (fun _ => rfl) taken (tail.promote fun event member state => ?_)
      rcases List.mem_pair.1 member with rfl | rfl
      · exact trivial
      · exact trivial
  exact ⟨final, reached, every_prompt_is_answered careful⟩

/-- A second prompt takes the place of the first, whose refused send then takes it away. -/
def supersededRun : List AcpEvent :=
  [.prompt "s" "r1" true, .prompt "s" "r2" true,
    .sendRefused "s" "r1" "gateway closed (1006): connection lost" true]

/-- The send failure of one run takes away the prompt of another. -/
theorem superseding_prompt_is_lost :
    ¬ ∀ events final, Steps step Unguarded (initial exampleSessions) events final →
      final.Answered := by
  intro always
  have evaluated : (execute step (initial exampleSessions) supersededRun).any (fun final =>
      final.effects.any fun effect => effect.run ≠ effect.cause) = true := by
    decide +kernel
  obtain ⟨final, reached, is⟩ := (Option.any_eq_true _ _).1 evaluated
  obtain ⟨effect, member, other⟩ := List.any_eq_true.1 is
  exact of_decide_eq_true other ((always _ final (steps_of_execute reached)).own effect member)

end AcpState

end OpenClaw.Acp
