/-
This file is what the revision of a node's pending work says about the work.

A revision goes up with every change, and identifies the items as long as the state it is kept
in lives and what has expired is taken out before it is read. Two things break this. The state
is thrown away once it is empty, and the next one starts from zero. And a drain reads the
revision before it takes out what has expired, while an acknowledgement does not take it out at
all. Whether items are drained and acknowledged as they should does not depend on either.
-/

import OpenClaw.Base.Revisions
import OpenClaw.Gateway.NodePendingWork

namespace OpenClaw.PendingWork

open Machine Revisions Text

/-! ### What expires, and what is acknowledged -/

theorem pruneExpired_items (state : NodePendingWorkState) (nowMs : ℕ) :
    (pruneExpired state nowMs).items = state.items.filter (!·.Expired nowMs) := by
  unfold pruneExpired
  split
  · rfl
  next none =>
    refine (List.filter_eq_self.2 fun item member => ?_).symm
    have unexpired : ¬item.Expired nowMs := fun expired =>
      none (List.any_eq_true.2 ⟨item, member, decide_eq_true expired⟩)
    simpa using unexpired

variable {nowMs : ℕ}

theorem pruneExpired_of_unexpired {state : NodePendingWorkState}
    (unexpired : ∀ item ∈ state.items, ¬item.Expired nowMs) :
    pruneExpired state nowMs = state := by
  unfold pruneExpired
  rw [if_neg]
  intro some
  obtain ⟨item, member, expired⟩ := List.any_eq_true.1 some
  exact unexpired item member (of_decide_eq_true expired)

/-- The revision and the items of a node. -/
def version (state : Option NodePendingWorkState) : Versioned (List NodePendingWorkItem) :=
  ((getOrCreateState state).revision, itemsOf state)

theorem advances_pruneExpired (state : NodePendingWorkState) (nowMs : ℕ) :
    Advances (version (some state)) (version (some (pruneExpired state nowMs))) := by
  unfold pruneExpired
  split
  · exact Or.inr (Nat.lt_succ_self _)
  · exact Advances.refl _

/-- An acknowledgement names the item. -/
def Listed (itemIds : List String) (item : NodePendingWorkItem) : Prop :=
  item.id ≠ "" ∧ item.id ≠ defaultStatusItemId ∧ ∃ itemId ∈ itemIds, trim itemId = item.id

instance (itemIds : List String) (item : NodePendingWorkItem) : Decidable (Listed itemIds item) :=
  inferInstanceAs (Decidable (_ ∧ _ ∧ _))

theorem listed_cons (itemId : String) (rest : List String) (item : NodePendingWorkItem) :
    Listed (itemId :: rest) item ↔
      (item.id ≠ "" ∧ item.id ≠ defaultStatusItemId ∧ trim itemId = item.id) ∨
        Listed rest item := by
  simp only [Listed, List.exists_mem_cons_iff]
  tauto

/-- Exactly the listed items are taken out. -/
theorem removeListed_fst (itemIds : List String) (items : List NodePendingWorkItem) :
    (removeListed itemIds items).1 = items.filter (¬Listed itemIds ·) := by
  induction itemIds generalizing items with
  | nil => simp [removeListed, Listed]
  | cons itemId rest inductionHypothesis =>
    rw [removeListed]
    dsimp only
    split
    next skipped =>
      rw [inductionHypothesis]
      refine List.filter_congr fun item _ => ?_
      rw [decide_eq_decide, listed_cons]
      refine not_congr (or_iff_right ?_).symm
      rintro ⟨some, other, same⟩
      rw [same] at skipped
      exact skipped.elim some other
    next named =>
      have named := not_or.1 named
      split
      · rw [inductionHypothesis, List.filter_filter]
        refine List.filter_congr fun item _ => ?_
        rw [← Bool.decide_and, decide_eq_decide, listed_cons]
        constructor
        · rintro ⟨unlisted, different⟩ (⟨-, -, same⟩ | listed)
          · exact different same.symm
          · exact unlisted listed
        · intro unlisted
          refine ⟨fun listed => unlisted (Or.inr listed), fun same => unlisted (Or.inl ?_)⟩
          exact ⟨same ▸ named.1, same ▸ named.2, same.symm⟩
      next absent =>
        rw [inductionHypothesis]
        refine List.filter_congr fun item member => ?_
        rw [decide_eq_decide, listed_cons]
        refine not_congr (or_iff_right ?_).symm
        rintro ⟨-, -, same⟩
        exact absent (List.any_eq_true.2 ⟨item, member, decide_eq_true same.symm⟩)

theorem removeListed_snd (itemIds : List String) (items : List NodePendingWorkItem)
    (none : (removeListed itemIds items).2 = []) : (removeListed itemIds items).1 = items := by
  induction itemIds generalizing items with
  | nil => rfl
  | cons itemId rest inductionHypothesis =>
    rw [removeListed] at none ⊢
    dsimp only at none ⊢
    split at none
    next skipped =>
      rw [if_pos skipped]
      exact inductionHypothesis items none
    next named =>
      rw [if_neg named]
      split at none
      · exact absurd none (List.cons_ne_nil _ _)
      next absent =>
        rw [if_neg absent]
        exact inductionHypothesis items none

theorem itemsOf_pruneStateIfEmpty (state : NodePendingWorkState) :
    itemsOf (pruneStateIfEmpty state) = state.items := by
  unfold pruneStateIfEmpty
  split
  next empty => exact (List.isEmpty_iff.1 empty).symm
  · rfl

theorem itemsOf_acknowledge (itemIds : List String) (state : Option NodePendingWorkState) :
    itemsOf (acknowledgeNodePendingWork itemIds state).2 =
      (itemsOf state).filter (¬Listed itemIds ·) := by
  cases state with
  | none => rfl
  | some state =>
    exact (itemsOf_pruneStateIfEmpty _).trans (removeListed_fst itemIds state.items)

theorem itemsOf_drain (order : IdOrder) (opts : DrainOptions) (nowMs : ℕ)
    (state : Option NodePendingWorkState) :
    itemsOf (drainNodePendingWork order opts nowMs state).2 =
      (itemsOf state).filter (!·.Expired nowMs) := by
  cases state with
  | none => rfl
  | some state =>
    exact (itemsOf_pruneStateIfEmpty _).trans (pruneExpired_items state nowMs)

/-- What an enqueue does to the items: the expired ones go, and one of its type is there. -/
theorem enqueue_spec (params : EnqueueParams) (id : String) (nowMs : ℕ)
    (state : Option NodePendingWorkState) :
    let answered := enqueueNodePendingWork params id nowMs state
    answered.1.revision = answered.2.revision ∧ answered.1.item ∈ answered.2.items ∧
      Advances (version state) (version (some answered.2)) ∧
      (∀ item ∈ itemsOf state, ¬item.Expired nowMs → item ∈ answered.2.items) ∧
      ∀ item ∈ answered.2.items, ¬item.Expired nowMs := by
  have pruned := pruneExpired_items (getOrCreateState state) nowMs
  have advances := advances_pruneExpired (getOrCreateState state) nowMs
  have kept : ∀ item ∈ itemsOf state, ¬item.Expired nowMs →
      item ∈ (pruneExpired (getOrCreateState state) nowMs).items := by
    intro item member unexpired
    rw [pruned]
    exact List.mem_filter.2 ⟨member, by simpa using unexpired⟩
  have unexpired : ∀ item ∈ (pruneExpired (getOrCreateState state) nowMs).items,
      ¬item.Expired nowMs := by
    intro item member
    rw [pruned] at member
    simpa using (List.mem_filter.1 member).2
  have fresh : ¬(newItem params id nowMs).Expired nowMs := by
    rintro ⟨expiresAtMs, isExpiry, passed⟩
    obtain ⟨expiresInMs, -, rfl⟩ := Option.map_eq_some_iff.1 isExpiry
    have : (1000 : ℤ) ≤ max 1000 expiresInMs := le_max_left _ _
    omega
  dsimp only
  unfold enqueueNodePendingWork
  dsimp only
  split
  next existing found =>
    exact ⟨rfl, List.mem_of_find?_eq_some found, advances, kept, unexpired⟩
  · refine ⟨rfl, List.mem_append_right _ List.mem_cons_self,
      advances.trans (Or.inr (Nat.lt_succ_self _)),
      fun item member live => List.mem_append_left _ (kept item member live), ?_⟩
    intro item member
    rcases List.mem_append.1 member with old | new
    · exact unexpired item old
    · obtain rfl := List.mem_singleton.1 new
      exact fresh

/-! ### Revisions -/

/-- A node has a state only while there are items. -/
def Inhabited (state : Option NodePendingWorkState) : Prop := ∀ some ∈ state, some.items ≠ []

theorem inhabited_pruneStateIfEmpty (state : NodePendingWorkState) :
    Inhabited (pruneStateIfEmpty state) := by
  intro kept isKept
  unfold pruneStateIfEmpty at isKept
  split at isKept
  · exact absurd isKept nofun
  next some =>
    obtain rfl := Option.some.inj isKept
    simpa using some

theorem pruneStateIfEmpty_of_ne {state : NodePendingWorkState} (some : state.items ≠ []) :
    pruneStateIfEmpty state = .some state := if_neg (by simpa using some)

/-- A call that neither finds an item that has expired, nor takes the last one away. An enqueue
takes out itself what has expired. -/
def Safe (registry : Registry) (action : ℕ × Call) : Prop :=
  let items := itemsOf (registry.stateByNodeId action.2.nodeId)
  match action.2 with
  | .enqueue _ _ => True
  | .drain _ _ => ∀ item ∈ items, ¬item.Expired action.1
  | .acknowledge _ itemIds =>
    (∀ item ∈ items, ¬item.Expired action.1) ∧ (items ≠ [] → ∃ item ∈ items, ¬Listed itemIds item)

variable {state : Option NodePendingWorkState} {registry next : Registry}

theorem drain_safe (order : IdOrder) (opts : DrainOptions)
    (inhabited : Inhabited state) (unexpired : ∀ item ∈ itemsOf state, ¬item.Expired nowMs) :
    (drainNodePendingWork order opts nowMs state).1.revision = (version state).1 ∧
      (drainNodePendingWork order opts nowMs state).2 = state := by
  cases state with
  | none => exact ⟨rfl, rfl⟩
  | some state =>
    refine ⟨rfl, ?_⟩
    change pruneStateIfEmpty (pruneExpired state nowMs) = some state
    have same : pruneExpired state nowMs = state := pruneExpired_of_unexpired unexpired
    rw [same, pruneStateIfEmpty_of_ne (inhabited state rfl)]

theorem acknowledge_safe {itemIds : List String}
    (left : itemsOf state ≠ [] → ∃ item ∈ itemsOf state, ¬Listed itemIds item)
    (inhabited : Inhabited state) :
    (acknowledgeNodePendingWork itemIds state).1.revision =
        (version (acknowledgeNodePendingWork itemIds state).2).1 ∧
      Advances (version state) (version (acknowledgeNodePendingWork itemIds state).2) := by
  cases state with
  | none => exact ⟨rfl, Advances.refl _⟩
  | some state =>
    obtain ⟨item, member, unlisted⟩ := left (inhabited state rfl)
    have some : (removeListed itemIds state.items).1 ≠ [] := by
      rw [removeListed_fst]
      exact List.ne_nil_of_mem (List.mem_filter.2 ⟨member, by simpa using unlisted⟩)
    unfold acknowledgeNodePendingWork
    dsimp only
    rw [pruneStateIfEmpty_of_ne some]
    refine ⟨rfl, ?_⟩
    by_cases none : (removeListed itemIds state.items).2 = []
    · have same := removeListed_snd itemIds state.items none
      rw [none, same]
      exact Advances.refl _
    · rw [if_neg (by simpa using none)]
      exact Or.inr (Nat.lt_succ_self _)

/-- What a safe call does: the state moves on, and what is returned is its revision, with no
item expired. -/
theorem answer_safe (order : IdOrder) {registry : Registry} {call : Call}
    (inhabited : Inhabited (registry.stateByNodeId call.nodeId))
    (safe : Safe registry (nowMs, call)) :
    let answered := answer order nowMs (registry.stateByNodeId call.nodeId) call
    Inhabited answered.2 ∧
      Advances (version (registry.stateByNodeId call.nodeId)) (version answered.2) ∧
      version answered.2 =
        (answered.1, (itemsOf answered.2).filter (!·.Expired nowMs)) := by
  have all : ∀ {items : List NodePendingWorkItem}, (∀ item ∈ items, ¬item.Expired nowMs) →
      items.filter (!·.Expired nowMs) = items := fun unexpired =>
    List.filter_eq_self.2 fun item member => by simpa using unexpired item member
  cases call with
  | enqueue params id =>
    obtain ⟨revision, member, advances, -, unexpired⟩ := enqueue_spec params id nowMs
      (registry.stateByNodeId (trim params.nodeId))
    refine ⟨fun kept isKept => ?_, advances, Prod.ext revision.symm (all unexpired).symm⟩
    obtain rfl := Option.some.inj isKept
    exact List.ne_nil_of_mem member
  | drain nodeId opts =>
    obtain ⟨revision, same⟩ := drain_safe order opts inhabited safe
    have live : ∀ item ∈ itemsOf (registry.stateByNodeId (trim nodeId)), ¬item.Expired nowMs := safe
    dsimp only [answer, Call.nodeId] at inhabited revision same ⊢
    rw [same, revision, all live]
    exact ⟨inhabited, Advances.refl _, rfl⟩
  | acknowledge nodeId itemIds =>
    obtain ⟨revision, advances⟩ := acknowledge_safe safe.2 inhabited
    refine ⟨?_, advances, Prod.ext revision.symm (all fun item member => ?_).symm⟩
    · dsimp only [answer, Call.nodeId]
      cases registry.stateByNodeId (trim nodeId) with
      | none => exact nofun
      | some state => exact inhabited_pruneStateIfEmpty _
    · have left : item ∈ (itemsOf (registry.stateByNodeId (trim nodeId))).filter
          (¬Listed itemIds ·) := itemsOf_acknowledge itemIds _ ▸ member
      exact safe.1 item (List.mem_filter.1 left).1

/-- What was reported for a node. -/
def logOf (registry : Registry) (nodeId : String) : List (Versioned (List NodePendingWorkItem)) :=
  (registry.reports.filter (·.nodeId = nodeId)).map fun report =>
    (report.revision, report.unexpired)

theorem logOf_report (registry : Registry) (next : String → Option NodePendingWorkState)
    (nowMs : ℕ) (report : Report) (nodeId : String) :
    logOf ⟨next, nowMs, registry.reports ++ [report]⟩ nodeId = logOf registry nodeId ++
      if report.nodeId = nodeId then [(report.revision, report.unexpired)] else [] := by
  unfold logOf
  dsimp only
  rw [List.filter_append, List.map_append, List.filter_singleton]
  by_cases here : report.nodeId = nodeId
  · simp [here]
  · simp [here]

structure Consistent (registry : Registry) : Prop where
  inhabited : ∀ nodeId, Inhabited (registry.stateByNodeId nodeId)
  logged : ∀ nodeId, Logged (logOf registry nodeId) (version (registry.stateByNodeId nodeId))

theorem consistent_empty : Consistent {} :=
  ⟨fun _ => nofun, fun _ => logged_nil _⟩

/-- A step that is taken, on a node. -/
theorem step_cases {order : IdOrder} {call : Call}
    (taken : step order registry (nowMs, call) = some next) :
    registry.nowMs ≤ nowMs ∧ call.Sound (registry.stateByNodeId call.nodeId) ∧
      (call.nodeId = "" ∧ next = { registry with nowMs := nowMs } ∨
        call.nodeId ≠ "" ∧ next = {
          stateByNodeId := Function.update registry.stateByNodeId call.nodeId
            (answer order nowMs (registry.stateByNodeId call.nodeId) call).2
          nowMs := nowMs
          reports := registry.reports ++ [⟨call.nodeId,
            (answer order nowMs (registry.stateByNodeId call.nodeId) call).1,
            (itemsOf (answer order nowMs (registry.stateByNodeId call.nodeId) call).2).filter
              (!·.Expired nowMs)⟩] }) := by
  unfold step at taken
  dsimp only at taken
  split at taken
  · exact absurd taken nofun
  next admitted =>
    obtain ⟨early, sound⟩ := not_or.1 admitted
    refine ⟨not_lt.1 early, not_not.1 sound, ?_⟩
    split at taken
    next blank => exact Or.inl ⟨blank, (Option.some.inj taken).symm⟩
    next named => exact Or.inr ⟨named, (Option.some.inj taken).symm⟩

theorem Consistent.step {order : IdOrder} {action : ℕ × Call}
    (consistent : Consistent registry) (safe : Safe registry action)
    (taken : PendingWork.step order registry action = some next) : Consistent next := by
  obtain ⟨nowMs, call⟩ := action
  obtain ⟨-, -, ⟨-, rfl⟩ | ⟨-, rfl⟩⟩ := step_cases taken
  · exact ⟨consistent.inhabited, consistent.logged⟩
  · obtain ⟨inhabited, advances, current⟩ :=
      answer_safe order (consistent.inhabited call.nodeId) safe
    constructor
    · intro nodeId
      dsimp only
      by_cases here : nodeId = call.nodeId
      · subst here
        rw [Function.update_self]
        exact inhabited
      · rw [Function.update_of_ne here]
        exact consistent.inhabited nodeId
    · intro nodeId
      rw [logOf_report]
      dsimp only
      by_cases here : nodeId = call.nodeId
      · subst here
        rw [Function.update_self, if_pos rfl, ← current]
        exact ((consistent.logged call.nodeId).advance advances).report
      · rw [Function.update_of_ne here, if_neg fun same => here same.symm, List.append_nil]
        exact consistent.logged nodeId

/-- Revisions of a node never go down, and one revision stands for one set of items. -/
def Identifies (reports : List Report) : Prop :=
  reports.Pairwise fun earlier later => earlier.nodeId = later.nodeId →
    earlier.revision ≤ later.revision ∧ (earlier.revision = later.revision →
      ∀ item, item ∈ earlier.unexpired ↔ item ∈ later.unexpired)

theorem Consistent.identifies {registry : Registry} (consistent : Consistent registry) :
    Identifies registry.reports := by
  unfold Identifies
  have perNode : ∀ nodeId, registry.reports.Pairwise fun earlier later =>
      earlier.nodeId = nodeId → later.nodeId = nodeId →
        Advances (earlier.revision, earlier.unexpired) (later.revision, later.unexpired) := by
    intro nodeId
    simpa [logOf, List.pairwise_map, List.pairwise_filter] using (consistent.logged nodeId).inOrder
  have all : registry.reports.Pairwise fun earlier later => ∀ nodeId,
      earlier.nodeId = nodeId → later.nodeId = nodeId →
        Advances (earlier.revision, earlier.unexpired) (later.revision, later.unexpired) :=
    List.pairwise_iff_forall_sublist.2 fun sublist nodeId =>
      List.pairwise_iff_forall_sublist.1 (perNode nodeId) sublist
  refine all.imp fun advances same => ?_
  have advances := advances _ same rfl
  refine ⟨advances.le, fun level item => ?_⟩
  have contents := advances.value_eq level
  dsimp only at contents
  rw [contents]

/-! ### Waiting items -/

/-- A call before the item expires that does not acknowledge it. -/
def Waits (nodeId : String) (item : NodePendingWorkItem) (_ : Registry) (action : ℕ × Call) :
    Prop :=
  ¬item.Expired action.1 ∧
    ∀ named itemIds, action.2 = .acknowledge named itemIds → trim named = nodeId →
      ¬Listed itemIds item

theorem waits_step {order : IdOrder} {nodeId : String} {item : NodePendingWorkItem}
    {action : ℕ × Call} (kept : item ∈ itemsOf (registry.stateByNodeId nodeId))
    (waits : Waits nodeId item registry action)
    (taken : step order registry action = some next) :
    item ∈ itemsOf (next.stateByNodeId nodeId) := by
  obtain ⟨nowMs, call⟩ := action
  obtain ⟨-, -, ⟨-, rfl⟩ | ⟨-, rfl⟩⟩ := step_cases taken
  · exact kept
  · dsimp only
    by_cases here : nodeId = call.nodeId
    · subst here
      rw [Function.update_self]
      cases call with
      | enqueue params id =>
        exact (enqueue_spec params id nowMs _).2.2.2.1 item kept waits.1
      | drain named opts =>
        have left : item ∈ (itemsOf (registry.stateByNodeId (trim named))).filter
            (!·.Expired nowMs) := List.mem_filter.2 ⟨kept, by simpa using waits.1⟩
        exact itemsOf_drain order opts nowMs _ ▸ left
      | acknowledge named itemIds =>
        have left : item ∈ (itemsOf (registry.stateByNodeId (trim named))).filter
            (¬Listed itemIds ·) :=
          List.mem_filter.2 ⟨kept, by simpa using waits.2 named itemIds rfl rfl⟩
        exact itemsOf_acknowledge itemIds _ ▸ left
    · rw [Function.update_of_ne here]
      exact kept

theorem before_iff (order : IdOrder) (first second : NodePendingWorkItem) :
    before order first second = true ↔
      priorityRank second.priority < priorityRank first.priority ∨
        priorityRank second.priority = priorityRank first.priority ∧
          (first.createdAtMs < second.createdAtMs ∨ first.createdAtMs = second.createdAtMs ∧
            order.le first.id second.id = true) := by
  unfold before
  split
  next different =>
    rw [decide_eq_true_iff]
    exact ⟨Or.inl, fun earlier => earlier.resolve_right fun same => different same.1.symm⟩
  next same =>
    have same := not_not.1 same
    rw [same]
    split
    next different =>
      rw [decide_eq_true_iff]
      refine ⟨fun earlier => Or.inr ⟨rfl, Or.inl earlier⟩, fun earlier => ?_⟩
      exact (earlier.resolve_left (lt_irrefl _)).2.resolve_right fun level => different level.1
    next level =>
      have level := not_not.1 level
      rw [level]
      refine ⟨fun earlier => Or.inr ⟨rfl, Or.inr ⟨rfl, earlier⟩⟩, fun earlier => ?_⟩
      exact ((earlier.resolve_left (lt_irrefl _)).2.resolve_left (lt_irrefl _)).2

theorem before_trans (order : IdOrder) (first second third : NodePendingWorkItem)
    (front : before order first second) (back : before order second third) :
    before order first third := by
  rw [before_iff] at *
  rcases front with higher | ⟨same, front⟩
  · rcases back with further | ⟨level, -⟩ <;> exact Or.inl (by omega)
  · rcases back with further | ⟨level, back⟩
    · exact Or.inl (by omega)
    · refine Or.inr ⟨by omega, ?_⟩
      rcases front with older | ⟨equal, inOrder⟩
      · rcases back with newer | ⟨even, -⟩ <;> exact Or.inl (by omega)
      · rcases back with newer | ⟨even, further⟩
        · exact Or.inl (by omega)
        · exact Or.inr ⟨by omega, order.trans _ _ _ inOrder further⟩

theorem before_total (order : IdOrder) (first second : NodePendingWorkItem) :
    before order first second || before order second first := by
  rw [Bool.or_eq_true, before_iff, before_iff]
  rcases Bool.or_eq_true _ _ ▸ order.total first.id second.id with inOrder | inOrder
  all_goals
    rcases lt_trichotomy (priorityRank first.priority) (priorityRank second.priority) with
      lower | same | higher
    · exact Or.inr (Or.inl lower)
    · rcases lt_trichotomy first.createdAtMs second.createdAtMs with older | level | newer
      · exact Or.inl (Or.inr ⟨same.symm, Or.inl older⟩)
      · first
          | exact Or.inl (Or.inr ⟨same.symm, Or.inr ⟨level, inOrder⟩⟩)
          | exact Or.inr (Or.inr ⟨same, Or.inr ⟨level.symm, inOrder⟩⟩)
      · exact Or.inr (Or.inr ⟨same, Or.inl newer⟩)
    · exact Or.inl (Or.inl higher)

/-- What a drain returns: the first of the items that have not expired, in the order of their
priorities, and perhaps the status item behind them. When some are left it returns as many as
were asked for, and says that there are more. -/
theorem drain_spec (order : IdOrder) (opts : DrainOptions) (nowMs : ℕ)
    (state : Option NodePendingWorkState) :
    ∃ taken waiting,
      (taken ++ waiting).Perm ((itemsOf state).filter (!·.Expired nowMs)) ∧
      (taken ++ waiting).Pairwise (fun first second => before order first second) ∧
      ((drainNodePendingWork order opts nowMs state).1.items = taken ∨
        (drainNodePendingWork order opts nowMs state).1.items =
          taken ++ [makeBaselineStatusItem nowMs]) ∧
      (waiting ≠ [] → (drainNodePendingWork order opts nowMs state).1.items = taken ∧
        taken.length = opts.limit ∧
        (drainNodePendingWork order opts nowMs state).1.hasMore = true) := by
  let explicitItems := ((state.map (pruneExpired · nowMs)).map (sortedItems order)).getD []
  have sorted : explicitItems = ((itemsOf state).filter (!·.Expired nowMs)).mergeSort
      (before order) := by
    cases state with
    | none => exact List.mergeSort_nil.symm
    | some state => exact congrArg (List.mergeSort · _) (pruneExpired_items state nowMs)
  refine ⟨explicitItems.take opts.limit, explicitItems.drop opts.limit, ?_, ?_, ?_, ?_⟩
  · rw [List.take_append_drop, sorted]
    exact List.mergeSort_perm _ _
  · rw [List.take_append_drop, sorted]
    exact List.pairwise_mergeSort (before_trans order) (before_total order) _
  · unfold drainNodePendingWork
    dsimp only
    split
    · exact Or.inr rfl
    · exact Or.inl rfl
  · intro more
    have long : opts.limit < explicitItems.length := not_le.1 fun short => more (List.drop_eq_nil_iff.2 short)
    have full : (explicitItems.take opts.limit).length = opts.limit := by
      rw [List.length_take]
      omega
    have unaltered : ¬((opts.includeDefaultStatus &&
        !explicitItems.any (·.type = .statusRequest)) = true ∧
        (explicitItems.take opts.limit).length < opts.limit) := fun both => by omega
    have returned := List.length_filter_le (fun item : NodePendingWorkItem =>
      decide (item.id ≠ defaultStatusItemId)) (explicitItems.take opts.limit)
    unfold drainNodePendingWork
    dsimp only
    rw [if_neg unaltered]
    refine ⟨rfl, full, ?_⟩
    rw [Bool.or_eq_true, decide_eq_true_iff]
    exact Or.inl (returned.trans_lt (full.le.trans_lt long))

/-- An item that waits for a drain is among what that returns, or comes behind all of it, and
then it is said that there are more. -/
theorem drain_announces (order : IdOrder) (opts : DrainOptions)
    {item : NodePendingWorkItem} (kept : item ∈ itemsOf state) (unexpired : ¬item.Expired nowMs) :
    let drained := (drainNodePendingWork order opts nowMs state).1
    item ∈ drained.items ∨ drained.hasMore = true ∧ drained.items.length = opts.limit ∧
      ∀ returned ∈ drained.items, before order returned item = true := by
  obtain ⟨taken, waiting, perm, sorted, isTaken, more⟩ := drain_spec order opts nowMs state
  have among : item ∈ taken ++ waiting :=
    perm.mem_iff.2 (List.mem_filter.2 ⟨kept, by simpa using unexpired⟩)
  dsimp only
  rcases List.mem_append.1 among with inTaken | inWaiting
  · refine Or.inl ?_
    rcases isTaken with same | same
    · exact same ▸ inTaken
    · exact same ▸ List.mem_append_left _ inTaken
  · obtain ⟨same, full, hasMore⟩ := more (List.ne_nil_of_mem inWaiting)
    refine Or.inr ⟨hasMore, same ▸ full, fun returned member => ?_⟩
    rw [same] at member
    exact (List.pairwise_append.1 sorted).2.2 returned member item inWaiting

/-! ### The claim as a whole -/

/-- The identifiers in the order of their characters. -/
def plainOrder : IdOrder where
  le first second := decide (first.toList ≤ second.toList)
  trans := by
    simp only [decide_eq_true_eq]
    exact fun _ _ _ => le_trans
  total := by
    simp only [Bool.or_eq_true, decide_eq_true_eq]
    exact fun first second => le_total first.toList second.toList

instance (registry : Registry) : (action : ℕ × Call) → Decidable (Safe registry action)
  | (_, .enqueue _ _) => inferInstanceAs (Decidable True)
  | (_, .drain _ _) => inferInstanceAs (Decidable (∀ item ∈ _, _))
  | (_, .acknowledge _ _) => inferInstanceAs (Decidable (_ ∧ (_ → ∃ item ∈ _, _)))

def phoneRequest : EnqueueParams := ⟨"phone", .statusRequest, none, none⟩

/-- Items of which no two are of one type, and no two have one identifier. -/
def Distinct (items : List NodePendingWorkItem) : Prop :=
  items.Pairwise fun first second => first.type ≠ second.type ∧ first.id ≠ second.id

theorem distinct_answer {order : IdOrder} {call : Call}
    {state : Option NodePendingWorkState} (distinct : Distinct (itemsOf state))
    (sound : call.Sound state) : Distinct (itemsOf (answer order nowMs state call).2) := by
  cases call with
  | enqueue params id =>
    have pruned : Distinct (pruneExpired (getOrCreateState state) nowMs).items :=
      pruneExpired_items _ nowMs ▸ distinct.filter _
    simp only [answer, enqueueNodePendingWork]
    split
    next => exact pruned
    next absent =>
      refine List.pairwise_append.2 ⟨pruned, List.pairwise_singleton .., fun item member => ?_⟩
      have other : item.type ≠ params.type := by simpa using List.find?_eq_none.1 absent item member
      rw [pruneExpired_items] at member
      exact List.forall_mem_singleton.2 ⟨other, sound.2 item (List.mem_of_mem_filter member)⟩
  | drain named opts => exact itemsOf_drain order opts nowMs state ▸ distinct.filter _
  | acknowledge named itemIds => exact itemsOf_acknowledge itemIds state ▸ distinct.filter _

def Registry.Distinct (registry : Registry) : Prop :=
  ∀ nodeId, PendingWork.Distinct (itemsOf (registry.stateByNodeId nodeId))

end OpenClaw.PendingWork
