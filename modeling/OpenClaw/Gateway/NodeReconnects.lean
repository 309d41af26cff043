/-
This file says when a node stays reachable across reconnects.

The registry finds a session by its node and an invoke by its node, and neither by its
connection. So everything goes well as long as a connection is unregistered while it is
the one its node registered last, and while nothing is pending for the node that was sent
on an earlier one. Then the sessions are the latest registrations that are still open,
and each invoke that was sent is either pending with its timer armed or settled once.

The code does not look at the connection. When a node has registered again, closing its
old connection removes the new session and rejects what was sent on it.
-/

import OpenClaw.Gateway.NodeRegistry

namespace OpenClaw.Gateway

open Machine RegistryWorld

variable {Payload : Type}

/-! ### The property -/

namespace RegistryWorld

/-- The session of the latest registration of a node. -/
def latest (world : RegistryWorld Payload) (nodeId : String) : Option NodeSession :=
  world.registered.find? (·.nodeId = nodeId)

/-- How often the promise of a request has been settled. -/
def settlements (world : RegistryWorld Payload) (requestId : String) : Nat :=
  (world.settled.map Settlement.requestId).count requestId

/-- What the callers of the registry rely on. -/
structure Dependable (world : RegistryWorld Payload) : Prop where
  /-- A node is found on its latest connection while that is open. -/
  reachable : ∀ nodeId session, world.latest nodeId = some session →
    session.connId ∉ world.unregistered → world.get nodeId = some session
  /-- A disconnect rejects what was sent on the connection, -/
  rejected : ∀ settlement ∈ world.settled, ∀ connId error,
    settlement.outcome = .disconnected connId error →
      ∃ invoke ∈ world.sent, invoke.requestId = settlement.requestId ∧ invoke.connId = connId
  /-- and all of it. -/
  released : ∀ invoke ∈ world.sent, invoke.connId ∈ world.unregistered →
    world.pendingInvokes.get invoke.requestId = none
  /-- An invoke waits for its answer or its timer, or is settled, and then once. -/
  once : ∀ invoke ∈ world.sent,
    (world.pendingInvokes.has invoke.requestId = true ∧ invoke.requestId ∈ world.timers ∧
      world.settlements invoke.requestId = 0) ∨
    (world.pendingInvokes.get invoke.requestId = none ∧ world.settlements invoke.requestId = 1)
  /-- A result is reported by the node the invoke was sent to. -/
  reported : ∀ settlement ∈ world.settled, ∀ nodeId result,
    settlement.outcome = .reported nodeId result →
      ∃ invoke ∈ world.sent, invoke.requestId = settlement.requestId ∧ invoke.nodeId = nodeId

/-! ### The condition -/

/-- A connection is unregistered while its node has no session on another one, and nothing is
pending for the node that was sent on another one. -/
def careful (world : RegistryWorld Payload) : RegistryAction Payload → Bool
  | .unregister connId => (world.nodesByConn.get connId).all fun nodeId =>
    (world.nodesById.get nodeId).all (fun session => session.connId = connId) &&
      (world.pendingOf nodeId).all fun entry =>
        world.sent.all fun invoke => invoke.requestId ≠ entry.1 || invoke.connId = connId
  | _ => true

/-! ### The invariant -/

/-- How the maps of the registry and its history hang together. -/
structure Consistent (world : RegistryWorld Payload) : Prop where
  current : ∀ nodeId session, world.nodesById.get nodeId = some session ↔
    world.latest nodeId = some session ∧ session.connId ∉ world.unregistered
  byConn : ∀ connId nodeId, world.nodesByConn.get connId = some nodeId ↔
    connId ∉ world.unregistered ∧
      ∃ session ∈ world.registered, session.connId = connId ∧ session.nodeId = nodeId
  closed : ∀ connId ∈ world.unregistered, ∃ session ∈ world.registered, session.connId = connId
  named : ∀ session ∈ world.registered, session.nodeId ≠ ""
  connections : (world.registered.map NodeSession.connId).Nodup
  requests : (world.sent.map SentInvoke.requestId).Nodup
  sentOn : ∀ invoke ∈ world.sent, ∃ session ∈ world.registered,
    session.connId = invoke.connId ∧ session.nodeId = invoke.nodeId
  pending : ∀ requestId pending, world.pendingInvokes.get requestId = some pending →
    ∃ invoke ∈ world.sent, invoke.requestId = requestId ∧ invoke.nodeId = pending.nodeId
  armed : ∀ requestId, requestId ∈ world.timers ↔ world.pendingInvokes.has requestId = true
  settled : ∀ settlement ∈ world.settled, ∃ invoke ∈ world.sent,
    invoke.requestId = settlement.requestId
  dependable : Dependable world

theorem consistent_empty : Consistent ({} : RegistryWorld Payload) where
  current nodeId session := by simp [latest]
  byConn connId nodeId := by simp
  closed := by simp
  named := by simp
  connections := List.nodup_nil
  requests := List.nodup_nil
  sentOn := by simp
  pending := by simp
  armed requestId := by simp [OrderedMap.has]
  settled := by simp
  dependable := ⟨by simp [latest], by simp, by simp, by simp, by simp⟩

/-! ### Looking things up -/

variable {world : RegistryWorld Payload}

theorem Consistent.session_unique (consistent : Consistent world) {first second : NodeSession}
    (isFirst : first ∈ world.registered) (isSecond : second ∈ world.registered)
    (same : first.connId = second.connId) : first = second :=
  List.inj_on_of_nodup_map consistent.connections isFirst isSecond same

theorem Consistent.invoke_unique (consistent : Consistent world) {first second : SentInvoke}
    (isFirst : first ∈ world.sent) (isSecond : second ∈ world.sent)
    (same : first.requestId = second.requestId) : first = second :=
  List.inj_on_of_nodup_map consistent.requests isFirst isSecond same

theorem latest_registered {nodeId : String} {session : NodeSession}
    (is : world.latest nodeId = some session) :
    session ∈ world.registered ∧ session.nodeId = nodeId :=
  ⟨List.mem_of_find?_eq_some is, by simpa using List.find?_some is⟩

theorem Consistent.unsettled (consistent : Consistent world) {invoke : SentInvoke}
    (isSent : invoke ∈ world.sent) {pending : PendingInvoke}
    (waits : world.pendingInvokes.get invoke.requestId = some pending) :
    world.settlements invoke.requestId = 0 := by
  rcases consistent.dependable.once invoke isSent with ⟨-, -, none_yet⟩ | ⟨absent, -⟩
  · exact none_yet
  · rw [waits] at absent
    exact absurd absent nofun

theorem mem_pendingOf (world : RegistryWorld Payload) (nodeId requestId : String) :
    requestId ∈ (world.pendingOf nodeId).map Prod.fst ↔
      ∃ pending, world.pendingInvokes.get requestId = some pending ∧ pending.nodeId = nodeId := by
  simp only [pendingOf, List.mem_map, List.mem_filter, decide_eq_true_eq,
    OrderedMap.get_eq_some_iff]
  constructor
  · rintro ⟨⟨id, pending⟩, ⟨member, node⟩, rfl⟩
    exact ⟨pending, member, node⟩
  · rintro ⟨pending, member, node⟩
    exact ⟨(requestId, pending), ⟨member, node⟩, rfl⟩

theorem nodup_pendingOf (world : RegistryWorld Payload) (nodeId : String) :
    ((world.pendingOf nodeId).map Prod.fst).Nodup :=
  world.pendingInvokes.distinct.sublist (List.filter_sublist.map Prod.fst)

/-- A new request has not been settled. -/
theorem Consistent.settlements_of_fresh (consistent : Consistent world) {requestId : String}
    (fresh : ∀ invoke ∈ world.sent, invoke.requestId ≠ requestId) :
    world.settlements requestId = 0 := by
  refine List.count_eq_zero.2 fun member => ?_
  obtain ⟨settlement, isSettled, rfl⟩ := List.mem_map.1 member
  obtain ⟨invoke, isSent, same⟩ := consistent.settled settlement isSettled
  exact fresh invoke isSent same

/-! ### One step -/

theorem Consistent.register (consistent : Consistent world) (client : WsClient)
    (remoteIp : Option String) (now : Nat)
    (fresh : ∀ session ∈ world.registered, session.connId ≠ client.connId)
    (named : (sessionOf client remoteIp now).nodeId ≠ "") :
    Consistent (world.register client remoteIp now) := by
  have unclosed : client.connId ∉ world.unregistered := fun closed => by
    obtain ⟨session, member, same⟩ := consistent.closed _ closed
    exact fresh session member same
  have latest_self : (world.register client remoteIp now).latest
      (sessionOf client remoteIp now).nodeId = some (sessionOf client remoteIp now) := by
    rw [latest, RegistryWorld.register]
    exact List.find?_cons_of_pos (by simp)
  have latest_other : ∀ nodeId, nodeId ≠ (sessionOf client remoteIp now).nodeId →
      (world.register client remoteIp now).latest nodeId = world.latest nodeId := fun nodeId other => by
    rw [latest, RegistryWorld.register]
    exact List.find?_cons_of_neg (by simpa using other.symm)
  have current : ∀ nodeId session,
      (world.register client remoteIp now).nodesById.get nodeId = some session ↔
        (world.register client remoteIp now).latest nodeId = some session ∧
          session.connId ∉ world.unregistered := fun nodeId session => by
    show (world.nodesById.set (sessionOf client remoteIp now).nodeId _).get nodeId = _ ↔ _
    rw [OrderedMap.get_set]
    by_cases same : nodeId = (sessionOf client remoteIp now).nodeId
    · rw [if_pos same, same, latest_self]
      refine ⟨fun is => ⟨is, ?_⟩, fun is => is.1⟩
      obtain rfl := Option.some.inj is
      exact unclosed
    · rw [if_neg same, latest_other nodeId same]
      exact consistent.current nodeId session
  refine ⟨current, ?_, ?_, ?_, ?_, consistent.requests, ?_, consistent.pending, consistent.armed,
    consistent.settled, ?_⟩
  · intro connId nodeId
    show (world.nodesByConn.set client.connId (sessionOf client remoteIp now).nodeId).get connId =
        some nodeId ↔ connId ∉ world.unregistered ∧
          ∃ session ∈ sessionOf client remoteIp now :: world.registered, _
    rw [OrderedMap.get_set]
    simp only [List.mem_cons, exists_eq_or_imp]
    by_cases same : connId = client.connId
    · rw [if_pos same, same]
      constructor
      · intro is
        exact ⟨unclosed, .inl ⟨rfl, Option.some.inj is⟩⟩
      · rintro ⟨-, ⟨-, is⟩ | ⟨session, member, sameConn, -⟩⟩
        · exact congrArg some is
        · exact absurd sameConn (fresh session member)
    · rw [if_neg same, consistent.byConn]
      refine and_congr_right fun _ => ⟨.inr, ?_⟩
      rintro (⟨sameConn, -⟩ | known)
      · exact absurd sameConn.symm same
      · exact known
  · intro connId closed
    obtain ⟨session, member, same⟩ := consistent.closed connId closed
    exact ⟨session, List.mem_cons_of_mem _ member, same⟩
  · exact List.forall_mem_cons.2 ⟨named, consistent.named⟩
  · refine List.nodup_cons.2 ⟨fun member => ?_, consistent.connections⟩
    obtain ⟨session, isRegistered, same⟩ := List.mem_map.1 member
    exact fresh session isRegistered same
  · intro invoke isSent
    obtain ⟨session, member, same⟩ := consistent.sentOn invoke isSent
    exact ⟨session, List.mem_cons_of_mem _ member, same⟩
  · exact ⟨fun nodeId session isLatest isOpen => (current nodeId session).2 ⟨isLatest, isOpen⟩,
      consistent.dependable.rejected, consistent.dependable.released, consistent.dependable.once,
      consistent.dependable.reported⟩

theorem Consistent.invoke (consistent : Consistent world) (nodeId command requestId : String)
    (delivered : Bool) (fresh : ∀ other ∈ world.sent, other.requestId ≠ requestId) :
    Consistent (world.invoke nodeId command requestId delivered).1 := by
  unfold RegistryWorld.invoke
  split
  next => exact consistent
  next node found =>
    split
    next => exact consistent
    next =>
      obtain ⟨isLatest, isOpen⟩ := (consistent.current nodeId node).1 found
      obtain ⟨isRegistered, isNode⟩ := latest_registered isLatest
      have unsettled := consistent.settlements_of_fresh fresh
      have keep : ∀ other ∈ world.sent, (world.pendingInvokes.set requestId ⟨nodeId, command⟩).get
          other.requestId = world.pendingInvokes.get other.requestId :=
        fun other isSent => OrderedMap.get_set_of_ne _ _ (fresh other isSent)
      refine ⟨consistent.current, consistent.byConn, consistent.closed, consistent.named,
        consistent.connections, ?_, ?_, ?_, ?_, ?_, consistent.dependable.reachable, ?_, ?_, ?_, ?_⟩
      · refine List.nodup_cons.2 ⟨fun member => ?_, consistent.requests⟩
        obtain ⟨other, isSent, same⟩ := List.mem_map.1 member
        exact fresh other isSent same
      · exact List.forall_mem_cons.2 ⟨⟨node, isRegistered, rfl, isNode⟩, consistent.sentOn⟩
      · intro id pending waits
        rw [OrderedMap.get_set] at waits
        split at waits
        next same =>
          obtain rfl := Option.some.inj waits
          exact ⟨_, List.mem_cons_self, same.symm, rfl⟩
        next =>
          obtain ⟨other, isSent, is⟩ := consistent.pending id pending waits
          exact ⟨other, List.mem_cons_of_mem _ isSent, is⟩
      · intro id
        show id ∈ requestId :: world.timers ↔
          (world.pendingInvokes.set requestId ⟨nodeId, command⟩).has id = true
        rw [List.mem_cons, OrderedMap.has, OrderedMap.get_set]
        split
        next same => exact ⟨fun _ => rfl, fun _ => .inl same⟩
        next other =>
          rw [consistent.armed id, OrderedMap.has]
          exact or_iff_right other
      · intro settlement isSettled
        obtain ⟨other, isSent, same⟩ := consistent.settled settlement isSettled
        exact ⟨other, List.mem_cons_of_mem _ isSent, same⟩
      · intro settlement isSettled connId error is
        obtain ⟨other, isSent, same⟩ :=
          consistent.dependable.rejected settlement isSettled connId error is
        exact ⟨other, List.mem_cons_of_mem _ isSent, same⟩
      · refine List.forall_mem_cons.2 ⟨fun closed => absurd closed isOpen, fun other isSent closed => ?_⟩
        rw [keep other isSent]
        exact consistent.dependable.released other isSent closed
      · refine List.forall_mem_cons.2 ⟨.inl ⟨?_, List.mem_cons_self, unsettled⟩,
          fun other isSent => ?_⟩
        · rw [OrderedMap.has, OrderedMap.get_set_self]
          rfl
        · rw [OrderedMap.has, keep other isSent]
          exact (consistent.dependable.once other isSent).imp
            (fun waits => ⟨waits.1, List.mem_cons_of_mem _ waits.2.1, waits.2.2⟩) id
      · intro settlement isSettled node result is
        obtain ⟨other, isSent, same⟩ :=
          consistent.dependable.reported settlement isSettled node result is
        exact ⟨other, List.mem_cons_of_mem _ isSent, same⟩

/-- A pending invoke is settled by its timer or by the report of its node. -/
theorem Consistent.settle (consistent : Consistent world) {requestId : String}
    {pending : PendingInvoke} (waits : world.pendingInvokes.get requestId = some pending)
    {outcome : Outcome Payload} (kept : ∀ connId error, outcome ≠ .disconnected connId error)
    (honest : ∀ nodeId result, outcome = .reported nodeId result → pending.nodeId = nodeId) :
    Consistent { world with
      timers := world.timers.filter (· ≠ requestId)
      pendingInvokes := world.pendingInvokes.delete requestId
      settled := ⟨requestId, outcome⟩ :: world.settled } := by
  obtain ⟨invoke, isSent, rfl, node⟩ := consistent.pending requestId pending waits
  have unsettled := consistent.unsettled isSent waits
  refine ⟨consistent.current, consistent.byConn, consistent.closed, consistent.named,
    consistent.connections, consistent.requests, consistent.sentOn, ?_, ?_, ?_,
    consistent.dependable.reachable, ?_, ?_, ?_, ?_⟩
  · intro id other found
    rw [OrderedMap.get_delete] at found
    split at found
    · cases found
    · exact consistent.pending id other found
  · intro id
    show id ∈ world.timers.filter _ ↔ (world.pendingInvokes.delete _).has id = true
    rw [List.mem_filter, consistent.armed id, OrderedMap.has, OrderedMap.has,
      OrderedMap.get_delete, decide_eq_true_eq]
    split
    next same => exact ⟨fun both => absurd same both.2, fun waits => by cases waits⟩
    next other => exact and_iff_left other
  · exact List.forall_mem_cons.2 ⟨⟨invoke, isSent, rfl⟩, consistent.settled⟩
  · refine List.forall_mem_cons.2 ⟨fun connId error is => absurd is (kept connId error), ?_⟩
    exact consistent.dependable.rejected
  · intro other isOther closed
    show (world.pendingInvokes.delete _).get _ = none
    rw [OrderedMap.get_delete, consistent.dependable.released other isOther closed, ite_self]
  · intro other isOther
    by_cases same : other.requestId = invoke.requestId
    · refine .inr ⟨?_, ?_⟩
      · rw [same, OrderedMap.get_delete_self]
      · show (invoke.requestId :: world.settled.map Settlement.requestId).count _ = 1
        rw [same, List.count_cons_self]
        exact congrArg (· + 1) unsettled
    · have settlements_eq : ((invoke.requestId :: world.settled.map
          Settlement.requestId).count other.requestId) = world.settlements other.requestId :=
        List.count_cons_of_ne (Ne.symm same)
      show (world.pendingInvokes.delete _).has _ = true ∧ _ ∧ List.count _ (_ :: _) = 0 ∨
        (world.pendingInvokes.delete _).get _ = none ∧ List.count _ (_ :: _) = 1
      rw [settlements_eq, OrderedMap.has, OrderedMap.get_delete_of_ne _ same, List.mem_filter]
      exact (consistent.dependable.once other isOther).imp
        (fun waits => ⟨waits.1, ⟨waits.2.1, by simpa using same⟩, waits.2.2⟩) id
  · refine List.forall_mem_cons.2 ⟨fun nodeId result is => ?_, consistent.dependable.reported⟩
    exact ⟨invoke, isSent, rfl, node.trans (honest nodeId result is)⟩

theorem Consistent.fireTimer (consistent : Consistent world) {requestId : String}
    (armed : requestId ∈ world.timers) : Consistent (world.fireTimer requestId) := by
  have waits := (consistent.armed requestId).1 armed
  obtain ⟨pending, waits⟩ := Option.isSome_iff_exists.1 waits
  exact consistent.settle waits nofun nofun

theorem Consistent.handleInvokeResult (consistent : Consistent world)
    (params : InvokeReport Payload) : Consistent (world.handleInvokeResult params).1 := by
  unfold RegistryWorld.handleInvokeResult
  split
  next => exact consistent
  next pending waits =>
    split
    next => exact consistent
    next same =>
      refine consistent.settle waits nofun fun nodeId result is => ?_
      injection is with isNode
      exact (not_not.1 same).trans isNode

/-- What a careful disconnect rejects is what was sent on the connection. -/
theorem Consistent.rejects_iff (consistent : Consistent world) {connId nodeId : String}
    (isNode : world.nodesByConn.get connId = some nodeId)
    (careful : world.careful (.unregister connId) = true) {invoke : SentInvoke}
    (isSent : invoke ∈ world.sent) :
    invoke.requestId ∈ (world.pendingOf nodeId).map Prod.fst ↔
      invoke.connId = connId ∧ ∃ pending,
        world.pendingInvokes.get invoke.requestId = some pending := by
  rw [RegistryWorld.careful, isNode, Option.all_some, Bool.and_eq_true, List.all_eq_true] at careful
  constructor
  · intro member
    obtain ⟨entry, isEntry, same⟩ := List.mem_map.1 member
    have sentHere := List.all_eq_true.1 (careful.2 entry isEntry) invoke isSent
    rw [Bool.or_eq_true, decide_eq_true_eq, decide_eq_true_eq] at sentHere
    obtain ⟨pending, waits, -⟩ := (mem_pendingOf _ _ _).1 member
    exact ⟨sentHere.resolve_left (not_not.2 same.symm), pending, waits⟩
  · rintro ⟨sentHere, pending, waits⟩
    refine (mem_pendingOf _ _ _).2 ⟨pending, waits, ?_⟩
    obtain ⟨other, isOther, same, node⟩ := consistent.pending _ _ waits
    obtain rfl := consistent.invoke_unique isOther isSent same
    obtain ⟨-, session, isRegistered, sameConn, sessionNode⟩ := (consistent.byConn _ _).1 isNode
    obtain ⟨origin, isOrigin, originConn, originNode⟩ := consistent.sentOn other isOther
    obtain rfl := consistent.session_unique isRegistered isOrigin
      (sameConn.trans (sentHere.symm.trans originConn.symm))
    rw [← node, ← originNode, sessionNode]

theorem Consistent.unregister (consistent : Consistent world) (connId : String)
    (careful : world.careful (.unregister connId) = true) : Consistent (world.unregister connId) := by
  unfold RegistryWorld.unregister
  split
  next => exact consistent
  next nodeId found =>
    have isNode := (Option.filter_eq_some_iff.1 found).1
    have rejects : ∀ invoke ∈ world.sent,
        (invoke.requestId ∈ (world.pendingOf nodeId).map Prod.fst ↔
          invoke.connId = connId ∧ ∃ pending,
            world.pendingInvokes.get invoke.requestId = some pending) :=
      fun invoke isSent => consistent.rejects_iff isNode careful isSent
    obtain ⟨isOpen, session, isRegistered, sameConn, sessionNode⟩ := (consistent.byConn _ _).1 isNode
    rw [RegistryWorld.careful, isNode, Option.all_some, Bool.and_eq_true] at careful
    have current : ∀ other session, (world.nodesById.delete nodeId).get other = some session ↔
        world.latest other = some session ∧ session.connId ∉ connId :: world.unregistered := by
      intro other found
      rw [OrderedMap.get_delete, List.mem_cons, not_or]
      split
      next same =>
        refine ⟨fun is => (by cases is), ?_⟩
        rintro ⟨isLatest, apart, isOpen⟩
        have isLast := (consistent.current nodeId found).2 ⟨same ▸ isLatest, isOpen⟩
        rw [isLast, Option.all_some, decide_eq_true_eq] at careful
        exact absurd careful.1 apart
      next apart =>
        rw [consistent.current]
        refine ⟨fun both => ⟨both.1, fun same => apart ?_, both.2⟩,
          fun all => ⟨all.1, all.2.2⟩⟩
        obtain ⟨isFound, foundNode⟩ := latest_registered both.1
        rw [← foundNode, consistent.session_unique isFound isRegistered (same.trans sameConn.symm),
          sessionNode]
    have pending_eq : ∀ requestId, ((world.pendingOf nodeId).foldl
        (fun pending entry => pending.delete entry.1) world.pendingInvokes).get requestId =
          if requestId ∈ (world.pendingOf nodeId).map Prod.fst then none
          else world.pendingInvokes.get requestId :=
      OrderedMap.get_foldl_delete _ _
    have rejected : ∀ settlement ∈ ((world.pendingOf nodeId).map fun entry =>
        (⟨entry.1, .disconnected connId s!"node disconnected ({entry.2.command})"⟩ :
          Settlement Payload)).reverse, ∃ invoke ∈ world.sent,
            invoke.requestId = settlement.requestId ∧ invoke.connId = connId ∧
              ∃ error, settlement.outcome = .disconnected connId error := by
      intro settlement member
      obtain ⟨entry, isEntry, rfl⟩ := List.mem_map.1 (List.mem_reverse.1 member)
      obtain ⟨pending, waits, -⟩ :=
        (mem_pendingOf _ _ entry.1).1 (List.mem_map_of_mem isEntry)
      obtain ⟨invoke, isSent, same, -⟩ := consistent.pending _ _ waits
      exact ⟨invoke, isSent, same, ((rejects invoke isSent).1
        (same ▸ List.mem_map_of_mem isEntry)).1, _, rfl⟩
    have settlements_eq : ∀ requestId, (((((world.pendingOf nodeId).map fun entry =>
        (⟨entry.1, .disconnected connId s!"node disconnected ({entry.2.command})"⟩ :
          Settlement Payload)).reverse ++ world.settled).map Settlement.requestId).count requestId) =
            ((world.pendingOf nodeId).map Prod.fst).count requestId +
              world.settlements requestId := by
      intro requestId
      rw [List.map_append, List.count_append, List.map_reverse, List.count_reverse, List.map_map]
      rfl
    refine ⟨current, ?_, ?_, consistent.named, consistent.connections, consistent.requests,
      consistent.sentOn, ?_, ?_, ?_, fun other session isLatest isOpen =>
        (current other session).2 ⟨isLatest, isOpen⟩, ?_, ?_, ?_, ?_⟩
    · intro other node
      rw [OrderedMap.get_delete, List.mem_cons, not_or]
      split
      next same => exact ⟨fun is => (by cases is), fun known => absurd same known.1.1⟩
      next apart =>
        rw [consistent.byConn]
        exact and_congr_left fun _ => ⟨fun isOpen => ⟨apart, isOpen⟩, fun both => both.2⟩
    · exact List.forall_mem_cons.2 ⟨⟨session, isRegistered, sameConn⟩, consistent.closed⟩
    · intro requestId pending found
      rw [pending_eq] at found
      split at found
      · cases found
      · exact consistent.pending requestId pending found
    · intro requestId
      show requestId ∈ world.timers.filter _ ↔ (OrderedMap.get _ requestId).isSome = true
      rw [pending_eq, List.mem_filter, consistent.armed, OrderedMap.has, List.all_eq_true]
      split
      next member =>
        obtain ⟨entry, isEntry, rfl⟩ := List.mem_map.1 member
        refine ⟨fun both => absurd (both.2 entry isEntry) (by simp),
          fun is => by cases is⟩
      next absent =>
        refine and_iff_left fun entry isEntry => ?_
        rw [decide_eq_true_eq]
        rintro rfl
        exact absent (List.mem_map_of_mem isEntry)
    · intro settlement isSettled
      rcases List.mem_append.1 isSettled with new | old
      · obtain ⟨invoke, isSent, same, -⟩ := rejected settlement new
        exact ⟨invoke, isSent, same⟩
      · exact consistent.settled settlement old
    · intro settlement isSettled conn error is
      rcases List.mem_append.1 isSettled with new | old
      · obtain ⟨invoke, isSent, same, sentHere, other, outcome⟩ := rejected settlement new
        rw [is] at outcome
        injection outcome with isConn
        exact ⟨invoke, isSent, same, sentHere.trans isConn.symm⟩
      · exact consistent.dependable.rejected settlement old conn error is
    · intro invoke isSent closed
      rw [pending_eq]
      split
      · rfl
      next absent =>
        rcases List.mem_cons.1 closed with here | before
        · refine Option.eq_none_iff_forall_ne_some.2 fun pending waits => absent ?_
          exact (rejects invoke isSent).2 ⟨here, pending, waits⟩
        · exact consistent.dependable.released invoke isSent before
    · intro invoke isSent
      show (OrderedMap.get _ _).isSome = true ∧ _ ∧ List.count _ _ = 0 ∨
        OrderedMap.get _ _ = none ∧ List.count _ _ = 1
      rw [pending_eq, settlements_eq]
      split
      next member =>
        obtain ⟨-, pending, waits⟩ := (rejects invoke isSent).1 member
        refine .inr ⟨rfl, ?_⟩
        rw [consistent.unsettled isSent waits,
          List.count_eq_one_of_mem (nodup_pendingOf world nodeId) member]
      next absent =>
        rw [List.count_eq_zero.2 absent, Nat.zero_add]
        refine (consistent.dependable.once invoke isSent).imp (fun waits => ⟨waits.1, ?_, waits.2.2⟩) id
        refine List.mem_filter.2 ⟨waits.2.1, List.all_eq_true.2 fun entry isEntry => ?_⟩
        rw [decide_eq_true_eq]
        exact fun same => absent (same ▸ List.mem_map_of_mem isEntry)
    · intro settlement isSettled node result is
      rcases List.mem_append.1 isSettled with new | old
      · obtain ⟨-, -, -, -, error, outcome⟩ := rejected settlement new
        rw [is] at outcome
        cases outcome
      · exact consistent.dependable.reported settlement old node result is

theorem Consistent.step (consistent : Consistent world) {action : RegistryAction Payload}
    {next : RegistryWorld Payload} (careful : world.careful action = true)
    (taken : registryStep world action = some next) : Consistent next := by
  cases action with
  | register client remoteIp now =>
    obtain ⟨enabled, is⟩ := Option.ite_none_right_eq_some.1 taken
    obtain rfl := Option.some.inj is
    rw [Bool.and_eq_true, List.all_eq_true, decide_eq_true_eq] at enabled
    exact consistent.register client remoteIp now
      (fun session member => by simpa using enabled.1 session member) enabled.2
  | unregister connId =>
    obtain rfl := Option.some.inj taken
    exact consistent.unregister connId careful
  | invoke nodeId command requestId delivered =>
    obtain ⟨enabled, is⟩ := Option.ite_none_right_eq_some.1 taken
    obtain rfl := Option.some.inj is
    exact consistent.invoke nodeId command requestId delivered
      (fun other member => by simpa using List.all_eq_true.1 enabled other member)
  | handleInvokeResult params =>
    obtain rfl := Option.some.inj taken
    exact consistent.handleInvokeResult params
  | timeout requestId =>
    obtain ⟨armed, is⟩ := Option.ite_none_right_eq_some.1 taken
    obtain rfl := Option.some.inj is
    exact consistent.fireTimer armed

end RegistryWorld

/-! ### Runs -/

/-- In every run whose disconnects meet the condition, nodes stay reachable and invokes settle once,
as they should. -/
theorem nodes_stay_reachable {actions : List (RegistryAction Payload)}
    {world : RegistryWorld Payload}
    (run : Steps registryStep (fun world action => world.careful action = true) {} actions world) :
    Dependable world := by
  have consistent : Consistent world := run.invariant
    (fun _ _ _ consistent careful taken => consistent.step careful taken) consistent_empty
  exact consistent.dependable

def nodeHost : ClientInfo :=
  { id := "node-host", mode := "node", platform := "linux", version := "1" }

def nodeClient (connId : String) : WsClient :=
  { connId, connect := { client := nodeHost, deviceId := some "n" } }

/-- A node that connects again after its first connection is closed, and answers there. -/
def reconnect : List (RegistryAction Unit) :=
  [.register (nodeClient "a") none 0, .invoke "n" "run" "r" true,
    .handleInvokeResult { id := "r", nodeId := "n", ok := true }, .unregister "a",
    .register (nodeClient "b") none 1, .invoke "n" "run" "s" true]

theorem nodes_stay_reachable_reconnect :
    ∃ world, Steps registryStep (fun world action => world.careful action = true) {} reconnect
      world ∧ Dependable world := by
  have evaluates : (executeUnder registryStep RegistryWorld.careful {} reconnect).isSome = true := by
    decide +kernel
  obtain ⟨world, is⟩ := Option.isSome_iff_exists.1 evaluates
  exact ⟨world, steps_of_executeUnder is, nodes_stay_reachable (steps_of_executeUnder is)⟩

/-- A node that connects again before its first connection is closed. -/
def overlap : List (RegistryAction Unit) :=
  [.register (nodeClient "a") none 0, .register (nodeClient "b") none 1, .unregister "a"]

/-- Closing the old connection removes the new session. -/
theorem nodes_do_not_stay_reachable :
    ¬∀ (actions : List (RegistryAction Unit)) (world : RegistryWorld Unit),
      Steps registryStep Unguarded {} actions world → Dependable world := by
  intro claim
  have evaluates : ∃ world, execute registryStep {} overlap = some world ∧
      world.latest "n" = some (sessionOf (nodeClient "b") none 1) ∧ "b" ∉ world.unregistered ∧
        world.get "n" = none := ⟨_, rfl, by decide +kernel⟩
  obtain ⟨world, is, isLatest, isOpen, lost⟩ := evaluates
  have found := (claim overlap world (steps_of_execute is)).reachable "n" _ isLatest isOpen
  rw [lost] at found
  exact absurd found nofun

end OpenClaw.Gateway
