/-
This file says when the routes of a config are those its bindings ask for.

What the buckets, the merge and the indexes do to the bindings is a filter each, and what
an index leaves out of a tier has been found in a tier before or does not match. So a
route that is computed is the specified one, whatever the cache of bindings holds: its
keys end in an account id, which is free of tabs.

The keys of the cache of routes are not that good. No peer and a peer without an id read
the same, so do an id that is absent and one that is a dash, and the last fields of a key
can be read as others when an id holds a tab or a role a comma. Then a call is answered
with the route of another one.
-/

import OpenClaw.Routing.ResolveRoute

namespace OpenClaw.Routing

open Buckets Delimited Memo Text

/-! ### The specification -/

/-- Groups and channels are taken for each other. -/
def ChatType.Interchangeable (first second : ChatType) : Prop :=
  first = second ∨ first ≠ .direct ∧ second ≠ .direct

/-- What a binding asks for is there. -/
structure NormalizedBindingMatch.Satisfied (bindingMatch : NormalizedBindingMatch)
    (scope : BindingScope) : Prop where
  peer : match bindingMatch.peer with
    | .none => True
    | .invalid => False
    | .wildcardKind kind => ∃ peer ∈ scope.peer, kind.Interchangeable peer.kind
    | .valid kind id => ∃ peer ∈ scope.peer, kind.Interchangeable peer.kind ∧ peer.id = id
  guild : ∀ guildId ∈ bindingMatch.guildId, guildId = scope.guildId
  team : ∀ teamId ∈ bindingMatch.teamId, teamId = scope.teamId
  roles : ∀ roles ∈ bindingMatch.roles, ∃ role ∈ roles, role ∈ scope.memberRoleIds

theorem peerKindMatches_iff (bindingKind scopeKind : ChatType) :
    peerKindMatches bindingKind scopeKind = true ↔ bindingKind.Interchangeable scopeKind := by
  unfold ChatType.Interchangeable
  cases bindingKind <;> cases scopeKind <;> decide

theorem matchesBindingScope_iff (bindingMatch : NormalizedBindingMatch) (scope : BindingScope) :
    matchesBindingScope bindingMatch scope = true ↔ bindingMatch.Satisfied scope := by
  have guilds : (bindingMatch.guildId.all (· == scope.guildId)) = true ↔
      ∀ guildId ∈ bindingMatch.guildId, guildId = scope.guildId := by
    cases bindingMatch.guildId <;> simp
  have teams : (bindingMatch.teamId.all (· == scope.teamId)) = true ↔
      ∀ teamId ∈ bindingMatch.teamId, teamId = scope.teamId := by
    cases bindingMatch.teamId <;> simp
  have roles : (bindingMatch.roles.all fun roles =>
      roles.any fun role => scope.memberRoleIds.contains role) = true ↔
      ∀ roles ∈ bindingMatch.roles, ∃ role ∈ roles, role ∈ scope.memberRoleIds := by
    cases bindingMatch.roles <;> simp
  rw [matchesBindingScope, Bool.and_eq_true, Bool.and_eq_true, Bool.and_eq_true, guilds, teams,
    roles]
  refine ⟨fun all => ⟨?_, all.1.1.2, all.1.2, all.2⟩, fun satisfied =>
    ⟨⟨⟨?_, satisfied.guild⟩, satisfied.team⟩, satisfied.roles⟩⟩
  · have peer := all.1.1.1
    cases isPeer : bindingMatch.peer <;>
      simp_all [peerKindMatches_iff, Option.any_eq_true]
  · have peer := satisfied.peer
    cases isPeer : bindingMatch.peer <;>
      simp_all [peerKindMatches_iff, Option.any_eq_true]

instance (bindingMatch : NormalizedBindingMatch) (scope : BindingScope) :
    Decidable (bindingMatch.Satisfied scope) :=
  decidable_of_iff _ (matchesBindingScope_iff bindingMatch scope)

/-- A kind of binding, and the peer it is compared with. -/
structure Rank where
  matchedBy : MatchedBy
  peer : Option RoutePeer
  asks : NormalizedBindingMatch → Bool

/-- The kinds of bindings, the most particular first. -/
def RouteQuery.ranks (query : RouteQuery) : List Rank :=
  [ ⟨.peer, query.peer, fun asked => asked.peer.isValid⟩,
    ⟨.parentPeer, query.parentPeer.filter (·.id ≠ ""), fun asked => asked.peer.isValid⟩,
    ⟨.peerWildcard, query.peer, fun asked => asked.peer.isWildcard⟩,
    ⟨.guildRoles, query.peer, fun asked => asked.guildId.isSome && asked.roles.isSome⟩,
    ⟨.guild, query.peer, fun asked => asked.guildId.isSome && asked.roles.isNone⟩,
    ⟨.team, query.peer, fun asked => asked.teamId.isSome⟩,
    ⟨.account, query.peer, fun asked => asked.accountPattern ≠ "*"⟩,
    ⟨.channel, query.peer, fun asked => asked.accountPattern = "*"⟩ ]

section Specification

variable (toLowerCase : String → String) (cfg : RoutingConfig)

/-- The binding names the channel, and its account pattern matches. -/
def AgentBinding.concerns (query : RouteQuery) (binding : AgentBinding) : Bool :=
  let accountPattern := trim (binding.bindingMatch.accountId.getD "")
  binding.channel toLowerCase ≠ "" && binding.channel toLowerCase = query.channel &&
    (accountPattern = "*" || resolveAccountPatternKey toLowerCase accountPattern = query.accountId)

/-- The earliest of the bindings of a kind that are satisfied. -/
def Rank.earliest (rank : Rank) (query : RouteQuery) (bindings : List AgentBinding) :
    Option AgentBinding :=
  bindings.find? fun binding =>
    let asked := normalizeBindingMatch toLowerCase binding.bindingMatch
    rank.asks asked && decide (asked.Satisfied (query.scope rank.peer))

def specifiedRouteOf (query : RouteQuery) : ResolvedAgentRoute :=
  let bindings := (listBindings cfg).filter (AgentBinding.concerns toLowerCase query)
  routeFound toLowerCase cfg query <| query.ranks.findSome? fun rank =>
    (rank.earliest toLowerCase query bindings).map fun binding => (binding.agentId, rank.matchedBy)

/-- The route without any cache or index. -/
def specifiedRoute (input : ResolveAgentRouteInput) : ResolvedAgentRoute :=
  specifiedRouteOf toLowerCase cfg (normalizeInput toLowerCase input)

end Specification

/-! ### Buckets and merge -/

section Bindings

variable {toLowerCase : String → String} {cfg : RoutingConfig}

variable (toLowerCase) in
/-- The bindings with a channel, evaluated in source order. -/
def evaluatedFrom : Nat → List AgentBinding → List EvaluatedBinding
  | _, [] => []
  | order, binding :: rest =>
    if binding.channel toLowerCase = "" then evaluatedFrom order rest
    else ⟨binding, normalizeBindingMatch toLowerCase binding.bindingMatch, order⟩ ::
      evaluatedFrom (order + 1) rest

variable (toLowerCase) in
/-- The bindings of a config, evaluated in source order. -/
def evaluatedBindings (cfg : RoutingConfig) : List EvaluatedBinding :=
  evaluatedFrom toLowerCase 0 (listBindings cfg)

variable (toLowerCase) in
def EvaluatedBinding.isScoped (channel accountId : String) (evaluated : EvaluatedBinding) : Bool :=
  evaluated.binding.channel toLowerCase = channel &&
    (evaluated.bindingMatch.accountPattern ≠ "*" &&
      resolveAccountPatternKey toLowerCase evaluated.bindingMatch.accountPattern = accountId)

variable (toLowerCase) in
def EvaluatedBinding.isAnyAccount (channel : String) (evaluated : EvaluatedBinding) : Bool :=
  evaluated.binding.channel toLowerCase = channel && evaluated.bindingMatch.accountPattern = "*"

variable (toLowerCase) in
/-- The bindings of a channel and an account in source order. -/
def evaluatedFor (cfg : RoutingConfig) (channel accountId : String) : List EvaluatedBinding :=
  (evaluatedBindings toLowerCase cfg).filter fun evaluated =>
    evaluated.isScoped toLowerCase channel accountId || evaluated.isAnyAccount toLowerCase channel

theorem le_order {order : Nat} {bindings : List AgentBinding} {evaluated : EvaluatedBinding}
    (member : evaluated ∈ evaluatedFrom toLowerCase order bindings) : order ≤ evaluated.order := by
  induction bindings generalizing order with
  | nil => exact absurd member List.not_mem_nil
  | cons binding rest inductionHypothesis =>
    rw [evaluatedFrom] at member
    split at member
    · exact inductionHypothesis member
    · rcases List.mem_cons.1 member with rfl | later
      · exact le_rfl
      · have := inductionHypothesis later
        omega

theorem pairwise_order (order : Nat) (bindings : List AgentBinding) :
    (evaluatedFrom toLowerCase order bindings).Pairwise fun first second =>
      first.order < second.order := by
  induction bindings generalizing order with
  | nil => exact .nil
  | cons binding rest inductionHypothesis =>
    rw [evaluatedFrom]
    split
    · exact inductionHypothesis order
    · exact List.pairwise_cons.2 ⟨fun later member => le_order member, inductionHypothesis _⟩

theorem nodup_evaluatedFor (channel accountId : String) :
    (evaluatedFor toLowerCase cfg channel accountId).Nodup :=
  ((pairwise_order 0 (listBindings cfg)).filter _).imp fun before same =>
    before.ne (congrArg EvaluatedBinding.order same)

/-- An evaluated binding has the constraints of its own binding, and a channel. -/
theorem evaluated_spec {order : Nat} {bindings : List AgentBinding} {evaluated : EvaluatedBinding}
    (member : evaluated ∈ evaluatedFrom toLowerCase order bindings) :
    evaluated.bindingMatch = normalizeBindingMatch toLowerCase evaluated.binding.bindingMatch := by
  induction bindings generalizing order with
  | nil => exact absurd member List.not_mem_nil
  | cons binding rest inductionHypothesis =>
    rw [evaluatedFrom] at member
    split at member
    · exact inductionHypothesis member
    · rcases List.mem_cons.1 member with rfl | later
      · rfl
      · exact inductionHypothesis later

theorem map_binding_evaluatedFrom (order : Nat) (bindings : List AgentBinding) :
    (evaluatedFrom toLowerCase order bindings).map EvaluatedBinding.binding =
      bindings.filter fun binding => binding.channel toLowerCase ≠ "" := by
  induction bindings generalizing order with
  | nil => rfl
  | cons binding rest inductionHypothesis =>
    rw [evaluatedFrom, List.filter_cons]
    by_cases blank : binding.channel toLowerCase = ""
    · rw [if_pos blank, if_neg (by simp [blank]), inductionHypothesis]
    · rw [if_neg blank, if_pos (by simp [blank]), List.map_cons, inductionHypothesis]

theorem bucket_add (buckets : EvaluatedBindingsByChannel) (evaluated : EvaluatedBinding)
    (accountId : String) :
    bucket (buckets.add toLowerCase evaluated).byAccount accountId =
      bucket buckets.byAccount accountId ++
        if evaluated.bindingMatch.accountPattern ≠ "*" && resolveAccountPatternKey toLowerCase
            evaluated.bindingMatch.accountPattern = accountId then [evaluated] else [] := by
  rw [EvaluatedBindingsByChannel.add]
  split
  next any => simp [any]
  next one =>
    dsimp only
    rw [bucket_push]
    simp [one, eq_comm]

theorem byAnyAccount_add (buckets : EvaluatedBindingsByChannel) (evaluated : EvaluatedBinding) :
    (buckets.add toLowerCase evaluated).byAnyAccount = buckets.byAnyAccount ++
      if evaluated.bindingMatch.accountPattern = "*" then [evaluated] else [] := by
  rw [EvaluatedBindingsByChannel.add]
  split
  · rfl
  · exact (List.append_nil _).symm

/-- The loop over the bindings puts each into its bucket, in source order. -/
theorem foldl_addBinding (bindings : List AgentBinding)
    (built : OrderedMap String EvaluatedBindingsByChannel × Nat) (channel accountId : String) :
    let before := (built.1.get channel).getD ⟨∅, []⟩
    let after := ((bindings.foldl (addBinding toLowerCase) built).1.get channel).getD ⟨∅, []⟩
    bucket after.byAccount accountId = bucket before.byAccount accountId ++
        (evaluatedFrom toLowerCase built.2 bindings).filter
          (EvaluatedBinding.isScoped toLowerCase channel accountId) ∧
      after.byAnyAccount = before.byAnyAccount ++
        (evaluatedFrom toLowerCase built.2 bindings).filter
          (EvaluatedBinding.isAnyAccount toLowerCase channel) := by
  induction bindings generalizing built with
  | nil => exact ⟨(List.append_nil _).symm, (List.append_nil _).symm⟩
  | cons binding rest inductionHypothesis =>
    obtain ⟨byChannel, order⟩ := built
    obtain ⟨ofAccount, ofAny⟩ := inductionHypothesis (addBinding toLowerCase (byChannel, order) binding)
    dsimp only at ofAccount ofAny ⊢
    rw [List.foldl_cons, ofAccount, ofAny]
    by_cases blank : binding.channel toLowerCase = ""
    · have stays : addBinding toLowerCase (byChannel, order) binding = (byChannel, order) := by
        rw [addBinding]
        exact if_pos blank
      rw [stays, evaluatedFrom, if_pos blank]
      exact ⟨rfl, rfl⟩
    · have added : addBinding toLowerCase (byChannel, order) binding =
          (byChannel.set (binding.channel toLowerCase)
            (((byChannel.get (binding.channel toLowerCase)).getD ⟨∅, []⟩).add toLowerCase
              ⟨binding, normalizeBindingMatch toLowerCase binding.bindingMatch, order⟩),
            order + 1) := by
        rw [addBinding]
        exact if_neg blank
      rw [added, evaluatedFrom, if_neg blank, List.filter_cons, List.filter_cons,
        OrderedMap.get_set]
      by_cases same : channel = binding.channel toLowerCase
      · rw [if_pos same, Option.getD_some, bucket_add, byAnyAccount_add, ← same]
        unfold EvaluatedBinding.isScoped EvaluatedBinding.isAnyAccount
        simp only [← same, decide_true, Bool.true_and, List.append_assoc]
        refine ⟨?_, ?_⟩
        · split <;> rfl
        · by_cases any : (normalizeBindingMatch toLowerCase binding.bindingMatch).accountPattern = "*" <;>
            simp [any]
      · rw [if_neg same]
        unfold EvaluatedBinding.isScoped EvaluatedBinding.isAnyAccount
        rw [if_neg (by simp [Ne.symm same]), if_neg (by simp [Ne.symm same])]
        exact ⟨rfl, rfl⟩

theorem mergeEvaluatedBindingsInSourceOrder_eq (accountScoped anyAccount : List EvaluatedBinding) :
    mergeEvaluatedBindingsInSourceOrder accountScoped anyAccount =
      accountScoped.merge anyAccount fun accountBinding anyBinding =>
        decide (accountBinding.order ≤ anyBinding.order) := by
  rw [mergeEvaluatedBindingsInSourceOrder]
  split
  next none => rw [List.isEmpty_iff.1 none, List.nil_merge]
  next =>
    split
    next none => rw [List.isEmpty_iff.1 none, List.merge_right]
    next => rfl

/-- For a channel and an account the buckets hold the bindings that name the channel and match the
account, and merging keeps their order. -/
theorem bindingsOf_eq (channel accountId : String) :
    bindingsOf (buildEvaluatedBindingsByChannel toLowerCase cfg) channel accountId =
      evaluatedFor toLowerCase cfg channel accountId := by
  obtain ⟨ofAccount, ofAny⟩ : _ ∧ _ :=
    foldl_addBinding (listBindings cfg) (∅, 0) channel accountId
  rw [bindingsOf, buildEvaluatedBindingsByChannel, mergeEvaluatedBindingsInSourceOrder_eq]
  dsimp only at ofAccount ofAny ⊢
  rw [ofAccount, ofAny]
  refine merge_filter ((pairwise_order 0 (listBindings cfg)).imp ?_) ?_
  · intro first second before
    exact ⟨decide_eq_true before.le, decide_eq_false (by omega)⟩
  · intro evaluated _ isScoped
    unfold EvaluatedBinding.isScoped at isScoped
    rw [Bool.and_eq_true, Bool.and_eq_true, decide_eq_true_eq] at isScoped
    unfold EvaluatedBinding.isAnyAccount
    rw [decide_eq_false (of_decide_eq_true isScoped.2.1), Bool.and_false]

/-! ### The index -/

/-- What a binding that is indexed under a key gains there. -/
theorem bucket_pushToIndexMap (map : OrderedMap String (List EvaluatedBinding))
    (key : Option String) (evaluated : EvaluatedBinding) {other : String} (filled : other ≠ "") :
    bucket (pushToIndexMap map key evaluated) other =
      bucket map other ++ if key = some other then [evaluated] else [] := by
  rw [pushToIndexMap]
  cases isKey : nonEmpty key with
  | none =>
    rw [if_neg, List.append_nil]
    rintro rfl
    rw [nonEmpty, Option.filter_some_pos (by simpa using filled)] at isKey
    exact Option.some_ne_none _ isKey
  | some present =>
    obtain ⟨rfl, -⟩ := (nonEmpty_eq_some_iff _ _).1 isKey
    rw [bucket_push]
    exact congrArg (bucket map other ++ ·) (if_congr (by rw [Option.some_inj, eq_comm]) rfl rfl)

/-- The binding is looked up under the key of a peer. -/
def NormalizedBindingMatch.isUnderPeer (key : String) (asked : NormalizedBindingMatch) : Bool :=
  match asked.peer with
  | .valid kind id => key ∈ peerLookupKeys kind id
  | _ => false

/-- The peer does not decide where the binding is looked up. -/
def NormalizedBindingMatch.isUnpeered (asked : NormalizedBindingMatch) : Bool :=
  !asked.peer.isValid && !asked.peer.isWildcard

/-- An index after some bindings have been added to it. -/
structure Extended (added : List EvaluatedBinding) (before after : EvaluatedBindingsIndex) :
    Prop where
  byPeer : ∀ key ≠ "", bucket after.byPeer key = bucket before.byPeer key ++
    added.filter fun evaluated => evaluated.bindingMatch.isUnderPeer key
  byPeerWildcard : after.byPeerWildcard = before.byPeerWildcard ++
    added.filter fun evaluated => evaluated.bindingMatch.peer.isWildcard
  byGuildWithRoles : ∀ guildId ≠ "",
    bucket after.byGuildWithRoles guildId = bucket before.byGuildWithRoles guildId ++
      added.filter fun evaluated => evaluated.bindingMatch.isUnpeered &&
        evaluated.bindingMatch.roles.isSome && evaluated.bindingMatch.guildId = some guildId
  byGuild : ∀ guildId ≠ "", bucket after.byGuild guildId = bucket before.byGuild guildId ++
    added.filter fun evaluated => evaluated.bindingMatch.isUnpeered &&
      evaluated.bindingMatch.roles.isNone && evaluated.bindingMatch.guildId = some guildId
  byTeam : ∀ teamId ≠ "", bucket after.byTeam teamId = bucket before.byTeam teamId ++
    added.filter fun evaluated => evaluated.bindingMatch.isUnpeered &&
      evaluated.bindingMatch.guildId.isNone && evaluated.bindingMatch.teamId = some teamId
  byAccount : after.byAccount = before.byAccount ++
    added.filter fun evaluated => evaluated.bindingMatch.isUnpeered &&
      evaluated.bindingMatch.guildId.isNone && evaluated.bindingMatch.teamId.isNone &&
        evaluated.bindingMatch.accountPattern ≠ "*"
  byChannel : after.byChannel = before.byChannel ++
    added.filter fun evaluated => evaluated.bindingMatch.isUnpeered &&
      evaluated.bindingMatch.guildId.isNone && evaluated.bindingMatch.teamId.isNone &&
        evaluated.bindingMatch.accountPattern = "*"

theorem peerLookupKeys_eq (kind : ChatType) (id : String) : ∃ kinds : List ChatType,
    kinds.Nodup ∧ (∀ other, other ∈ kinds ↔ kind.Interchangeable other) ∧
      peerLookupKeys kind id = kinds.map fun kind => kind.name ++ ":" ++ id := by
  unfold ChatType.Interchangeable
  cases kind with
  | direct => exact ⟨[.direct], by decide, fun other => by cases other <;> decide, rfl⟩
  | group => exact ⟨[.group, .channel], by decide, fun other => by cases other <;> decide, rfl⟩
  | channel => exact ⟨[.channel, .group], by decide, fun other => by cases other <;> decide, rfl⟩

theorem peerKey_inj {kind other : ChatType} {id otherId : String} :
    kind.name ++ ":" ++ id = other.name ++ ":" ++ otherId ↔ kind = other ∧ id = otherId := by
  have colon : (":" : String).toList = [':'] := rfl
  have free : ∀ kind : ChatType, ':' ∉ kind.name.toList := by
    intro kind
    cases kind <;> decide
  rw [← String.toList_inj, String.toList_append, String.toList_append, String.toList_append,
    String.toList_append, colon, List.append_assoc, List.append_assoc, List.singleton_append,
    List.singleton_append, append_separator_inj (free kind) (free other), String.toList_inj,
    String.toList_inj]
  refine and_congr_left fun _ => ⟨fun same => ?_, congrArg ChatType.name⟩
  cases kind <;> cases other <;> first | rfl | exact absurd same (by decide)

/-- The keys under which a binding is pushed, and those under which a peer is looked up. -/
theorem mem_peerLookupKeys {kind other : ChatType} {id otherId : String} :
    other.name ++ ":" ++ otherId ∈ peerLookupKeys kind id ↔
      kind.Interchangeable other ∧ otherId = id := by
  obtain ⟨kinds, -, isKind, keys⟩ := peerLookupKeys_eq kind id
  rw [keys, List.mem_map]
  constructor
  · rintro ⟨present, member, same⟩
    obtain ⟨rfl, rfl⟩ := peerKey_inj.1 same
    exact ⟨(isKind _).1 member, rfl⟩
  · rintro ⟨interchangeable, rfl⟩
    exact ⟨other, (isKind other).2 interchangeable, rfl⟩

theorem nodup_peerLookupKeys (kind : ChatType) (id : String) : (peerLookupKeys kind id).Nodup := by
  obtain ⟨kinds, nodup, -, keys⟩ := peerLookupKeys_eq kind id
  rw [keys]
  exact nodup.map fun first second same => (peerKey_inj.1 same).1

theorem bucket_foldl_pushToIndexMap (map : OrderedMap String (List EvaluatedBinding))
    (kind : ChatType) (id : String) (evaluated : EvaluatedBinding) (key : String) :
    bucket ((peerLookupKeys kind id).foldl
        (fun byPeer key => pushToIndexMap byPeer (some key) evaluated) map) key =
      bucket map key ++ if key ∈ peerLookupKeys kind id then [evaluated] else [] := by
  rw [← bucket_foldl_push map (nodup_peerLookupKeys kind id) evaluated key]
  refine congrArg (bucket · key) (List.foldl_ext _ _ _ fun byPeer key member => ?_)
  have filled : key ≠ "" := by
    rintro rfl
    obtain ⟨kinds, -, -, keys⟩ := peerLookupKeys_eq kind id
    rw [keys, List.mem_map] at member
    obtain ⟨kind, -, same⟩ := member
    have lengths := congrArg String.length same
    rw [String.length_append, String.length_append] at lengths
    exact absurd lengths (by simp)
  rw [pushToIndexMap, (nonEmpty_eq_some_iff _ _).2 ⟨rfl, filled⟩]

variable {asked : NormalizedBindingMatch}

theorem NormalizedBindingMatch.isUnpeered_iff :
    asked.isUnpeered = true ↔ asked.peer = .none ∨ asked.peer = .invalid := by
  rw [isUnpeered]
  cases asked.peer <;>
    simp [NormalizedPeerConstraint.isValid, NormalizedPeerConstraint.isWildcard]

/-- A binding is looked up by the most particular thing it asks for. -/
theorem extended_indexBinding (index : EvaluatedBindingsIndex) (evaluated : EvaluatedBinding) :
    Extended [evaluated] index (indexBinding index evaluated) := by
  unfold indexBinding
  split
  next kind id isPeer =>
    have peered : evaluated.bindingMatch.isUnpeered = false := by
      simp [List.filter_cons, NormalizedBindingMatch.isUnpeered, isPeer, NormalizedPeerConstraint.isValid]
    refine ⟨fun key _ => ?_, ?_, ?_, ?_, ?_, ?_, ?_⟩
    · simp [List.filter_cons, bucket_foldl_pushToIndexMap, NormalizedBindingMatch.isUnderPeer, isPeer]
    all_goals simp [List.filter_cons, peered, isPeer, NormalizedPeerConstraint.isWildcard]
  next kind isPeer =>
    refine ⟨?_, ?_, ?_, ?_, ?_, ?_, ?_⟩ <;>
      simp [List.filter_cons, NormalizedBindingMatch.isUnderPeer, NormalizedBindingMatch.isUnpeered, isPeer,
        NormalizedPeerConstraint.isWildcard]
  next notValid notWildcard =>
    have unpeered : evaluated.bindingMatch.peer = .none ∨ evaluated.bindingMatch.peer = .invalid := by
      cases isPeer : evaluated.bindingMatch.peer with
      | none => exact .inl rfl
      | invalid => exact .inr rfl
      | wildcardKind kind => exact absurd isPeer (notWildcard kind)
      | valid kind id => exact absurd isPeer (notValid kind id)
    have notUnder : ∀ key, evaluated.bindingMatch.isUnderPeer key = false := by
      intro key
      rcases unpeered with isPeer | isPeer <;>
        rw [NormalizedBindingMatch.isUnderPeer, isPeer]
    have notWild : evaluated.bindingMatch.peer.isWildcard = false := by
      rcases unpeered with isPeer | isPeer <;> rw [isPeer] <;> rfl
    rw [← NormalizedBindingMatch.isUnpeered_iff] at unpeered
    -- Whatever is left is decided by the guild, the roles, the team and the account in turn.
    cases isGuild : evaluated.bindingMatch.guildId with
    | some guildId =>
      cases isRoles : evaluated.bindingMatch.roles <;>
        refine ⟨?_, ?_, fun key filled => ?_, fun key filled => ?_, ?_, ?_, ?_⟩ <;>
          simp [List.filter_cons, notUnder, notWild, unpeered, isGuild, isRoles, bucket_pushToIndexMap, *]
    | none =>
      cases isTeam : evaluated.bindingMatch.teamId with
      | some teamId =>
        refine ⟨?_, ?_, ?_, ?_, fun key filled => ?_, ?_, ?_⟩ <;>
          simp [List.filter_cons, notUnder, notWild, unpeered, isGuild, isTeam, bucket_pushToIndexMap, *]
      | none =>
        by_cases any : evaluated.bindingMatch.accountPattern = "*" <;>
          refine ⟨?_, ?_, ?_, ?_, ?_, ?_, ?_⟩ <;>
            simp [List.filter_cons, notUnder, notWild, unpeered, isGuild, isTeam, any]

theorem Extended.trans {first second : List EvaluatedBinding}
    {before middle after : EvaluatedBindingsIndex} (left : Extended first before middle)
    (right : Extended second middle after) : Extended (first ++ second) before after where
  byPeer key filled := by
    rw [right.byPeer key filled, left.byPeer key filled, List.filter_append, List.append_assoc]
  byPeerWildcard := by
    rw [right.byPeerWildcard, left.byPeerWildcard, List.filter_append, List.append_assoc]
  byGuildWithRoles guildId filled := by
    rw [right.byGuildWithRoles guildId filled, left.byGuildWithRoles guildId filled,
      List.filter_append, List.append_assoc]
  byGuild guildId filled := by
    rw [right.byGuild guildId filled, left.byGuild guildId filled, List.filter_append,
      List.append_assoc]
  byTeam teamId filled := by
    rw [right.byTeam teamId filled, left.byTeam teamId filled, List.filter_append,
      List.append_assoc]
  byAccount := by rw [right.byAccount, left.byAccount, List.filter_append, List.append_assoc]
  byChannel := by rw [right.byChannel, left.byChannel, List.filter_append, List.append_assoc]

theorem extended_foldl (bindings : List EvaluatedBinding) (index : EvaluatedBindingsIndex) :
    Extended bindings index (bindings.foldl indexBinding index) := by
  induction bindings generalizing index with
  | nil =>
    refine ⟨?_, ?_, ?_, ?_, ?_, ?_, ?_⟩ <;> simp
  | cons evaluated rest inductionHypothesis =>
    exact (extended_indexBinding index evaluated).trans (inductionHypothesis _)

theorem extended_build (bindings : List EvaluatedBinding) :
    Extended bindings ⟨∅, [], ∅, ∅, ∅, [], []⟩ (buildEvaluatedBindingsIndex bindings) :=
  extended_foldl bindings _

theorem ChatType.Interchangeable.trans {first second third : ChatType}
    (left : first.Interchangeable second) (right : second.Interchangeable third) :
    first.Interchangeable third := by
  rcases left with rfl | ⟨notDirect, otherNot⟩
  · exact right
  · rcases right with rfl | ⟨-, thirdNot⟩
    · exact .inr ⟨notDirect, otherNot⟩
    · exact .inr ⟨notDirect, thirdNot⟩

theorem ChatType.Interchangeable.symm {first second : ChatType}
    (interchangeable : first.Interchangeable second) : second.Interchangeable first :=
  interchangeable.imp Eq.symm And.symm

theorem NormalizedBindingMatch.isUnderPeer_iff {kind : ChatType}
    {id : String} : asked.isUnderPeer (kind.name ++ ":" ++ id) = true ↔
      ∃ askedKind, asked.peer = .valid askedKind id ∧ askedKind.Interchangeable kind := by
  rw [isUnderPeer]
  cases asked.peer with
  | valid askedKind askedId =>
    rw [decide_eq_true_eq, mem_peerLookupKeys]
    constructor
    · rintro ⟨interchangeable, rfl⟩
      exact ⟨askedKind, rfl, interchangeable⟩
    · rintro ⟨_, same, interchangeable⟩
      obtain ⟨rfl, rfl⟩ := NormalizedPeerConstraint.valid.inj same
      exact ⟨interchangeable, rfl⟩
  | none => simp
  | invalid => simp
  | wildcardKind kind => simp

variable {bindings : List EvaluatedBinding}

/-- The bindings that are looked up for a peer, in source order and each once. -/
theorem collectPeerIndexedBindings_build (nodup : bindings.Nodup) (peer : RoutePeer) :
    collectPeerIndexedBindings (buildEvaluatedBindingsIndex bindings) (some peer) =
      bindings.filter fun evaluated =>
        evaluated.bindingMatch.isUnderPeer (peer.kind.name ++ ":" ++ peer.id) := by
  set asked := bindings.filter fun evaluated =>
    evaluated.bindingMatch.isUnderPeer (peer.kind.name ++ ":" ++ peer.id) with isAsked
  have askedNodup : asked.Nodup := nodup.filter _
  have buckets : ∀ kind : ChatType, peer.kind.Interchangeable kind →
      bucket (buildEvaluatedBindingsIndex bindings).byPeer (kind.name ++ ":" ++ peer.id) = asked := by
    intro kind interchangeable
    have filled : kind.name ++ ":" ++ peer.id ≠ "" := by
      intro empty
      have lengths := congrArg String.length empty
      rw [String.length_append, String.length_append] at lengths
      exact absurd lengths (by simp)
    rw [(extended_build bindings).byPeer _ filled]
    refine (List.nil_append _).trans (List.filter_congr fun evaluated _ => ?_)
    rw [Bool.eq_iff_iff, NormalizedBindingMatch.isUnderPeer_iff,
      NormalizedBindingMatch.isUnderPeer_iff]
    refine exists_congr fun askedKind => and_congr_right fun _ => ⟨fun both => ?_, fun both => ?_⟩
    · exact both.trans interchangeable.symm
    · exact both.trans interchangeable
  -- One bucket is taken whole, and another one has nothing new.
  have once : appendNew [] asked = asked := by
    rw [appendNew_of_nodup (by simpa using askedNodup), List.nil_append]
  have again : appendNew asked asked = asked := appendNew_of_subset fun _ member => member
  obtain ⟨kinds, -, isKind, keys⟩ := peerLookupKeys_eq peer.kind peer.id
  have nonempty : kinds ≠ [] := List.ne_nil_of_mem ((isKind peer.kind).2 (.inl rfl))
  have rest : ∀ kinds : List ChatType, (∀ kind ∈ kinds, peer.kind.Interchangeable kind) →
      (kinds.map fun kind => kind.name ++ ":" ++ peer.id).foldl (fun out key =>
        appendNew out (bucket (buildEvaluatedBindingsIndex bindings).byPeer key)) asked = asked := by
    intro kinds interchangeable
    induction kinds with
    | nil => rfl
    | cons kind kinds inductionHypothesis =>
      rw [List.map_cons, List.foldl_cons, buckets kind (interchangeable kind List.mem_cons_self),
        again]
      exact inductionHypothesis fun other member =>
        interchangeable other (List.mem_cons_of_mem _ member)
  obtain ⟨kind, others, rfl⟩ := List.exists_cons_of_ne_nil nonempty
  have collected : collectPeerIndexedBindings (buildEvaluatedBindingsIndex bindings) (some peer) =
      (peerLookupKeys peer.kind peer.id).foldl (fun out key =>
        appendNew out (bucket (buildEvaluatedBindingsIndex bindings).byPeer key)) [] := rfl
  rw [collected, keys, List.map_cons, List.foldl_cons,
    buckets kind ((isKind kind).1 List.mem_cons_self), once]
  exact rest others fun other member => (isKind other).1 (List.mem_cons_of_mem _ member)

/-! ### Tiers -/

/-- The binding is one of the rank, and what it asks for is there. -/
def Rank.isHit (rank : Rank) (query : RouteQuery) (asked : NormalizedBindingMatch) : Bool :=
  rank.asks asked && decide (asked.Satisfied (query.scope rank.peer))

theorem Rank.isHit_iff {rank : Rank} {query : RouteQuery} :
    rank.isHit query asked = true ↔
      rank.asks asked = true ∧ asked.Satisfied (query.scope rank.peer) := by
  rw [isHit, Bool.and_eq_true, decide_eq_true_eq]

/-- A tier finds the earliest binding of its rank if its candidates are those of the bindings that
can be one. -/
theorem Tier.matched_eq {tier : Tier} {rank : Rank} {query : RouteQuery}
    {kept : EvaluatedBinding → Bool} (samePeer : tier.scopePeer = rank.peer)
    (samePredicate : ∀ evaluated, tier.predicate evaluated = rank.asks evaluated.bindingMatch)
    (candidates : tier.enabled = true → tier.candidates = bindings.filter kept)
    (covers : ∀ evaluated ∈ bindings, rank.isHit query evaluated.bindingMatch = true →
      tier.enabled = true ∧ kept evaluated = true) :
    tier.matched query = bindings.find? fun evaluated => rank.isHit query evaluated.bindingMatch := by
  have predicates : (fun candidate => tier.predicate candidate &&
      matchesBindingScope candidate.bindingMatch (query.scope tier.scopePeer)) =
      fun evaluated => rank.isHit query evaluated.bindingMatch := by
    funext evaluated
    rw [samePredicate, samePeer, Bool.eq_iff_iff, Bool.and_eq_true, matchesBindingScope_iff,
      Rank.isHit_iff]
  rw [Tier.matched, predicates]
  split
  next enabled =>
    rw [candidates enabled]
    exact find?_filter_eq fun evaluated member isHit => (covers evaluated member isHit).2
  next disabled =>
    exact (List.find?_eq_none.2 fun evaluated member isHit =>
      disabled (covers evaluated member isHit).1).symm

theorem collectPeerIndexedBindings_eq (nodup : bindings.Nodup) (peer : Option RoutePeer) :
    collectPeerIndexedBindings (buildEvaluatedBindingsIndex bindings) peer =
      bindings.filter fun evaluated => peer.any fun peer =>
        evaluated.bindingMatch.isUnderPeer (peer.kind.name ++ ":" ++ peer.id) := by
  cases peer with
  | none => exact (List.filter_eq_nil_iff.2 fun _ _ => Bool.false_ne_true).symm
  | some peer => exact collectPeerIndexedBindings_build nodup peer

/-- A binding that asks for a peer, and finds it, is looked up for it. -/
theorem NormalizedBindingMatch.Satisfied.isUnderPeer
    {scope : BindingScope} (satisfied : asked.Satisfied scope) (isValid : asked.peer.isValid = true) :
    ∃ peer, scope.peer = some peer ∧
      asked.isUnderPeer (peer.kind.name ++ ":" ++ peer.id) = true := by
  have found := satisfied.peer
  cases isPeer : asked.peer with
  | valid kind id =>
    rw [isPeer] at found
    obtain ⟨peer, isScope, interchangeable, rfl⟩ := found
    exact ⟨peer, isScope, isUnderPeer_iff.2 ⟨kind, isPeer, interchangeable⟩⟩
  | none => simp [isPeer, NormalizedPeerConstraint.isValid] at isValid
  | invalid => simp [isPeer, NormalizedPeerConstraint.isValid] at isValid
  | wildcardKind kind => simp [isPeer, NormalizedPeerConstraint.isValid] at isValid

theorem NormalizedBindingMatch.Satisfied.isSome_peer
    {scope : BindingScope} (satisfied : asked.Satisfied scope)
    (isWildcard : asked.peer.isWildcard = true) : scope.peer.isSome = true := by
  have found := satisfied.peer
  cases isPeer : asked.peer with
  | wildcardKind kind =>
    rw [isPeer] at found
    obtain ⟨peer, isScope, -⟩ := found
    rw [isScope, Option.isSome_some]
  | none => simp [isPeer, NormalizedPeerConstraint.isWildcard] at isWildcard
  | invalid => simp [isPeer, NormalizedPeerConstraint.isWildcard] at isWildcard
  | valid kind id => simp [isPeer, NormalizedPeerConstraint.isWildcard] at isWildcard

/-- The guild and the team a binding asks for are not empty. -/
def NormalizedBindingMatch.Named (asked : NormalizedBindingMatch) : Prop :=
  asked.guildId ≠ some "" ∧ asked.teamId ≠ some ""

theorem nonEmpty_ne_empty (text : Option String) : nonEmpty text ≠ some "" :=
  fun is => ((nonEmpty_eq_some_iff text "").1 is).2 rfl

theorem named_normalizeBindingMatch (bindingMatch : AgentBindingMatch) :
    (normalizeBindingMatch toLowerCase bindingMatch).Named :=
  ⟨nonEmpty_ne_empty (some (normalizeId bindingMatch.guildId)),
    nonEmpty_ne_empty (some (normalizeId bindingMatch.teamId))⟩

/-- Tier by tier, the indexes find what a search through all the bindings finds. -/
theorem tiers_agree (query : RouteQuery) (nodup : bindings.Nodup)
    (named : ∀ evaluated ∈ bindings, evaluated.bindingMatch.Named) :
    AgreeInTurn (fun tier : Tier => (tier.matched query).map fun matched =>
        (matched.binding.agentId, tier.matchedBy))
      (fun rank : Rank => (bindings.find? fun evaluated =>
          rank.isHit query evaluated.bindingMatch).map fun matched =>
        (matched.binding.agentId, rank.matchedBy))
      (routeTiers query (buildEvaluatedBindingsIndex bindings)) query.ranks := by
  have built := extended_build bindings
  have none_of : ∀ {rank : Rank}, ((bindings.find? fun evaluated =>
      rank.isHit query evaluated.bindingMatch).map fun matched =>
        (matched.binding.agentId, rank.matchedBy)) = none →
      ∀ evaluated ∈ bindings, ¬rank.isHit query evaluated.bindingMatch = true :=
    fun none => List.find?_eq_none.1 (Option.map_eq_none_iff.1 none)
  unfold routeTiers RouteQuery.ranks
  refine .cons ?_ fun nonePeer => .cons ?_ fun noneParent => .cons ?_ fun noneWildcard => ?_
  · refine congrArg (Option.map _) (Tier.matched_eq rfl (fun _ => rfl)
      (fun _ => collectPeerIndexedBindings_eq nodup _) fun evaluated _ isHit => ?_)
    obtain ⟨isValid, satisfied⟩ := Rank.isHit_iff.1 isHit
    obtain ⟨peer, isPeer, isUnder⟩ := satisfied.isUnderPeer isValid
    have isPeer : query.peer = some peer := isPeer
    simp [isPeer, isUnder]
  · refine congrArg (Option.map _) (Tier.matched_eq rfl (fun _ => rfl)
      (fun _ => collectPeerIndexedBindings_eq nodup _) fun evaluated _ isHit => ?_)
    obtain ⟨isValid, satisfied⟩ := Rank.isHit_iff.1 isHit
    obtain ⟨parent, isParent, isUnder⟩ := satisfied.isUnderPeer isValid
    obtain ⟨isParent, filled⟩ := Option.filter_eq_some_iff.1
      (show query.parentPeer.filter (·.id ≠ "") = some parent from isParent)
    simpa [isParent, isUnder] using filled
  · refine congrArg (Option.map _) (Tier.matched_eq rfl (fun _ => rfl)
      (fun _ => built.byPeerWildcard) fun evaluated _ isHit => ?_)
    obtain ⟨isWildcard, satisfied⟩ := Rank.isHit_iff.1 isHit
    exact ⟨satisfied.isSome_peer isWildcard, isWildcard⟩
  -- From here on the peer does not matter any more: a binding that asks for one has been tried.
  have unpeered : ∀ evaluated ∈ bindings,
      evaluated.bindingMatch.Satisfied (query.scope query.peer) →
        evaluated.bindingMatch.isUnpeered = true := by
    intro evaluated member satisfied
    have notValid := fun isValid => none_of nonePeer evaluated member
      (Rank.isHit_iff.2 ⟨isValid, satisfied⟩)
    have notWildcard := fun isWildcard => none_of noneWildcard evaluated member
      (Rank.isHit_iff.2 ⟨isWildcard, satisfied⟩)
    rw [NormalizedBindingMatch.isUnpeered, Bool.and_eq_true, Bool.not_eq_true', Bool.not_eq_true']
    exact ⟨Bool.eq_false_iff.2 notValid, Bool.eq_false_iff.2 notWildcard⟩
  have guilded : ∀ evaluated ∈ bindings,
      evaluated.bindingMatch.Satisfied (query.scope query.peer) →
        evaluated.bindingMatch.guildId.isSome = true →
          evaluated.bindingMatch.guildId = some query.guildId ∧ query.guildId ≠ "" := by
    intro evaluated member satisfied asks
    obtain ⟨guildId, isGuild⟩ := Option.isSome_iff_exists.1 asks
    have same : guildId = query.guildId := satisfied.guild guildId isGuild
    rw [← same]
    exact ⟨isGuild, fun empty => (named evaluated member).1 (empty ▸ isGuild)⟩
  refine .cons ?_ fun noneRoles => .cons ?_ fun noneGuild => ?_
  · refine congrArg (Option.map _) (Tier.matched_eq rfl (fun _ => rfl)
      (fun enabled => have filled := of_decide_eq_true ((Bool.and_eq_true _ _).mp enabled).1
        (if_pos filled).trans (built.byGuildWithRoles _ filled)) fun evaluated member isHit => ?_)
    obtain ⟨asks, satisfied⟩ := Rank.isHit_iff.1 isHit
    obtain ⟨asksGuild, asksRoles⟩ := (Bool.and_eq_true _ _).mp asks
    obtain ⟨isGuild, filled⟩ := guilded evaluated member satisfied asksGuild
    obtain ⟨roles, isRoles⟩ := Option.isSome_iff_exists.1 asksRoles
    obtain ⟨role, -, member⟩ := satisfied.roles roles isRoles
    have some : 0 < query.memberRoleIds.length := List.length_pos_of_mem member
    simp [filled, some, isGuild, asksRoles, unpeered evaluated ‹_› satisfied]
  · refine congrArg (Option.map _) (Tier.matched_eq rfl (fun _ => by simp [hasGuildConstraint, hasRolesConstraint])
      (fun enabled => have filled := of_decide_eq_true enabled
        (if_pos filled).trans (built.byGuild _ filled)) fun evaluated member isHit => ?_)
    obtain ⟨asks, satisfied⟩ := Rank.isHit_iff.1 isHit
    obtain ⟨asksGuild, asksNoRoles⟩ := (Bool.and_eq_true _ _).mp asks
    obtain ⟨isGuild, filled⟩ := guilded evaluated member satisfied asksGuild
    simp [filled, isGuild, asksNoRoles, unpeered evaluated member satisfied]
  have unguilded : ∀ evaluated ∈ bindings,
      evaluated.bindingMatch.Satisfied (query.scope query.peer) →
        evaluated.bindingMatch.guildId.isNone = true := by
    intro evaluated member satisfied
    cases isGuild : evaluated.bindingMatch.guildId with
    | none => rfl
    | some guildId =>
      cases isRoles : evaluated.bindingMatch.roles with
      | none =>
        exact absurd (Rank.isHit_iff.2 ⟨by simp [isGuild, isRoles], satisfied⟩)
          (none_of noneGuild evaluated member)
      | some roles =>
        exact absurd (Rank.isHit_iff.2 ⟨by simp [isGuild, isRoles], satisfied⟩)
          (none_of noneRoles evaluated member)
  refine .cons ?_ fun noneTeam => ?_
  · refine congrArg (Option.map _) (Tier.matched_eq rfl (fun _ => rfl)
      (fun enabled => have filled := of_decide_eq_true enabled
        (if_pos filled).trans (built.byTeam _ filled)) fun evaluated member isHit => ?_)
    obtain ⟨asks, satisfied⟩ := Rank.isHit_iff.1 isHit
    obtain ⟨teamId, isTeam⟩ := Option.isSome_iff_exists.1 asks
    have same : teamId = query.teamId := satisfied.team teamId isTeam
    have filled : query.teamId ≠ "" := fun empty =>
      (named evaluated member).2 (empty ▸ same ▸ isTeam)
    simp [filled, isTeam, same, unpeered evaluated member satisfied,
      Option.isNone_iff_eq_none.1 (unguilded evaluated member satisfied)]
  have unteamed : ∀ evaluated ∈ bindings,
      evaluated.bindingMatch.Satisfied (query.scope query.peer) →
        evaluated.bindingMatch.teamId.isNone = true := by
    intro evaluated member satisfied
    refine Option.isNone_iff_eq_none.2 (Option.eq_none_iff_forall_ne_some.2 fun teamId isTeam => ?_)
    exact none_of noneTeam evaluated member
      (Rank.isHit_iff.2 ⟨Option.isSome_iff_exists.2 ⟨teamId, isTeam⟩, satisfied⟩)
  refine .cons ?_ fun _ => .cons ?_ fun _ => .nil
  · refine congrArg (Option.map _) (Tier.matched_eq rfl (fun _ => rfl) (fun _ => built.byAccount)
      fun evaluated member isHit => ?_)
    obtain ⟨asks, satisfied⟩ := Rank.isHit_iff.1 isHit
    have asks : evaluated.bindingMatch.accountPattern ≠ "*" := of_decide_eq_true asks
    simp [asks, unpeered evaluated member satisfied,
      Option.isNone_iff_eq_none.1 (unguilded evaluated member satisfied),
      Option.isNone_iff_eq_none.1 (unteamed evaluated member satisfied)]
  · refine congrArg (Option.map _) (Tier.matched_eq rfl (fun _ => Bool.eq_iff_iff.2 (by simp))
      (fun _ => built.byChannel) fun evaluated member isHit => ?_)
    obtain ⟨asks, satisfied⟩ := Rank.isHit_iff.1 isHit
    have asks : evaluated.bindingMatch.accountPattern = "*" := of_decide_eq_true asks
    simp [asks, unpeered evaluated member satisfied,
      Option.isNone_iff_eq_none.1 (unguilded evaluated member satisfied),
      Option.isNone_iff_eq_none.1 (unteamed evaluated member satisfied)]

/-- What the indexes are made from are the bindings the specification searches. -/
theorem map_binding_evaluatedFor (query : RouteQuery) :
    (evaluatedFor toLowerCase cfg query.channel query.accountId).map EvaluatedBinding.binding =
      (listBindings cfg).filter (AgentBinding.concerns toLowerCase query) := by
  have same : evaluatedFor toLowerCase cfg query.channel query.accountId =
      (evaluatedBindings toLowerCase cfg).filter
        (AgentBinding.concerns toLowerCase query ∘ EvaluatedBinding.binding) := by
    refine List.filter_congr fun evaluated member => ?_
    have spec := evaluated_spec member
    have filled : evaluated.binding ∈ (evaluatedBindings toLowerCase cfg).map
        EvaluatedBinding.binding := List.mem_map_of_mem member
    rw [evaluatedBindings, map_binding_evaluatedFrom, List.mem_filter] at filled
    unfold EvaluatedBinding.isScoped EvaluatedBinding.isAnyAccount
    rw [spec, Function.comp_apply, AgentBinding.concerns, filled.2, Bool.eq_iff_iff]
    by_cases any : trim (evaluated.binding.bindingMatch.accountId.getD "") = "*"
    · simp [normalizeBindingMatch, any]
    · simp only [normalizeBindingMatch, any, ne_eq, not_false_eq_true, decide_true, Bool.true_and,
        decide_false, Bool.and_false, Bool.or_false, Bool.false_or]
      exact Iff.rfl
  rw [same, ← List.filter_map, evaluatedBindings, map_binding_evaluatedFrom, List.filter_filter]
  refine List.filter_congr fun binding _ => ?_
  rw [AgentBinding.concerns]
  by_cases filled : binding.channel toLowerCase = "" <;> simp [filled]

theorem chooseRoute_eq (query : RouteQuery) :
    chooseRoute toLowerCase cfg query (buildEvaluatedBindingsIndex
        (evaluatedFor toLowerCase cfg query.channel query.accountId)) =
      specifiedRouteOf toLowerCase cfg query := by
  have spec : ∀ evaluated ∈ evaluatedFor toLowerCase cfg query.channel query.accountId,
      evaluated.bindingMatch = normalizeBindingMatch toLowerCase evaluated.binding.bindingMatch :=
    fun evaluated member => evaluated_spec (List.mem_of_mem_filter member)
  have agree := (tiers_agree query (nodup_evaluatedFor query.channel query.accountId)
    fun evaluated member => spec evaluated member ▸ named_normalizeBindingMatch _).findSome?_eq
  have ranks : (fun rank : Rank => (rank.earliest toLowerCase query
      ((listBindings cfg).filter (AgentBinding.concerns toLowerCase query))).map
        fun binding => (binding.agentId, rank.matchedBy)) =
      fun rank : Rank => ((evaluatedFor toLowerCase cfg query.channel query.accountId).find?
        fun evaluated => rank.isHit query evaluated.bindingMatch).map
          fun matched => (matched.binding.agentId, rank.matchedBy) := by
    funext rank
    rw [← map_binding_evaluatedFor, Rank.earliest, List.find?_map, Option.map_map]
    refine congrArg (Option.map _) (List.find?_congr fun evaluated member => ?_)
    rw [spec evaluated member]
    rfl
  rw [chooseRoute, specifiedRouteOf, ranks, agree]

/-! ### The cache of bindings -/

theorem bindingsCacheKey_inj {channel other accountId otherId : String} (free : Free '\t' accountId)
    (otherFree : Free '\t' otherId) :
    bindingsCacheKey channel accountId = bindingsCacheKey other otherId ↔
      channel = other ∧ accountId = otherId := by
  rw [bindingsCacheKey, bindingsCacheKey, joinText_eq_iff]
  show channel.toList ++ '\t' :: accountId.toList = other.toList ++ '\t' :: otherId.toList ↔ _
  rw [append_separator_inj_last free otherFree, String.toList_inj, String.toList_inj]

variable (toLowerCase cfg) in
/-- What the cache of bindings holds is what would be computed. -/
structure EvaluatedBindingsCache.Sound (cache : EvaluatedBindingsCache) : Prop where
  byChannel : cache.byChannel = buildEvaluatedBindingsByChannel toLowerCase cfg
  bindings : Holds (fun key bindings => ∀ channel accountId, Free '\t' accountId →
    key = bindingsCacheKey channel accountId →
      bindings = evaluatedFor toLowerCase cfg channel accountId) cache.byChannelAccount
  indexes : Holds (fun key index => ∀ channel accountId, Free '\t' accountId →
    key = bindingsCacheKey channel accountId →
      index = buildEvaluatedBindingsIndex (evaluatedFor toLowerCase cfg channel accountId))
        cache.byChannelAccountIndex

theorem sound_getEvaluatedBindings {existing : Option EvaluatedBindingsCache}
    (sound : ∀ cache ∈ existing, cache.Sound toLowerCase cfg) (channel : String)
    {accountId : String} (free : Free '\t' accountId) :
    let found := getEvaluatedBindingsForChannelAccount toLowerCase cfg existing channel accountId
    found.1 = evaluatedFor toLowerCase cfg channel accountId ∧ found.2.Sound toLowerCase cfg := by
  have start : (existing.getD ⟨buildEvaluatedBindingsByChannel toLowerCase cfg, ∅, ∅⟩).Sound
      toLowerCase cfg := by
    cases existing with
    | none => exact ⟨rfl, holds_empty, holds_empty⟩
    | some cache => exact sound cache rfl
  unfold getEvaluatedBindingsForChannelAccount
  dsimp only
  split
  next hit found => exact ⟨start.bindings _ _ found channel accountId free rfl, start⟩
  next =>
    have computed : bindingsOf (buildEvaluatedBindingsByChannel toLowerCase cfg) channel accountId =
        evaluatedFor toLowerCase cfg channel accountId := bindingsOf_eq channel accountId
    rw [start.byChannel, computed]
    split
    · refine ⟨rfl, rfl, holds_empty.set ?_, holds_empty.set ?_⟩
      all_goals
        intro other otherId otherFree same
        obtain ⟨rfl, rfl⟩ := (bindingsCacheKey_inj free otherFree).1 same
        rfl
    · refine ⟨rfl, rfl, start.bindings.set ?_, start.indexes.set ?_⟩
      all_goals
        intro other otherId otherFree same
        obtain ⟨rfl, rfl⟩ := (bindingsCacheKey_inj free otherFree).1 same
        rfl

theorem sound_getEvaluatedBindingIndex {existing : Option EvaluatedBindingsCache}
    (sound : ∀ cache ∈ existing, cache.Sound toLowerCase cfg) (channel : String)
    {accountId : String} (free : Free '\t' accountId) :
    let found := getEvaluatedBindingIndexForChannelAccount toLowerCase cfg existing channel accountId
    found.1 = buildEvaluatedBindingsIndex (evaluatedFor toLowerCase cfg channel accountId) ∧
      found.2.Sound toLowerCase cfg := by
  obtain ⟨bindings, after⟩ : _ ∧ _ := sound_getEvaluatedBindings sound channel free
  unfold getEvaluatedBindingIndexForChannelAccount
  dsimp only
  split
  next indexed found => exact ⟨after.indexes _ _ found channel accountId free rfl, after⟩
  next =>
    rw [bindings]
    refine ⟨rfl, after.byChannel, after.bindings, after.indexes.set ?_⟩
    intro other otherId otherFree same
    obtain ⟨rfl, rfl⟩ := (bindingsCacheKey_inj free otherFree).1 same
    rfl

/-! ### The cache of routes -/

/-- A call of `resolveAgentRoute`, with what `shouldLogVerbose` says then. -/
structure RouteCall where
  verbose : Bool
  input : ResolveAgentRouteInput
  deriving DecidableEq, Repr

variable (toLowerCase cfg) in
/-- The key of a call in the cache of routes. -/
def RouteCall.cacheKey (call : RouteCall) : String :=
  buildResolvedRouteCacheKey (normalizeInput toLowerCase call.input) (cfg.dmScope.getD .main)

variable (toLowerCase cfg) in
/-- The routes of calls one after the other, and the caches they leave. -/
def resolveRoutes : List RouteCall → RouteCaches → List ResolvedAgentRoute × RouteCaches
  | [], caches => ([], caches)
  | call :: rest, caches =>
    let (route, caches) := resolveAgentRoute toLowerCase cfg call.verbose call.input caches
    let (routes, caches) := resolveRoutes rest caches
    (route :: routes, caches)

/-- Two inputs say the same: only the order and the repetition of roles and whether a parent without
an id is there may differ. -/
structure RouteQuery.Alike (first second : RouteQuery) : Prop where
  channel : first.channel = second.channel
  accountId : first.accountId = second.accountId
  peer : first.peer = second.peer
  parentPeer : first.parentPeer.filter (·.id ≠ "") = second.parentPeer.filter (·.id ≠ "")
  guildId : first.guildId = second.guildId
  teamId : first.teamId = second.teamId
  roles : ∀ role, role ∈ first.memberRoleIds ↔ role ∈ second.memberRoleIds

variable (toLowerCase cfg) in
/-- Calls that look at the cache of routes under one key say the same. -/
def Separate (calls : List RouteCall) : Prop :=
  ∀ first ∈ calls, ∀ second ∈ calls, usesRouteCache cfg first.verbose = true →
    usesRouteCache cfg second.verbose = true →
      first.cacheKey toLowerCase cfg = second.cacheKey toLowerCase cfg →
        (normalizeInput toLowerCase first.input).Alike (normalizeInput toLowerCase second.input)

variable {first second : RouteQuery}

theorem RouteQuery.Alike.symm (alike : first.Alike second) :
    second.Alike first :=
  ⟨alike.channel.symm, alike.accountId.symm, alike.peer.symm, alike.parentPeer.symm,
    alike.guildId.symm, alike.teamId.symm, fun role => (alike.roles role).symm⟩

theorem RouteQuery.Alike.satisfied (alike : first.Alike second) {peer : Option RoutePeer}
    (satisfied : asked.Satisfied (first.scope peer)) : asked.Satisfied (second.scope peer) where
  peer := satisfied.peer
  guild guildId is := (satisfied.guild guildId is).trans alike.guildId
  team teamId is := (satisfied.team teamId is).trans alike.teamId
  roles roles is := by
    obtain ⟨role, isRole, member⟩ := satisfied.roles roles is
    exact ⟨role, isRole, (alike.roles role).1 member⟩

theorem RouteQuery.Alike.satisfied_iff (alike : first.Alike second)
    (peer : Option RoutePeer) (asked : NormalizedBindingMatch) :
    asked.Satisfied (first.scope peer) ↔ asked.Satisfied (second.scope peer) :=
  ⟨alike.satisfied, alike.symm.satisfied⟩

/-- Inputs that say the same have the same route. -/
theorem RouteQuery.Alike.specifiedRouteOf_eq (alike : first.Alike second) :
    specifiedRouteOf toLowerCase cfg first = specifiedRouteOf toLowerCase cfg second := by
  have concerns : AgentBinding.concerns toLowerCase first =
      AgentBinding.concerns toLowerCase second := by
    funext binding
    rw [AgentBinding.concerns, AgentBinding.concerns, alike.channel, alike.accountId]
  have ranks : first.ranks = second.ranks := by
    rw [ranks, ranks, alike.peer, alike.parentPeer]
  have earliest : ∀ rank : Rank, rank.earliest toLowerCase first =
      rank.earliest toLowerCase second := by
    intro rank
    funext bindings
    refine List.find?_congr fun binding _ => ?_
    dsimp only
    rw [decide_eq_decide.2 (alike.satisfied_iff rank.peer _)]
  have found : routeFound toLowerCase cfg first = routeFound toLowerCase cfg second := by
    have each : ∀ agentId matchedBy, routeTo toLowerCase cfg first agentId matchedBy =
        routeTo toLowerCase cfg second agentId matchedBy := by
      intro agentId matchedBy
      rw [routeTo, routeTo, alike.channel, alike.accountId, alike.peer]
    funext found
    rw [routeFound.eq_def, routeFound.eq_def]
    simp only [each]
  rw [specifiedRouteOf, specifiedRouteOf, concerns, ranks, found]
  simp only [earliest]

variable (toLowerCase cfg) in
/-- The cache of bindings is sound, and each remembered route is the one specified for a call under
its key. -/
structure RouteCaches.Sound (calls : List RouteCall) (caches : RouteCaches) : Prop where
  evaluated : ∀ cache ∈ caches.evaluatedBindings, cache.Sound toLowerCase cfg
  routes : Holds (fun key route => ∃ call ∈ calls, usesRouteCache cfg call.verbose = true ∧
    call.cacheKey toLowerCase cfg = key ∧ route = specifiedRoute toLowerCase cfg call.input)
      caches.resolvedRoutes

theorem sound_fresh (calls : List RouteCall) : RouteCaches.fresh.Sound toLowerCase cfg calls :=
  ⟨nofun, holds_empty⟩

variable {calls : List RouteCall}

/-- One call answers as specified and leaves sound caches. -/
theorem RouteCaches.Sound.resolve {caches : RouteCaches}
    (sound : caches.Sound toLowerCase cfg calls) (lowers : Lowers toLowerCase)
    (separate : Separate toLowerCase cfg calls) {call : RouteCall} (member : call ∈ calls) :
    let resolved := resolveAgentRoute toLowerCase cfg call.verbose call.input caches
    resolved.1 = specifiedRoute toLowerCase cfg call.input ∧
      resolved.2.Sound toLowerCase cfg calls := by
  have free : Free '\t' (normalizeInput toLowerCase call.input).accountId :=
    lowers.free_accountId (by decide) call.input.accountId
  unfold resolveAgentRoute
  dsimp only
  split
  next route found =>
    split at found
    next uses =>
      obtain ⟨earlier, isCall, earlierUses, same, isRoute⟩ := sound.routes _ _ found
      refine ⟨?_, sound⟩
      rw [isRoute]
      exact (separate earlier isCall call member earlierUses uses same).specifiedRouteOf_eq
    next => exact absurd found nofun
  next =>
    have kept : ∀ {cache : EvaluatedBindingsCache}, cache.Sound toLowerCase cfg →
        ∀ present ∈ some cache, present.Sound toLowerCase cfg :=
      fun sound present is => Option.some.inj is ▸ sound
    obtain ⟨-, first⟩ := sound_getEvaluatedBindings sound.evaluated
      (normalizeInput toLowerCase call.input).channel free
    obtain ⟨isIndex, second⟩ := sound_getEvaluatedBindingIndex (kept first)
      (normalizeInput toLowerCase call.input).channel free
    have computed : chooseRoute toLowerCase cfg (normalizeInput toLowerCase call.input) _ =
        specifiedRoute toLowerCase cfg call.input :=
      chooseRoute_eq (normalizeInput toLowerCase call.input)
    rw [isIndex, computed]
    refine ⟨rfl, kept second, ?_⟩
    split
    next uses => exact sound.routes.remember ⟨call, member, uses, rfl, rfl⟩
    next => exact sound.routes

/-- Every call of a sequence is answered as specified when calls under one key say the same. -/
theorem RouteCaches.Sound.resolveRoutes (lowers : Lowers toLowerCase)
    (separate : Separate toLowerCase cfg calls) (rest : List RouteCall) {caches : RouteCaches}
    (sound : caches.Sound toLowerCase cfg calls) (among : ∀ call ∈ rest, call ∈ calls) :
    (resolveRoutes toLowerCase cfg rest caches).1 =
      rest.map fun call => specifiedRoute toLowerCase cfg call.input := by
  induction rest generalizing caches with
  | nil => rfl
  | cons call rest inductionHypothesis =>
    obtain ⟨isRoute, after⟩ := sound.resolve lowers separate (among call List.mem_cons_self)
    rw [Routing.resolveRoutes, List.map_cons]
    dsimp only
    rw [isRoute, inductionHypothesis after fun other member =>
      among other (List.mem_cons_of_mem _ member)]

theorem routes_are_specified (lowers : Lowers toLowerCase) {calls : List RouteCall}
    (separate : Separate toLowerCase cfg calls) :
    (resolveRoutes toLowerCase cfg calls .fresh).1 =
        calls.map (fun call => specifiedRoute toLowerCase cfg call.input) ∧
      ∀ first ∈ calls, ∀ second ∈ calls, usesRouteCache cfg first.verbose = true →
        usesRouteCache cfg second.verbose = true →
          first.cacheKey toLowerCase cfg = second.cacheKey toLowerCase cfg →
            specifiedRoute toLowerCase cfg first.input =
              specifiedRoute toLowerCase cfg second.input :=
  ⟨RouteCaches.Sound.resolveRoutes lowers separate calls (sound_fresh calls) fun _ member => member,
    fun first isFirst second isSecond uses otherUses same =>
      (separate first isFirst second isSecond uses otherUses same).specifiedRouteOf_eq⟩

/-! ### Plain inputs -/

/-- A text that stands for itself in a key. -/
def PlainText (text : String) : Prop := text ≠ "-" ∧ Free '\t' text

instance (text : String) : Decidable (PlainText text) := instDecidableAnd

/-- A peer has an id, and nothing in the input can be taken for something else in a key. -/
structure RouteQuery.Plain (query : RouteQuery) : Prop where
  channel : Free '\t' query.channel
  peer : ∀ peer ∈ query.peer, peer.id ≠ "" ∧ Free '\t' peer.id
  parentPeer : ∀ parent ∈ query.parentPeer, Free '\t' parent.id
  guildId : PlainText query.guildId
  teamId : PlainText query.teamId
  roles : ∀ role ∈ query.memberRoleIds, PlainText role ∧ Free ',' role

theorem formatRouteCachePeer_inj {first second : Option RoutePeer} :
    formatRouteCachePeer first = formatRouteCachePeer second ↔
      first.filter (·.id ≠ "") = second.filter (·.id ≠ "") := by
  have key : ∀ peer : Option RoutePeer, formatRouteCachePeer peer =
      ((peer.filter (·.id ≠ "")).map fun peer => peer.kind.name ++ ":" ++ peer.id).getD "-" := by
    intro peer
    cases peer with
    | none => rfl
    | some peer =>
      rw [formatRouteCachePeer]
      split
      next blank => rw [Option.filter_some_neg (by simpa using blank)]; rfl
      next filled => rw [Option.filter_some_pos (by simpa using filled)]; rfl
  have dash : ∀ peer : RoutePeer, peer.kind.name ++ ":" ++ peer.id ≠ "-" := by
    intro peer same
    have lengths := congrArg (fun text : String => ':' ∈ text.toList) same
    rw [String.toList_append, String.toList_append] at lengths
    exact absurd (lengths.mp (by simp)) (by decide)
  rw [key, key]
  cases first.filter (·.id ≠ "") with
  | none =>
    cases second.filter (·.id ≠ "") with
    | none => exact iff_of_true rfl rfl
    | some other => exact iff_of_false (fun same => dash other same.symm) nofun
  | some peer =>
    cases second.filter (·.id ≠ "") with
    | none => exact iff_of_false (dash peer) nofun
    | some other =>
      obtain ⟨kind, id⟩ := peer
      obtain ⟨otherKind, otherId⟩ := other
      rw [Option.map_some, Option.map_some, Option.getD_some, Option.getD_some, peerKey_inj,
        Option.some.injEq, RoutePeer.mk.injEq]

theorem formatRoleIdsCacheKey_eq {roles : List String} (filled : roles ≠ []) :
    ∃ sorted : List String, sorted.Perm roles ∧
      formatRoleIdsCacheKey roles = joinText ',' sorted := by
  match roles with
  | [] => exact absurd rfl filled
  | [role] => exact ⟨[role], .refl _, (joinText_singleton role).symm⟩
  | [first, second] =>
    have pair : ∀ left right : String, left ++ "," ++ right = joinText ',' [left, right] := by
      intro left right
      refine String.toList_inj.1 ?_
      rw [joinText, String.toList_ofList, String.toList_append, String.toList_append,
        List.append_assoc]
      rfl
    rw [formatRoleIdsCacheKey, pair, pair]
    split
    · exact ⟨[first, second], .refl _, rfl⟩
    · exact ⟨[second, first], .swap _ _ _, rfl⟩
  | first :: second :: third :: rest => exact ⟨_, List.mergeSort_perm _ textLe, rfl⟩

theorem ne_nil_of_perm {sorted roles : List String} (perm : sorted.Perm roles)
    (filled : roles ≠ []) : sorted ≠ [] := by
  rintro rfl
  exact filled perm.nil_eq.symm

/-- The key of plain roles tells which roles there are. -/
theorem mem_iff_of_formatRoleIdsCacheKey_eq {first second : List String}
    (plain : ∀ role ∈ first, PlainText role ∧ Free ',' role)
    (otherPlain : ∀ role ∈ second, PlainText role ∧ Free ',' role)
    (same : formatRoleIdsCacheKey first = formatRoleIdsCacheKey second) (role : String) :
    role ∈ first ↔ role ∈ second := by
  have dash : ∀ roles : List String, roles ≠ [] →
      (∀ role ∈ roles, PlainText role ∧ Free ',' role) → formatRoleIdsCacheKey roles ≠ "-" := by
    intro roles filled plain isDash
    obtain ⟨sorted, perm, key⟩ := formatRoleIdsCacheKey_eq filled
    rw [key, ← joinText_singleton "-"] at isDash
    have sole := eq_of_joinText_eq (ne_nil_of_perm perm filled)
      (List.cons_ne_nil _ _) (fun role member => (plain role (perm.mem_iff.1 member)).2)
      (by decide) isDash
    exact (plain "-" (perm.mem_iff.1 (sole ▸ List.mem_singleton_self "-"))).1.1 rfl
  by_cases blank : first = []
  · by_cases otherBlank : second = []
    · rw [blank, otherBlank]
    · exact absurd (same.symm.trans (blank ▸ rfl)) (dash second otherBlank otherPlain)
  · by_cases otherBlank : second = []
    · exact absurd (same.trans (otherBlank ▸ rfl)) (dash first blank plain)
    · obtain ⟨sorted, perm, key⟩ := formatRoleIdsCacheKey_eq blank
      obtain ⟨otherSorted, otherPerm, otherKey⟩ := formatRoleIdsCacheKey_eq otherBlank
      rw [key, otherKey] at same
      have equal := eq_of_joinText_eq (ne_nil_of_perm perm blank)
        (ne_nil_of_perm otherPerm otherBlank)
        (fun role member => (plain role (perm.mem_iff.1 member)).2)
        (fun role member => (otherPlain role (otherPerm.mem_iff.1 member)).2) same
      rw [← perm.mem_iff, equal, otherPerm.mem_iff]

theorem orElse_dash_inj {first second : String} (plain : PlainText first)
    (otherPlain : PlainText second) (same : orElse first "-" = orElse second "-") :
    first = second := by
  rw [orElse, orElse] at same
  by_cases blank : first = ""
  · by_cases otherBlank : second = ""
    · rw [blank, otherBlank]
    · rw [if_pos blank, if_neg otherBlank] at same
      exact absurd same.symm otherPlain.1
  · by_cases otherBlank : second = ""
    · rw [if_neg blank, if_pos otherBlank] at same
      exact absurd same plain.1
    · rwa [if_neg blank, if_neg otherBlank] at same

theorem free_formatRouteCachePeer {peer : Option RoutePeer}
    (free : ∀ present ∈ peer, Free '\t' present.id) : Free '\t' (formatRouteCachePeer peer) := by
  cases peer with
  | none => decide
  | some present =>
    rw [formatRouteCachePeer]
    split
    · decide
    · intro member
      rw [String.toList_append, String.toList_append] at member
      rcases List.mem_append.1 member with front | inId
      · cases isKind : present.kind <;> rw [isKind] at front <;> exact absurd front (by decide)
      · exact free present rfl inId

theorem RouteQuery.Plain.free_roles {query : RouteQuery} (plain : query.Plain) :
    Free '\t' (formatRoleIdsCacheKey query.memberRoleIds) := by
  by_cases blank : query.memberRoleIds = []
  · rw [blank]
    decide
  · obtain ⟨sorted, perm, key⟩ := formatRoleIdsCacheKey_eq blank
    rw [key]
    exact free_joinText (by decide) fun role member =>
      (plain.roles role (perm.mem_iff.1 member)).1.2

/-- Two plain inputs with one key say the same. -/
theorem RouteQuery.Plain.alike {scope : DmScope}
    (plain : first.Plain) (otherPlain : second.Plain) (free : Free '\t' first.accountId)
    (otherFree : Free '\t' second.accountId)
    (same : buildResolvedRouteCacheKey first scope = buildResolvedRouteCacheKey second scope) :
    first.Alike second := by
  have each : ∀ query : RouteQuery, query.Plain → Free '\t' query.accountId →
      ∀ field ∈ [query.channel, query.accountId, formatRouteCachePeer query.peer,
        formatRouteCachePeer query.parentPeer, orElse query.guildId "-", orElse query.teamId "-",
        formatRoleIdsCacheKey query.memberRoleIds], Free '\t' field := by
    intro query plain free field member
    simp only [List.mem_cons, List.not_mem_nil, or_false] at member
    rcases member with rfl | rfl | rfl | rfl | rfl | rfl | rfl
    · exact plain.channel
    · exact free
    · exact free_formatRouteCachePeer fun peer is => (plain.peer peer is).2
    · exact free_formatRouteCachePeer plain.parentPeer
    · exact free_orElse plain.guildId.2 (by decide)
    · exact free_orElse plain.teamId.2 (by decide)
    · exact plain.free_roles
  rw [buildResolvedRouteCacheKey, buildResolvedRouteCacheKey] at same
  have fields := (joinText_inj (by rfl) (by exact each first plain free)
    (by exact each second otherPlain otherFree)).1 same
  simp only [List.cons.injEq] at fields
  obtain ⟨channel, accountId, peer, parentPeer, guildId, teamId, roles, -⟩ := fields
  have present : ∀ query : RouteQuery, query.Plain →
      query.peer.filter (·.id ≠ "") = query.peer := by
    intro query plain
    cases isPeer : query.peer with
    | none => rfl
    | some peer => exact Option.filter_some_pos (by simpa using (plain.peer peer isPeer).1)
  have peer := formatRouteCachePeer_inj.1 peer
  rw [present first plain, present second otherPlain] at peer
  exact ⟨channel, accountId, peer, formatRouteCachePeer_inj.1 parentPeer,
    orElse_dash_inj plain.guildId otherPlain.guildId guildId,
    orElse_dash_inj plain.teamId otherPlain.teamId teamId,
    mem_iff_of_formatRoleIdsCacheKey_eq plain.roles otherPlain.roles roles⟩

/-- Calls with plain inputs never share a key unless they say the same. -/
theorem separate_of_plain (lowers : Lowers toLowerCase)
    (plain : ∀ call ∈ calls, (normalizeInput toLowerCase call.input).Plain) :
    Separate toLowerCase cfg calls :=
  fun first isFirst second isSecond _ _ same => (plain first isFirst).alike (plain second isSecond)
    (lowers.free_accountId (by decide) _) (lowers.free_accountId (by decide) _) same

end Bindings

/-! ### A config that tells a group without an id apart -/

/-- Groups go to one agent and everything else to another. -/
def groupConfig : RoutingConfig where
  agents := [⟨some "main", true⟩, ⟨some "ops", false⟩]
  bindings := [⟨none, "ops", ⟨some "telegram", some "*", some ⟨some "group", some "*"⟩, none, none,
    none⟩⟩]
  dmScope := none
  identityLinks := none

def telegramCall (peer : Option RoutePeer) : RouteCall :=
  ⟨false, ⟨"telegram", none, peer, none, none, none, none⟩⟩

theorem routes_are_specified_groups :
    (resolveRoutes asciiLower groupConfig
        [telegramCall none, telegramCall (some ⟨.group, "7"⟩)] .fresh).1 =
        [telegramCall none, telegramCall (some ⟨.group, "7"⟩)].map (fun call =>
          specifiedRoute asciiLower groupConfig call.input) ∧
      ∀ first ∈ [telegramCall none, telegramCall (some ⟨.group, "7"⟩)],
        ∀ second ∈ [telegramCall none, telegramCall (some ⟨.group, "7"⟩)],
          usesRouteCache groupConfig first.verbose = true →
            usesRouteCache groupConfig second.verbose = true →
              first.cacheKey asciiLower groupConfig = second.cacheKey asciiLower groupConfig →
                specifiedRoute asciiLower groupConfig first.input =
                  specifiedRoute asciiLower groupConfig second.input :=
  routes_are_specified lowers_asciiLower (separate_of_plain lowers_asciiLower fun call member => by
    rcases List.mem_cons.1 member with rfl | member
    · exact ⟨by decide, nofun, nofun, by decide, by decide, nofun⟩
    · rw [List.mem_singleton.1 member]
      exact ⟨by decide, fun peer is => Option.some.inj is ▸ by decide, nofun, by decide, by decide,
        nofun⟩)

/-- After a call without a peer, a group without an id is answered with the route of that call. -/
theorem routes_are_not_specified :
    ¬∀ (cfg : RoutingConfig) (calls : List RouteCall),
      (resolveRoutes asciiLower cfg calls .fresh).1 =
        calls.map fun call => specifiedRoute asciiLower cfg call.input := by
  intro claim
  have second := congrArg (fun routes => (routes.map ResolvedAgentRoute.agentId)[1]?)
    (claim groupConfig [telegramCall none, telegramCall (some ⟨.group, ""⟩)])
  exact absurd second (by decide +kernel)

end OpenClaw.Routing
