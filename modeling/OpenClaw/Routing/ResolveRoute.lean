/-
This file is `resolveAgentRoute` of `routing/resolve-route.ts`: which agent a message goes
to, and under which session key.

The bindings of a config are evaluated once and stand in buckets by channel and account;
for a channel and an account the buckets are merged in source order and indexed by what
the bindings ask for. Both are kept in a cache of the config, and so is every route that
has been resolved, under a key that is built from the call.
-/

import OpenClaw.Base.Buckets
import OpenClaw.Base.Memo
import OpenClaw.Routing.SessionKey

namespace OpenClaw.Routing

open Buckets Delimited Memo Text

/-! ### The config -/

inductive BindingType
  | route
  | acp
  deriving DecidableEq, Repr

structure PeerMatch where
  kind : Option String
  id : Option String
  deriving DecidableEq, Repr

structure AgentBindingMatch where
  channel : Option String
  accountId : Option String
  peer : Option PeerMatch
  guildId : Option String
  teamId : Option String
  roles : Option (List String)
  deriving DecidableEq, Repr

structure AgentBinding where
  type : Option BindingType
  agentId : String
  bindingMatch : AgentBindingMatch
  deriving DecidableEq, Repr

structure AgentEntry where
  id : Option String
  isDefault : Bool
  deriving DecidableEq, Repr

/-- What routing reads of the config. -/
structure RoutingConfig where
  agents : List AgentEntry
  bindings : List AgentBinding
  dmScope : Option DmScope
  identityLinks : Option IdentityLinks

def normalizeBindingType (binding : AgentBinding) : BindingType :=
  if binding.type = some .acp then .acp else .route

/-- `listRouteBindings`. -/
def listBindings (cfg : RoutingConfig) : List AgentBinding :=
  cfg.bindings.filter fun binding => normalizeBindingType binding = .route

def DmScope.name : DmScope → String
  | .main => "main"
  | .perPeer => "per-peer"
  | .perChannelPeer => "per-channel-peer"
  | .perAccountChannelPeer => "per-account-channel-peer"

/-- `normalizeId`. -/
def normalizeId (value : Option String) : String := trim (value.getD "")

/-! ### Bindings -/

inductive NormalizedPeerConstraint
  | none
  | invalid
  | wildcardKind (kind : ChatType)
  | valid (kind : ChatType) (id : String)
  deriving DecidableEq, Repr

structure NormalizedBindingMatch where
  accountPattern : String
  peer : NormalizedPeerConstraint
  guildId : Option String
  teamId : Option String
  roles : Option (List String)
  deriving DecidableEq, Repr

structure EvaluatedBinding where
  binding : AgentBinding
  bindingMatch : NormalizedBindingMatch
  order : Nat
  deriving DecidableEq, Repr

structure EvaluatedBindingsByChannel where
  byAccount : OrderedMap String (List EvaluatedBinding)
  byAnyAccount : List EvaluatedBinding

structure EvaluatedBindingsIndex where
  byPeer : OrderedMap String (List EvaluatedBinding)
  byPeerWildcard : List EvaluatedBinding
  byGuildWithRoles : OrderedMap String (List EvaluatedBinding)
  byGuild : OrderedMap String (List EvaluatedBinding)
  byTeam : OrderedMap String (List EvaluatedBinding)
  byAccount : List EvaluatedBinding
  byChannel : List EvaluatedBinding

def mergeEvaluatedBindingsInSourceOrder (accountScoped anyAccount : List EvaluatedBinding) :
    List EvaluatedBinding :=
  if accountScoped.isEmpty then anyAccount
  else if anyAccount.isEmpty then accountScoped
  else accountScoped.merge anyAccount fun accountBinding anyBinding =>
    decide (accountBinding.order ≤ anyBinding.order)

/-- A binding without a key is not indexed. -/
def pushToIndexMap (map : OrderedMap String (List EvaluatedBinding)) (key : Option String)
    (binding : EvaluatedBinding) : OrderedMap String (List EvaluatedBinding) :=
  match nonEmpty key with
  | none => map
  | some key => push map key binding

def peerLookupKeys (kind : ChatType) (id : String) : List String :=
  match kind with
  | .group => ["group:" ++ id, "channel:" ++ id]
  | .channel => ["channel:" ++ id, "group:" ++ id]
  | .direct => ["direct:" ++ id]

def collectPeerIndexedBindings (index : EvaluatedBindingsIndex) (peer : Option RoutePeer) :
    List EvaluatedBinding :=
  match peer with
  | none => []
  | some peer => (peerLookupKeys peer.kind peer.id).foldl (fun out key =>
      (bucket index.byPeer key).foldl
        (fun out candidate => if candidate ∈ out then out else out ++ [candidate]) out) []

/-- Puts a binding where the most particular thing it asks for is looked up. -/
def indexBinding (index : EvaluatedBindingsIndex) (binding : EvaluatedBinding) :
    EvaluatedBindingsIndex :=
  match binding.bindingMatch.peer with
  | .valid kind id =>
    let byPeer := (peerLookupKeys kind id).foldl
      (fun byPeer key => pushToIndexMap byPeer (some key) binding) index.byPeer
    { index with byPeer }
  | .wildcardKind _ => { index with byPeerWildcard := index.byPeerWildcard ++ [binding] }
  | _ =>
    if binding.bindingMatch.guildId.isSome ∧ binding.bindingMatch.roles.isSome then
      { index with byGuildWithRoles :=
          pushToIndexMap index.byGuildWithRoles binding.bindingMatch.guildId binding }
    else if binding.bindingMatch.guildId.isSome ∧ ¬binding.bindingMatch.roles.isSome then
      { index with byGuild := pushToIndexMap index.byGuild binding.bindingMatch.guildId binding }
    else if binding.bindingMatch.teamId.isSome then
      { index with byTeam := pushToIndexMap index.byTeam binding.bindingMatch.teamId binding }
    else if binding.bindingMatch.accountPattern ≠ "*" then
      { index with byAccount := index.byAccount ++ [binding] }
    else { index with byChannel := index.byChannel ++ [binding] }

def buildEvaluatedBindingsIndex (bindings : List EvaluatedBinding) : EvaluatedBindingsIndex :=
  bindings.foldl indexBinding ⟨∅, [], ∅, ∅, ∅, [], []⟩

/-! ### Matching -/

structure BindingScope where
  peer : Option RoutePeer
  guildId : String
  teamId : String
  memberRoleIds : List String

def hasGuildConstraint (bindingMatch : NormalizedBindingMatch) : Bool := bindingMatch.guildId.isSome

def hasTeamConstraint (bindingMatch : NormalizedBindingMatch) : Bool := bindingMatch.teamId.isSome

def hasRolesConstraint (bindingMatch : NormalizedBindingMatch) : Bool := bindingMatch.roles.isSome

def peerKindMatches (bindingKind scopeKind : ChatType) : Bool :=
  bindingKind == scopeKind ||
    [bindingKind, scopeKind].contains .group && [bindingKind, scopeKind].contains .channel

def matchesBindingScope (bindingMatch : NormalizedBindingMatch) (scope : BindingScope) : Bool :=
  (match bindingMatch.peer with
    | .none => true
    | .invalid => false
    | .valid kind id => scope.peer.any fun peer => peerKindMatches kind peer.kind && peer.id == id
    | .wildcardKind kind => scope.peer.any fun peer => peerKindMatches kind peer.kind) &&
  bindingMatch.guildId.all (· == scope.guildId) && bindingMatch.teamId.all (· == scope.teamId) &&
    bindingMatch.roles.all fun roles => roles.any fun role => scope.memberRoleIds.contains role

/-! ### Routes -/

structure ResolveAgentRouteInput where
  channel : String
  accountId : Option String
  peer : Option RoutePeer
  parentPeer : Option RoutePeer
  guildId : Option String
  teamId : Option String
  memberRoleIds : Option (List String)
  deriving DecidableEq, Repr

/-- The input after normalisation, as the function keeps it in its local variables. -/
structure RouteQuery where
  channel : String
  accountId : String
  peer : Option RoutePeer
  parentPeer : Option RoutePeer
  guildId : String
  teamId : String
  memberRoleIds : List String
  deriving DecidableEq, Repr

inductive MatchedBy
  | peer
  | parentPeer
  | peerWildcard
  | guildRoles
  | guild
  | team
  | account
  | channel
  | byDefault
  deriving DecidableEq, Repr

inductive LastRoutePolicy
  | main
  | session
  deriving DecidableEq, Repr

structure ResolvedAgentRoute where
  agentId : String
  channel : String
  accountId : String
  sessionKey : String
  mainSessionKey : String
  lastRoutePolicy : LastRoutePolicy
  matchedBy : MatchedBy
  deriving DecidableEq, Repr

def deriveLastRoutePolicy (sessionKey mainSessionKey : String) : LastRoutePolicy :=
  if sessionKey = mainSessionKey then .main else .session

/-- One round of the loop over the tiers. -/
structure Tier where
  matchedBy : MatchedBy
  enabled : Bool
  scopePeer : Option RoutePeer
  candidates : List EvaluatedBinding
  predicate : EvaluatedBinding → Bool

def RouteQuery.scope (query : RouteQuery) (peer : Option RoutePeer) : BindingScope :=
  ⟨peer, query.guildId, query.teamId, query.memberRoleIds⟩

def Tier.matched (tier : Tier) (query : RouteQuery) : Option EvaluatedBinding :=
  if tier.enabled then
    tier.candidates.find? fun candidate => tier.predicate candidate &&
      matchesBindingScope candidate.bindingMatch (query.scope tier.scopePeer)
  else none

def NormalizedPeerConstraint.isValid : NormalizedPeerConstraint → Bool
  | .valid _ _ => true
  | _ => false

def NormalizedPeerConstraint.isWildcard : NormalizedPeerConstraint → Bool
  | .wildcardKind _ => true
  | _ => false

def routeTiers (query : RouteQuery) (index : EvaluatedBindingsIndex) : List Tier :=
  [ { matchedBy := .peer
      enabled := query.peer.isSome
      scopePeer := query.peer
      candidates := collectPeerIndexedBindings index query.peer
      predicate := fun candidate => candidate.bindingMatch.peer.isValid },
    { matchedBy := .parentPeer
      enabled := query.parentPeer.any fun parent => parent.id ≠ ""
      scopePeer := query.parentPeer.filter fun parent => parent.id ≠ ""
      candidates := collectPeerIndexedBindings index query.parentPeer
      predicate := fun candidate => candidate.bindingMatch.peer.isValid },
    { matchedBy := .peerWildcard
      enabled := query.peer.isSome
      scopePeer := query.peer
      candidates := index.byPeerWildcard
      predicate := fun candidate => candidate.bindingMatch.peer.isWildcard },
    { matchedBy := .guildRoles
      enabled := query.guildId ≠ "" && 0 < query.memberRoleIds.length
      scopePeer := query.peer
      candidates := if query.guildId ≠ "" then bucket index.byGuildWithRoles query.guildId else []
      predicate := fun candidate => hasGuildConstraint candidate.bindingMatch &&
        hasRolesConstraint candidate.bindingMatch },
    { matchedBy := .guild
      enabled := query.guildId ≠ ""
      scopePeer := query.peer
      candidates := if query.guildId ≠ "" then bucket index.byGuild query.guildId else []
      predicate := fun candidate => hasGuildConstraint candidate.bindingMatch &&
        !hasRolesConstraint candidate.bindingMatch },
    { matchedBy := .team
      enabled := query.teamId ≠ ""
      scopePeer := query.peer
      candidates := if query.teamId ≠ "" then bucket index.byTeam query.teamId else []
      predicate := fun candidate => hasTeamConstraint candidate.bindingMatch },
    { matchedBy := .account
      enabled := true
      scopePeer := query.peer
      candidates := index.byAccount
      predicate := fun candidate => candidate.bindingMatch.accountPattern ≠ "*" },
    { matchedBy := .channel
      enabled := true
      scopePeer := query.peer
      candidates := index.byChannel
      predicate := fun candidate => candidate.bindingMatch.accountPattern == "*" } ]

/-! ### Cache keys -/

/-- The code units by which JavaScript compares texts. -/
def utf16Units (text : String) : List Nat :=
  text.toList.flatMap fun character =>
    if character.toNat < 0x10000 then [character.toNat]
    else [0xD800 + (character.toNat - 0x10000) / 0x400,
      0xDC00 + (character.toNat - 0x10000) % 0x400]

/-- `first <= second`. -/
def textLe (first second : String) : Bool := decide (utf16Units first ≤ utf16Units second)

def formatRouteCachePeer : Option RoutePeer → String
  | none => "-"
  | some peer => if peer.id = "" then "-" else peer.kind.name ++ ":" ++ peer.id

def formatRoleIdsCacheKey (roleIds : List String) : String :=
  match roleIds with
  | [] => "-"
  | [role] => role
  | [first, second] => if textLe first second then first ++ "," ++ second else second ++ "," ++ first
  | roleIds => joinText ',' (roleIds.mergeSort textLe)

def buildResolvedRouteCacheKey (query : RouteQuery) (dmScope : DmScope) : String :=
  joinText '\t' [query.channel, query.accountId, formatRouteCachePeer query.peer,
    formatRouteCachePeer query.parentPeer, orElse query.guildId "-", orElse query.teamId "-",
    formatRoleIdsCacheKey query.memberRoleIds, dmScope.name]

structure EvaluatedBindingsCache where
  byChannel : OrderedMap String EvaluatedBindingsByChannel
  byChannelAccount : OrderedMap String (List EvaluatedBinding)
  byChannelAccountIndex : OrderedMap String EvaluatedBindingsIndex

/-- The caches of one config. -/
structure RouteCaches where
  evaluatedBindings : Option EvaluatedBindingsCache
  resolvedRoutes : OrderedMap String ResolvedAgentRoute

/-- The caches of a config no call has been made on. -/
def RouteCaches.fresh : RouteCaches := ⟨none, ∅⟩

def maxEvaluatedBindingsCacheKeys : Nat := 2000

def maxResolvedRouteCacheKeys : Nat := 4000

section Resolve

variable (toLowerCase : String → String) (cfg : RoutingConfig)

/-! ### Agents -/

def resolveDefaultAgentId : String :=
  match cfg.agents with
  | [] => defaultAgentId
  | first :: _ =>
    let chosen := ((cfg.agents.filter AgentEntry.isDefault).head?.getD first).id.map trim
    normalizeAgentId toLowerCase ((nonEmpty chosen).getD defaultAgentId)

/-- `byNormalizedId` of `resolveAgentLookupCache`. -/
def agentsByNormalizedId : OrderedMap String String :=
  cfg.agents.foldl (fun byNormalizedId agent =>
    match nonEmpty (agent.id.map trim) with
    | none => byNormalizedId
    | some rawId => byNormalizedId.set (normalizeAgentId toLowerCase rawId)
        (normalizeAgentId toLowerCase rawId)) ∅

def pickFirstExistingAgentId (agentId : String) : String :=
  let fallbackDefaultAgentId := normalizeAgentId toLowerCase (resolveDefaultAgentId toLowerCase cfg)
  let byNormalizedId := agentsByNormalizedId toLowerCase cfg
  let trimmed := trim agentId
  if trimmed = "" then fallbackDefaultAgentId
  else if byNormalizedId.entries.isEmpty then normalizeAgentId toLowerCase trimmed
  else (nonEmpty (byNormalizedId.get (normalizeAgentId toLowerCase trimmed))).getD
    fallbackDefaultAgentId

/-! ### Evaluated bindings -/

def normalizeChatType (raw : Option String) : Option ChatType :=
  let value := normalizeToken toLowerCase raw
  if value = "direct" ∨ value = "dm" then some .direct
  else if value = "group" then some .group
  else if value = "channel" then some .channel
  else none

def normalizePeerConstraint (peer : Option PeerMatch) : NormalizedPeerConstraint :=
  match peer with
  | none => .none
  | some peer =>
    let id := normalizeId peer.id
    match normalizeChatType toLowerCase peer.kind with
    | none => .invalid
    | some kind => if id = "" then .invalid else if id = "*" then .wildcardKind kind
        else .valid kind id

def normalizeBindingMatch (bindingMatch : AgentBindingMatch) : NormalizedBindingMatch where
  accountPattern := trim (bindingMatch.accountId.getD "")
  peer := normalizePeerConstraint toLowerCase bindingMatch.peer
  guildId := nonEmpty (some (normalizeId bindingMatch.guildId))
  teamId := nonEmpty (some (normalizeId bindingMatch.teamId))
  roles := bindingMatch.roles.filter fun roles => 0 < roles.length

def resolveAccountPatternKey (accountPattern : String) : String :=
  if trim accountPattern = "" then defaultAccountId
  else normalizeAccountId toLowerCase (some accountPattern)

/-- The channel of a binding, empty when it names none. -/
def AgentBinding.channel (binding : AgentBinding) : String :=
  normalizeToken toLowerCase binding.bindingMatch.channel

/-- Puts a binding into the bucket of its channel. -/
def EvaluatedBindingsByChannel.add (bucket : EvaluatedBindingsByChannel)
    (evaluated : EvaluatedBinding) : EvaluatedBindingsByChannel :=
  if evaluated.bindingMatch.accountPattern = "*" then
    { bucket with byAnyAccount := bucket.byAnyAccount ++ [evaluated] }
  else
    let accountKey := resolveAccountPatternKey toLowerCase evaluated.bindingMatch.accountPattern
    { bucket with byAccount := push bucket.byAccount accountKey evaluated }

/-- One round of the loop over the bindings, with the order the next one gets. -/
def addBinding (built : OrderedMap String EvaluatedBindingsByChannel × Nat) (binding : AgentBinding) :
    OrderedMap String EvaluatedBindingsByChannel × Nat :=
  let (byChannel, order) := built
  let channel := binding.channel toLowerCase
  if channel = "" then (byChannel, order)
  else
    let evaluated : EvaluatedBinding :=
      { binding
        bindingMatch := normalizeBindingMatch toLowerCase binding.bindingMatch
        order }
    let bucket := (byChannel.get channel).getD ⟨∅, []⟩
    (byChannel.set channel (bucket.add toLowerCase evaluated), order + 1)

def buildEvaluatedBindingsByChannel : OrderedMap String EvaluatedBindingsByChannel :=
  ((listBindings cfg).foldl (addBinding toLowerCase) (∅, 0)).1

/-- The bindings of a channel and an account from the buckets. -/
def bindingsOf (byChannel : OrderedMap String EvaluatedBindingsByChannel)
    (channel accountId : String) : List EvaluatedBinding :=
  let channelBindings := (byChannel.get channel).getD ⟨∅, []⟩
  mergeEvaluatedBindingsInSourceOrder (bucket channelBindings.byAccount accountId)
    channelBindings.byAnyAccount

def bindingsCacheKey (channel accountId : String) : String := joinText '\t' [channel, accountId]

def getEvaluatedBindingsForChannelAccount (existing : Option EvaluatedBindingsCache)
    (channel accountId : String) : List EvaluatedBinding × EvaluatedBindingsCache :=
  let cache := existing.getD ⟨buildEvaluatedBindingsByChannel toLowerCase cfg, ∅, ∅⟩
  let cacheKey := bindingsCacheKey channel accountId
  match cache.byChannelAccount.get cacheKey with
  | some hit => (hit, cache)
  | none =>
    let evaluated := bindingsOf cache.byChannel channel accountId
    let index := buildEvaluatedBindingsIndex evaluated
    let grown := cache.byChannelAccount.set cacheKey evaluated
    let grownIndex := cache.byChannelAccountIndex.set cacheKey index
    if maxEvaluatedBindingsCacheKeys < grown.entries.length then
      (evaluated, ⟨cache.byChannel, (∅ : OrderedMap _ _).set cacheKey evaluated,
        (∅ : OrderedMap _ _).set cacheKey index⟩)
    else (evaluated, ⟨cache.byChannel, grown, grownIndex⟩)

def getEvaluatedBindingIndexForChannelAccount (existing : Option EvaluatedBindingsCache)
    (channel accountId : String) : EvaluatedBindingsIndex × EvaluatedBindingsCache :=
  let (bindings, cache) :=
    getEvaluatedBindingsForChannelAccount toLowerCase cfg existing channel accountId
  let cacheKey := bindingsCacheKey channel accountId
  match cache.byChannelAccountIndex.get cacheKey with
  | some indexed => (indexed, cache)
  | none =>
    let built := buildEvaluatedBindingsIndex bindings
    (built, { cache with byChannelAccountIndex := cache.byChannelAccountIndex.set cacheKey built })

/-! ### Resolving -/

def normalizePeer (peer : RoutePeer) : RoutePeer where
  kind := (normalizeChatType toLowerCase (some peer.kind.name)).getD peer.kind
  id := normalizeId (some peer.id)

def normalizeInput (input : ResolveAgentRouteInput) : RouteQuery where
  channel := normalizeToken toLowerCase (some input.channel)
  accountId := normalizeAccountId toLowerCase input.accountId
  peer := input.peer.map (normalizePeer toLowerCase)
  parentPeer := input.parentPeer.map (normalizePeer toLowerCase)
  guildId := normalizeId input.guildId
  teamId := normalizeId input.teamId
  memberRoleIds := input.memberRoleIds.getD []

/-- The route `choose` makes for an agent. -/
def routeTo (query : RouteQuery) (agentId : String) (matchedBy : MatchedBy) : ResolvedAgentRoute :=
  let resolvedAgentId := pickFirstExistingAgentId toLowerCase cfg agentId
  let sessionKey := normalizeToken toLowerCase (some (buildAgentSessionKey toLowerCase
    resolvedAgentId query.channel (some query.accountId) query.peer (cfg.dmScope.getD .main)
    cfg.identityLinks))
  let mainSessionKey := normalizeToken toLowerCase
    (some (buildAgentMainSessionKey toLowerCase resolvedAgentId (some defaultMainKey)))
  { agentId := resolvedAgentId
    channel := query.channel
    accountId := query.accountId
    sessionKey
    mainSessionKey
    lastRoutePolicy := deriveLastRoutePolicy sessionKey mainSessionKey
    matchedBy }

/-- The route for the agent that was found, or for the default agent. -/
def routeFound (query : RouteQuery) : Option (String × MatchedBy) → ResolvedAgentRoute
  | some (agentId, matchedBy) => routeTo toLowerCase cfg query agentId matchedBy
  | none => routeTo toLowerCase cfg query (resolveDefaultAgentId toLowerCase cfg) .byDefault

/-- The loop over the tiers. -/
def chooseRoute (query : RouteQuery) (index : EvaluatedBindingsIndex) : ResolvedAgentRoute :=
  routeFound toLowerCase cfg query <| (routeTiers query index).findSome? fun tier =>
    (tier.matched query).map fun matched => (matched.binding.agentId, tier.matchedBy)

/-- Whether a call looks at the cache of routes; the flag is `shouldLogVerbose`. -/
def usesRouteCache (verbose : Bool) : Bool := !verbose && cfg.identityLinks.isNone

def resolveAgentRoute (verbose : Bool) (input : ResolveAgentRouteInput) (caches : RouteCaches) :
    ResolvedAgentRoute × RouteCaches :=
  let query := normalizeInput toLowerCase input
  let routeCacheKey := buildResolvedRouteCacheKey query (cfg.dmScope.getD .main)
  match if usesRouteCache cfg verbose then caches.resolvedRoutes.get routeCacheKey else none with
  | some cachedRoute => (cachedRoute, caches)
  | none =>
    let (_, cache) := getEvaluatedBindingsForChannelAccount toLowerCase cfg
      caches.evaluatedBindings query.channel query.accountId
    let (index, cache) := getEvaluatedBindingIndexForChannelAccount toLowerCase cfg
      (some cache) query.channel query.accountId
    let route := chooseRoute toLowerCase cfg query index
    (route, {
      evaluatedBindings := some cache
      resolvedRoutes :=
        if usesRouteCache cfg verbose then
          remember maxResolvedRouteCacheKeys caches.resolvedRoutes routeCacheKey route
        else caches.resolvedRoutes })

end Resolve

end OpenClaw.Routing
