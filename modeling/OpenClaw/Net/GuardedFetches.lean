/-
This file says what a strict fetch with pinned names guarantees: how many requests it sends, where
they may go and by which addresses, and that nothing private crosses an origin.

Once a redirect has crossed origins the request is clean, and no later hop adds to it: rewriting
only takes away. The addresses of a host are those of its lookup, or those that the caller has put
in their place. A host is pinned by its normal form, which the pinned lookup normalises once more:
what is said of addresses is said of hosts for which that changes nothing.
-/

import OpenClaw.Base.Answers
import OpenClaw.Net.FetchGuard

namespace OpenClaw.Net

open Text

variable {Address Body : Type}

/-! ### What a fetch keeps to -/

section Guarantees

variable (web : Web Address Body) (params : GuardedFetchOptions Body)

/-- The policy admits the hostname of a url. -/
def isListed (url : Url) : Bool :=
  matchesHostnameAllowlist (normalizeHostname url.hostname)
    (normalizeHostnameAllowlist params.policy.hostnameAllowlist)

/-- An address came from a lookup of a host. -/
def LookedUp (host address : String) : Prop :=
  ∃ hop results, web.lookupFn hop .target host = .ok results ∧
    address ∈ results.map LookupAddress.address

/-- The addresses that stand for a host: those the caller has put there, or else those that were
looked up. -/
def StandsFor (host address : String) : Prop :=
  match params.dispatcherPolicy.bind PinnedDispatcherPolicy.pinnedHostname with
  | some override => normalizeHostname override.hostname = host ∧ address ∈ override.addresses
  | none => LookedUp web host address

/-- A request resolves its host to addresses of a source only, which are not private unless the
policy exempts the host. -/
def PinsTo (source : String → String → Prop) (request : SentRequest Body) : Prop :=
  ∃ lookup, request.dispatcher.bind Dispatcher.lookup = some lookup ∧
    ∀ call, ∃ found, lookup.resolve request.url.hostname call = .addresses found ∧
      ∀ address ∈ found, source (normalizeHostname request.url.hostname) address ∧
        (shouldSkipPrivateNetworkChecks (normalizeHostname request.url.hostname) params.policy ∨
          isPrivateIpAddress web.addresses (normalizeHostname address) params.policy = false)

/-- The normal form of a hostname is its own normal form. -/
def Steady (hostname : String) : Prop :=
  normalizeHostname (normalizeHostname hostname) = normalizeHostname hostname

/-- What may be sent once a redirect has crossed origins. -/
structure Clean (allowUnsafeReplay : Bool) (init : RequestInit Body) : Prop where
  headers : ∀ headers, init.headers = some headers → ∀ entry ∈ headers, isSafeHeader entry.1
  body : allowUnsafeReplay = true ∨ init.body = none

/-- What the requests of a fetch keep to. -/
structure Guarded (pins : SentRequest Body → Prop) (requests : List (SentRequest Body)) : Prop where
  few : requests.length ≤ resolveMaxRedirects params + 1
  http : ∀ request ∈ requests, isHttp request.url
  listed : ∀ request ∈ requests, isListed params request.url
  pinned : ∀ request ∈ requests, pins request
  crossed : ∀ before first second after, requests = before ++ first :: second :: after →
    first.url.origin ≠ second.url.origin → ∀ request ∈ second :: after,
      ∀ init, request.init = some init → Clean params.allowCrossOriginUnsafeRedirectReplay init

end Guarantees

/-! ### Addresses -/

variable {library : AddressLibrary Address} {policy : SsrFPolicy} {pinned : PinnedHostname}

theorem isPrivateIpAddress_of_admitted {address : String}
    (admitted : isBlockedHostnameOrIp library address policy = false) :
    isPrivateIpAddress library (normalizeHostname address) policy = false := by
  unfold isBlockedHostnameOrIp at admitted
  dsimp only at admitted
  split at admitted
  next empty =>
    have steady : normalizeHostname "" = "" := by decide
    rw [empty, isPrivateIpAddress, if_pos steady]
  next => exact (Bool.or_eq_false_iff.1 admitted).2

theorem assertAllowedResolvedAddressesOrThrow_ok {results : List String}
    (ok : assertAllowedResolvedAddressesOrThrow library results policy = .ok ()) :
    ∀ address ∈ results, isPrivateIpAddress library (normalizeHostname address) policy = false := by
  intro address member
  have none_blocked := (Answer.refuse_eq_ok_iff.1 ok).1
  refine isPrivateIpAddress_of_admitted (Bool.eq_false_iff.2 fun blocked => none_blocked ?_)
  exact List.any_eq_true.2 ⟨address, member, blocked⟩

theorem mem_of_mem_eraseDupsBy {Item : Type} (same : Item → Item → Bool) :
    ∀ (items : List Item) {item : Item}, item ∈ items.eraseDupsBy same → item ∈ items
  | [], _, member => member
  | first :: items, item, member => by
    rw [List.eraseDupsBy_cons] at member
    rcases List.mem_cons.1 member with rfl | later
    · exact List.mem_cons_self
    · have kept := mem_of_mem_eraseDupsBy same _ later
      exact List.mem_cons_of_mem first (List.mem_filter.1 kept).1
termination_by items => items.length
decreasing_by exact Nat.lt_succ_of_le (List.length_filter_le _ _)

theorem mem_dedupeAndPreferIpv4 {results : List LookupAddress} {address : String}
    (member : address ∈ dedupeAndPreferIpv4 results) :
    address ∈ results.map LookupAddress.address := by
  rcases List.mem_append.1 member with member | member <;>
    obtain ⟨entry, isEntry, rfl⟩ := List.mem_map.1 member <;>
    exact List.mem_map_of_mem (mem_of_mem_eraseDupsBy _ _ (List.mem_filter.1 isEntry).1)

theorem mem_usableAddresses {addresses : List String} {family : ℕ} {address : String}
    (member : address ∈ usableAddresses addresses family) : address ∈ addresses := by
  unfold usableAddresses at member
  dsimp only at member
  by_cases asked : family = 4 ∨ family = 6
  · rw [if_pos asked] at member
    split at member
    next => exact (List.mem_filter.1 member).1
    next => exact member
  · rw [if_neg asked, ite_self] at member
    exact member

/-- A host that is pinned is resolved to the addresses it is pinned to. -/
theorem resolve_pinned {host : String} {addresses : List String} {fallback : PinnedLookup}
    (nonempty : normalizeHostname host ≠ "") (steady : Steady host) (call : LookupCall) :
    ∃ found, (PinnedLookup.pinned (normalizeHostname (normalizeHostname host)) addresses
      fallback).resolve host call = .addresses found ∧ ∀ address ∈ found, address ∈ addresses := by
  rw [PinnedLookup.resolve, steady]
  dsimp only
  rw [if_neg (by simp [nonempty])]
  split
  next => exact ⟨_, rfl, fun address member => mem_usableAddresses member⟩
  next =>
    refine ⟨_, rfl, fun address member => ?_⟩
    exact mem_usableAddresses (List.mem_of_getElem? (Option.mem_toList.1 member))

example : normalizeHostname "example.com.." = "example.com." := by decide

theorem resolvePinnedHostnameWithPolicy_ok {hostname : String} {lookupFn : LookupFn}
    (ok : resolvePinnedHostnameWithPolicy library hostname lookupFn policy = .ok pinned) :
    normalizeHostname hostname ≠ "" ∧
      matchesHostnameAllowlist (normalizeHostname hostname)
        (normalizeHostnameAllowlist policy.hostnameAllowlist) = true ∧
      ∃ results, lookupFn (normalizeHostname hostname) = .ok results ∧
        (shouldSkipPrivateNetworkChecks (normalizeHostname hostname) policy = false →
          ∀ address ∈ results.map LookupAddress.address,
            isPrivateIpAddress library (normalizeHostname address) policy = false) ∧
        pinned = ⟨normalizeHostname hostname, dedupeAndPreferIpv4 results,
          .pinned (normalizeHostname (normalizeHostname hostname)) (dedupeAndPreferIpv4 results)
            .system⟩ := by
  unfold resolvePinnedHostnameWithPolicy at ok
  dsimp only at ok
  obtain ⟨nonempty, ok⟩ := Answer.refuse_eq_ok_iff.1 ok
  obtain ⟨listed, ok⟩ := Answer.refuse_eq_ok_iff.1 ok
  obtain ⟨_, -, ok⟩ := Answer.bind_eq_ok_iff.1 ok
  obtain ⟨results, isResults, ok⟩ := Answer.bind_eq_ok_iff.1 ok
  obtain ⟨-, ok⟩ := Answer.refuse_eq_ok_iff.1 ok
  obtain ⟨_, checked, ok⟩ := Answer.bind_eq_ok_iff.1 ok
  obtain ⟨some_address, ok⟩ := Answer.refuse_eq_ok_iff.1 ok
  rw [createPinnedLookup, if_neg some_address] at ok
  refine ⟨nonempty, by simpa using listed, results, isResults, fun exempt => ?_,
    (Except.ok.inj ok).symm⟩
  rw [exempt] at checked
  exact assertAllowedResolvedAddressesOrThrow_ok checked

/-- The lookup of a dispatcher is that of its host, or the one put in its place. -/
theorem resolvePinnedDispatcherLookup_ok
    {override : Option PinnedHostnameOverride} {lookup : PinnedLookup}
    (ok : resolvePinnedDispatcherLookup library pinned override policy = .ok lookup) :
    (override = none ∧ lookup = pinned.lookup) ∨
      ∃ chosen, override = some chosen ∧ normalizeHostname chosen.hostname = pinned.hostname ∧
        (shouldSkipPrivateNetworkChecks pinned.hostname policy = false →
          ∀ address ∈ chosen.addresses,
            isPrivateIpAddress library (normalizeHostname address) policy = false) ∧
        lookup = .pinned (normalizeHostname pinned.hostname) chosen.addresses pinned.lookup := by
  unfold resolvePinnedDispatcherLookup at ok
  split at ok
  next => exact .inl ⟨rfl, (Except.ok.inj ok).symm⟩
  next chosen =>
    dsimp only at ok
    obtain ⟨same, ok⟩ := Answer.refuse_eq_ok_iff.1 ok
    obtain ⟨_, checked, ok⟩ := Answer.bind_eq_ok_iff.1 ok
    unfold createPinnedLookup at ok
    obtain ⟨-, ok⟩ := Answer.refuse_eq_ok_iff.1 ok
    refine .inr ⟨chosen, rfl, not_not.1 (not_or.1 same).2, fun exempt => ?_,
      (Except.ok.inj ok).symm⟩
    rw [exempt] at checked
    exact assertAllowedResolvedAddressesOrThrow_ok checked

theorem createPinnedDispatcher_ok
    {policy : Option PinnedDispatcherPolicy} {ssrfPolicy : SsrFPolicy} {dispatcher : Dispatcher}
    (ok : createPinnedDispatcher library pinned policy ssrfPolicy = .ok dispatcher) :
    ∃ lookup, resolvePinnedDispatcherLookup library pinned
        (policy.bind PinnedDispatcherPolicy.pinnedHostname) ssrfPolicy = .ok lookup ∧
      dispatcher.lookup = some lookup := by
  unfold createPinnedDispatcher at ok
  obtain ⟨lookup, isLookup, ok⟩ := Answer.bind_eq_ok_iff.1 ok
  refine ⟨lookup, isLookup, ?_⟩
  split at ok <;> exact Except.ok.inj ok ▸ rfl

/-- A strict hop has checked its host and pins it. -/
theorem prepareHop_ok {web : Web Address Body} {params : GuardedFetchOptions Body}
    (strict : resolveGuardedFetchMode params = .strict) (pinDns : params.pinDns = true) {hop : ℕ}
    {url : Url} {dispatcher : Option Dispatcher}
    (ok : prepareHop web params hop url = .ok dispatcher) (init : Option (RequestInit Body)) :
    isListed params url ∧
      (Steady url.hostname → PinsTo web params (StandsFor web params) ⟨url, init, dispatcher⟩) := by
  unfold prepareHop at ok
  obtain ⟨_, -, ok⟩ := Answer.bind_eq_ok_iff.1 ok
  obtain ⟨_, -, ok⟩ := Answer.bind_eq_ok_iff.1 ok
  rw [if_neg (by rw [strict]; exact nofun), if_neg (by rw [pinDns]; exact nofun)] at ok
  obtain ⟨pinned, isPinned, ok⟩ := Answer.bind_eq_ok_iff.1 ok
  obtain ⟨created, isCreated, ok⟩ := Answer.bind_eq_ok_iff.1 ok
  obtain rfl := Except.ok.inj ok
  obtain ⟨nonempty, listed, results, isResults, admitted, rfl⟩ :=
    resolvePinnedHostnameWithPolicy_ok isPinned
  refine ⟨listed, fun steady => ?_⟩
  obtain ⟨lookup, isLookup, isOf⟩ := createPinnedDispatcher_ok isCreated
  have exempt : ∀ {addresses : List String},
      (shouldSkipPrivateNetworkChecks (normalizeHostname url.hostname) params.policy = false →
        ∀ address ∈ addresses,
          isPrivateIpAddress web.addresses (normalizeHostname address) params.policy = false) →
      ∀ address ∈ addresses,
        shouldSkipPrivateNetworkChecks (normalizeHostname url.hostname) params.policy = true ∨
          isPrivateIpAddress web.addresses (normalizeHostname address) params.policy = false :=
    fun checked address member => by
      rcases Bool.eq_false_or_eq_true
        (shouldSkipPrivateNetworkChecks (normalizeHostname url.hostname) params.policy) with
        skipped | kept
      · exact .inl skipped
      · exact .inr (checked kept address member)
  refine ⟨lookup, isOf, fun call => ?_⟩
  unfold StandsFor
  rcases resolvePinnedDispatcherLookup_ok isLookup with
    ⟨none_chosen, rfl⟩ | ⟨chosen, isChosen, sameHost, checked, rfl⟩
  · obtain ⟨found, isFound, inside⟩ := resolve_pinned nonempty steady call
    refine ⟨found, isFound, fun address member => ?_⟩
    have looked := mem_dedupeAndPreferIpv4 (inside address member)
    rw [none_chosen]
    exact ⟨⟨hop, results, isResults, looked⟩, exempt admitted address looked⟩
  · obtain ⟨found, isFound, inside⟩ := resolve_pinned nonempty steady call
    refine ⟨found, isFound, fun address member => ?_⟩
    rw [isChosen]
    exact ⟨⟨sameHost, inside address member⟩, exempt checked address (inside address member)⟩

/-! ### Headers -/

theorem lowerCharacter_lowerCharacter (character : Char) :
    lowerCharacter (lowerCharacter character) = lowerCharacter character := by
  unfold lowerCharacter
  split
  next => decide
  next other =>
    rw [if_neg, Char.toLower_toLower_eq_toLower]
    by_cases upper : character.isUpper
    · have lower : character.toLower.isLower := by simp [Char.isAlpha, upper]
      simp only [Char.isLower, Bool.and_eq_true, decide_eq_true_eq, UInt32.le_iff_toNat_le,
        Char.toNat_val] at lower
      have bound : character.toLower.toNat ≤ 122 := lower.2
      omega
    · rwa [Char.toLower_eq_of_not_isUpper upper]

theorem lowerName_lowerName (name : String) : lowerName (lowerName name) = lowerName name := by
  rw [lowerName, lowerName, String.toList_ofList, List.map_map]
  exact congrArg String.ofList (List.map_congr_left fun character _ =>
    lowerCharacter_lowerCharacter character)

/-- The names that `new Headers` collects are those it is given, in lower case. -/
theorem newHeaders_names (property : String → Prop) {headers : List (String × String)}
    (given : ∀ entry ∈ headers, property (lowerName entry.1)) :
    ∀ entry ∈ (newHeaders headers).entries, property entry.1 := by
  have collects : ∀ (collected : OrderedMap String String),
      (∀ entry ∈ collected.entries, property entry.1) →
      ∀ entry ∈ (headers.foldl (fun collected entry => collected.set (lowerName entry.1)
        (((collected.get (lowerName entry.1)).map (· ++ ", ")).getD "" ++ entry.2))
          collected).entries, property entry.1 := by
    induction headers with
    | nil => exact fun _ held => held
    | cons first headers inductionHypothesis =>
      intro collected held
      refine inductionHypothesis (fun entry member => given entry (List.mem_cons_of_mem _ member)) _
        fun entry member => ?_
      rcases (OrderedMap.mem_entries_set _ _ _ entry).1 member with rfl | ⟨-, earlier⟩
      · exact given first List.mem_cons_self
      · exact held entry earlier
  exact collects ∅ fun _ member => nomatch member

/-- A name of a header that may cross origins, as `new Headers` spells it. -/
def Crosses (name : String) : Prop := isSafeHeader name ∧ lowerName name = name

theorem retainSafeRedirectHeaders_crosses (headers : List (String × String)) :
    ∀ entry ∈ retainSafeRedirectHeaders headers, Crosses entry.1 := fun entry member => by
  have lowered : ∀ entry ∈ (newHeaders headers).entries, lowerName entry.1 = entry.1 :=
    newHeaders_names (fun name => lowerName name = name) fun given _ => lowerName_lowerName given.1
  obtain ⟨collected, safe⟩ := List.mem_filter.1 member
  exact ⟨safe, lowered entry collected⟩

theorem dropBodyHeaders_crosses {headers : Option (List (String × String))}
    (crosses : ∀ given, headers = some given → ∀ entry ∈ given, Crosses entry.1) :
    ∀ kept, dropBodyHeaders headers = some kept → ∀ entry ∈ kept, Crosses entry.1 := by
  intro kept isKept entry member
  obtain ⟨given, isGiven, rfl⟩ := Option.map_eq_some_iff.1 isKept
  refine newHeaders_names Crosses (fun other isOther => ?_) entry (List.mem_filter.1 member).1
  have crossed := crosses given isGiven other isOther
  exact crossed.2.symm ▸ crossed

/-! ### Rewriting -/

section Rewriting

variable {allowUnsafeReplay : Bool} {init : RequestInit Body}

/-- A request that has crossed origins. -/
structure Crossed (allowUnsafeReplay : Bool) (init : RequestInit Body) : Prop where
  headers : ∀ headers, init.headers = some headers → ∀ entry ∈ headers, Crosses entry.1
  body : allowUnsafeReplay = true ∨ init.body = none

theorem Crossed.clean (crossed : Crossed allowUnsafeReplay init) : Clean allowUnsafeReplay init :=
  ⟨fun headers is entry member => (crossed.headers headers is entry member).1, crossed.body⟩

theorem Crossed.dropBody (crossed : Crossed allowUnsafeReplay init) :
    Crossed allowUnsafeReplay init.dropBody :=
  ⟨dropBodyHeaders_crosses crossed.headers, .inr rfl⟩

theorem Crossed.rewriteMethod (crossed : Crossed allowUnsafeReplay init) (status : ℕ) :
    Crossed allowUnsafeReplay (rewriteRedirectInitForMethod init status) := by
  unfold rewriteRedirectInitForMethod
  split
  · exact { crossed.dropBody with }
  · exact crossed

/-- What has crossed origins keeps so. -/
theorem Crossed.rewrite (crossed : Crossed allowUnsafeReplay init) (status : ℕ)
    (parsedUrl nextParsedUrl : Url) : Crossed allowUnsafeReplay
      (rewriteRedirectInit init status allowUnsafeReplay parsedUrl nextParsedUrl) := by
  have rewritten := crossed.rewriteMethod status
  have replayed : Crossed allowUnsafeReplay (rewriteRedirectInitForCrossOrigin
      (rewriteRedirectInitForMethod init status) allowUnsafeReplay) := by
    unfold rewriteRedirectInitForCrossOrigin
    split
    · exact rewritten
    · split
      · exact rewritten
      · exact rewritten.dropBody
  unfold rewriteRedirectInit
  dsimp only
  split
  · refine ⟨fun headers is => ?_, replayed.body⟩
    obtain ⟨given, -, rfl⟩ := Option.map_eq_some_iff.1 is
    exact retainSafeRedirectHeaders_crosses given
  · exact rewritten

/-- A request that a server has answered has crossed origins after a redirect that does. -/
theorem crossed_of_redirect
    (bodiless : init.currentMethod = "GET" ∨ init.currentMethod = "HEAD" → init.body = none)
    (status : ℕ) {parsedUrl nextParsedUrl : Url}
    (different : nextParsedUrl.origin ≠ parsedUrl.origin) : Crossed allowUnsafeReplay
      (rewriteRedirectInit init status allowUnsafeReplay parsedUrl nextParsedUrl) := by
  have rewritten : (rewriteRedirectInitForMethod init status).currentMethod = "GET" ∨
      (rewriteRedirectInitForMethod init status).currentMethod = "HEAD" →
        (rewriteRedirectInitForMethod init status).body = none := by
    unfold rewriteRedirectInitForMethod
    split
    · exact fun _ => rfl
    · exact bodiless
  unfold rewriteRedirectInit
  dsimp only
  rw [if_pos different]
  refine ⟨fun headers is => ?_, ?_⟩
  · obtain ⟨given, -, rfl⟩ := Option.map_eq_some_iff.1 is
    exact retainSafeRedirectHeaders_crosses given
  · show allowUnsafeReplay = true ∨ (rewriteRedirectInitForCrossOrigin _ _).body = none
    unfold rewriteRedirectInitForCrossOrigin
    split
    next replay => exact .inl replay
    next =>
      split
      next plain => exact .inr (rewritten plain)
      next => exact .inr rfl

end Rewriting

/-! ### Hops -/

section Hops

variable {web : Web Address Body} {params : GuardedFetchOptions Body}

/-- What a fetch sends from some hop on: nothing, one last request, or one that a redirect answers
and what follows it. -/
theorem fetchHops_cases {left : ℕ} {visited : List String} {currentUrl : String}
    {currentInit : Option (RequestInit Body)} {log : List (SentRequest Body)}
    (isLog : (fetchHops web params left visited currentUrl currentInit).2 = log) :
    log = [] ∨ ∃ parsedUrl dispatcher, web.parseUrl currentUrl = some parsedUrl ∧
      isHttp parsedUrl ∧
      prepareHop web params (resolveMaxRedirects params - left) parsedUrl = .ok dispatcher ∧
      (log = [⟨parsedUrl, currentInit, dispatcher⟩] ∨
        ∃ response location nextParsedUrl fewer, left = fewer + 1 ∧
          web.fetch (resolveMaxRedirects params - left) parsedUrl currentInit = .ok response ∧
          web.resolveUrl location parsedUrl = some nextParsedUrl ∧
          log = ⟨parsedUrl, currentInit, dispatcher⟩ ::
            (fetchHops web params fewer (visited ++ [nextParsedUrl.href]) nextParsedUrl.href
              (currentInit.map fun init => rewriteRedirectInit init response.status
                params.allowCrossOriginUnsafeRedirectReplay parsedUrl nextParsedUrl)).2) := by
  unfold fetchHops at isLog
  split at isLog
  next => exact .inl isLog.symm
  next parsedUrl isParsed =>
    split at isLog
    next => exact .inl isLog.symm
    next http =>
      dsimp only at isLog
      split at isLog
      next => exact .inl isLog.symm
      next dispatcher prepared =>
        refine .inr ⟨parsedUrl, dispatcher, isParsed, by simpa using http, prepared, ?_⟩
        split at isLog
        next => exact .inl isLog.symm
        next response answered =>
          split at isLog
          next => exact .inl isLog.symm
          next =>
            split at isLog
            next => exact .inl isLog.symm
            next location _ =>
              split at isLog
              next => exact .inl isLog.symm
              next fewer =>
                split at isLog
                next => exact .inl isLog.symm
                next nextParsedUrl resolved =>
                  split at isLog
                  next => exact .inl isLog.symm
                  next =>
                    exact .inr ⟨response, location, nextParsedUrl, fewer, rfl, answered, resolved,
                      isLog.symm⟩

/-- A fetch sends one request more than it may follow redirects, at most. -/
theorem length_fetchHops (left : ℕ) (visited : List String) (currentUrl : String)
    (currentInit : Option (RequestInit Body)) :
    (fetchHops web params left visited currentUrl currentInit).2.length ≤ left + 1 := by
  induction left using Nat.strongRecOn generalizing visited currentUrl currentInit with
  | ind left inductionHypothesis =>
    generalize isLog : (fetchHops web params left visited currentUrl currentInit).2 = log
    rcases fetchHops_cases isLog with rfl |
      ⟨_, _, -, -, -, rfl | ⟨_, _, _, fewer, rfl, -, -, rfl⟩⟩
    · exact Nat.zero_le _
    · exact Nat.le_add_left 1 _
    · rw [List.length_cons]
      exact Nat.succ_le_succ (inductionHypothesis fewer (Nat.lt_succ_self _) _ _ _)

/-- What holds of the request of every hop that was prepared holds of all requests. -/
theorem forall_fetchHops {property : SentRequest Body → Prop}
    (held : ∀ hop parsedUrl dispatcher init, isHttp parsedUrl →
      prepareHop web params hop parsedUrl = .ok dispatcher →
        property ⟨parsedUrl, init, dispatcher⟩) (left : ℕ) (visited : List String)
    (currentUrl : String) (currentInit : Option (RequestInit Body)) :
    ∀ request ∈ (fetchHops web params left visited currentUrl currentInit).2,
      property request := by
  induction left using Nat.strongRecOn generalizing visited currentUrl currentInit with
  | ind left inductionHypothesis =>
    generalize isLog : (fetchHops web params left visited currentUrl currentInit).2 = log
    rcases fetchHops_cases isLog with rfl |
      ⟨_, _, -, http, prepared, rfl | ⟨_, _, _, fewer, rfl, -, -, rfl⟩⟩
    · exact fun _ member => nomatch member
    · exact List.forall_mem_singleton.2 (held _ _ _ _ http prepared)
    · exact List.forall_mem_cons.2 ⟨held _ _ _ _ http prepared,
        inductionHypothesis fewer (Nat.lt_succ_self _) _ _ _⟩

/-- A request that has crossed origins is followed by such requests only. -/
theorem crossed_fetchHops (left : ℕ) (visited : List String) (currentUrl : String)
    {currentInit : Option (RequestInit Body)} (crossed : ∀ init, currentInit = some init →
      Crossed params.allowCrossOriginUnsafeRedirectReplay init) :
    ∀ request ∈ (fetchHops web params left visited currentUrl currentInit).2,
      ∀ init, request.init = some init →
        Crossed params.allowCrossOriginUnsafeRedirectReplay init := by
  induction left using Nat.strongRecOn generalizing visited currentUrl currentInit with
  | ind left inductionHypothesis =>
    generalize isLog : (fetchHops web params left visited currentUrl currentInit).2 = log
    rcases fetchHops_cases isLog with rfl |
      ⟨parsedUrl, _, -, -, -, rfl | ⟨response, _, nextParsedUrl, fewer, rfl, -, -, rfl⟩⟩
    · exact fun _ member => nomatch member
    · exact List.forall_mem_singleton.2 crossed
    · refine List.forall_mem_cons.2 ⟨crossed, inductionHypothesis fewer (Nat.lt_succ_self _) _ _ ?_⟩
      intro init is
      obtain ⟨earlier, isEarlier, rfl⟩ := Option.map_eq_some_iff.1 is
      exact (crossed earlier isEarlier).rewrite response.status parsedUrl nextParsedUrl

/-- From the first redirect on that crosses origins, requests have crossed origins. -/
theorem crossed_from_redirect
    (reparsed : ∀ location base next, web.resolveUrl location base = some next →
      web.parseUrl next.href = some next)
    (bodiless : ∀ hop url init response, web.fetch hop url (some init) = .ok response →
      init.currentMethod = "GET" ∨ init.currentMethod = "HEAD" → init.body = none) (left : ℕ)
    (visited : List String) (currentUrl : String) (currentInit : Option (RequestInit Body))
    {before after : List (SentRequest Body)} {first second : SentRequest Body}
    (isLog : (fetchHops web params left visited currentUrl currentInit).2 =
      before ++ first :: second :: after)
    (different : first.url.origin ≠ second.url.origin) :
    ∀ request ∈ second :: after, ∀ init, request.init = some init →
      Crossed params.allowCrossOriginUnsafeRedirectReplay init := by
  induction left using Nat.strongRecOn generalizing visited currentUrl currentInit before with
  | ind left inductionHypothesis =>
    rcases fetchHops_cases isLog with none | ⟨parsedUrl, dispatcher, -, -, -, one |
      ⟨response, location, nextParsedUrl, fewer, rfl, answered, resolved, log⟩⟩
    · exact absurd none (by simp)
    · have lengths := congrArg List.length one
      simp only [List.length_append, List.length_cons, List.length_nil] at lengths
      omega
    · cases before with
      | cons earlier before =>
        exact inductionHypothesis fewer (Nat.lt_succ_self _) _ _ _ (List.cons.inj log).2.symm
      | nil =>
        obtain ⟨rfl, following⟩ := List.cons.inj log
        rw [following]
        -- The request after the redirect goes to the url that the redirect has resolved.
        rcases fetchHops_cases following.symm with none | ⟨reached, _, isReached, -, -, rest⟩
        · nomatch none
        · have landed : second.url = nextParsedUrl := by
            rw [reparsed location parsedUrl nextParsedUrl resolved] at isReached
            rw [Option.some.inj isReached]
            rcases rest with one | ⟨_, _, _, _, -, -, -, more⟩
            · rw [(List.cons.inj one).1]
            · rw [(List.cons.inj more).1]
          refine crossed_fetchHops _ _ _ fun init is => ?_
          obtain ⟨earlier, rfl, rfl⟩ := Option.map_eq_some_iff.1 is
          exact crossed_of_redirect (bodiless _ _ _ _ answered) response.status
            (landed ▸ Ne.symm different)

end Hops

/-- A strict fetch that pins names sends a bounded number of requests, to urls that the policy
admits and by addresses that stand for their hosts, and nothing private crosses an origin. -/
theorem strict_fetch_is_guarded (web : Web Address Body) (params : GuardedFetchOptions Body)
    (strict : resolveGuardedFetchMode params = .strict) (pinDns : params.pinDns = true)
    (reparsed : ∀ location base next, web.resolveUrl location base = some next →
      web.parseUrl next.href = some next)
    (bodiless : ∀ hop url init response, web.fetch hop url (some init) = .ok response →
      init.currentMethod = "GET" ∨ init.currentMethod = "HEAD" → init.body = none) :
    Guarded params (fun request => Steady request.url.hostname →
      PinsTo web params (StandsFor web params) request) (fetchWithSsrFGuard web params).2 where
  few := length_fetchHops _ _ _ _
  http := forall_fetchHops (fun _ _ _ _ http _ => http) _ _ _ _
  listed := forall_fetchHops (fun _ _ _ init _ prepared =>
    (prepareHop_ok strict pinDns prepared init).1) _ _ _ _
  pinned := forall_fetchHops (fun _ _ _ init _ prepared =>
    (prepareHop_ok strict pinDns prepared init).2) _ _ _ _
  crossed _ _ _ _ isLog different request member init is :=
    (crossed_from_redirect reparsed bodiless _ _ _ _ isLog different request member init is).clean

section Runs

def exampleUrls : List Url := [
  ⟨"https://api.example.com/start", "https:", "api.example.com", "https://api.example.com"⟩,
  ⟨"https://cdn.example.com/asset", "https:", "cdn.example.com", "https://cdn.example.com"⟩]

def exampleAddresses : List String := ["93.184.216.34", "149.154.167.220"]

def exampleParse (text : String) : Option Url := exampleUrls.find? fun url => url.href = text

/-- Public addresses, one redirect to another origin, and requests that `fetch` accepts. -/
def exampleWeb : Web String String where
  addresses := {
    parseCanonicalIpAddress := fun text => if text ∈ exampleAddresses then some text else none
    parseLooseIpAddress := fun text => if text ∈ exampleAddresses then some text else none
    isIpv4Address := fun _ => true
    isBlockedSpecialUseIpv4Address := fun _ _ => false
    isBlockedSpecialUseIpv6Address := fun _ => false
    extractEmbeddedIpv4FromIpv6 := fun _ => none
    isCanonicalDottedDecimalIPv4 := fun text => text ∈ exampleAddresses
    isLegacyIpv4Literal := fun _ => false }
  parseUrl := exampleParse
  resolveUrl location _ := exampleParse location
  hasProxyEnvConfigured _ := false
  lookupFn _ _ _ := .ok [⟨"93.184.216.34", 4⟩]
  fetch hop _ init :=
    if init.any fun init => (init.currentMethod = "GET" || init.currentMethod = "HEAD") &&
        init.body.isSome then
      .error (.failed "Request with GET/HEAD method cannot have body.")
    else if hop = 0 then .ok ⟨307, some "https://cdn.example.com/asset"⟩
    else .ok ⟨200, none⟩

theorem exampleWeb_reparsed (location : String) (base next : Url)
    (resolved : exampleWeb.resolveUrl location base = some next) :
    exampleWeb.parseUrl next.href = some next := by
  have landed : next.href = location := by simpa using List.find?_some resolved
  rw [landed]
  exact resolved

theorem exampleWeb_bodiless (hop : ℕ) (url : Url) (init : RequestInit String) (response : Response)
    (answered : exampleWeb.fetch hop url (some init) = .ok response)
    (plain : init.currentMethod = "GET" ∨ init.currentMethod = "HEAD") : init.body = none := by
  have accepted := (Answer.refuse_eq_ok_iff.1 answered).1
  cases is : init.body with
  | none => rfl
  | some body =>
    refine absurd ?_ accepted
    rw [Option.any_some, is]
    simpa using plain

def exampleOptions : GuardedFetchOptions String where
  url := "https://api.example.com/start"
  init := some ⟨some "POST", some [("Authorization", "Bearer token"), ("Accept", "text/html")],
    some "secret"⟩
  mode := some .strict

theorem strict_fetch_is_guarded_across_origins :
    (fetchWithSsrFGuard exampleWeb exampleOptions).2.length = 2 ∧
      Guarded exampleOptions (fun request => Steady request.url.hostname →
        PinsTo exampleWeb exampleOptions (StandsFor exampleWeb exampleOptions) request)
        (fetchWithSsrFGuard exampleWeb exampleOptions).2 :=
  ⟨by decide +kernel, strict_fetch_is_guarded exampleWeb exampleOptions rfl rfl
    exampleWeb_reparsed exampleWeb_bodiless⟩

/-- A fetch whose caller puts an address in the place of the looked up ones. -/
def overriddenOptions : GuardedFetchOptions String where
  url := "https://api.example.com/start"
  mode := some .strict
  dispatcherPolicy := some ⟨.direct, some ⟨"api.example.com", ["149.154.167.220"]⟩⟩

/-- A host may be resolved to addresses that were never looked up. -/
theorem override_is_not_looked_up :
    ¬ ∀ (web : Web String String) (params : GuardedFetchOptions String),
      resolveGuardedFetchMode params = .strict → params.pinDns = true →
      (∀ location base next, web.resolveUrl location base = some next →
        web.parseUrl next.href = some next) →
      (∀ hop url init response, web.fetch hop url (some init) = .ok response →
        init.currentMethod = "GET" ∨ init.currentMethod = "HEAD" → init.body = none) →
      Guarded params (PinsTo web params (LookedUp web)) (fetchWithSsrFGuard web params).2 := by
  intro always
  have guarded := always exampleWeb overriddenOptions rfl rfl exampleWeb_reparsed exampleWeb_bodiless
  have sent : (fetchWithSsrFGuard exampleWeb overriddenOptions).2.head?.any (fun request =>
      (request.dispatcher.bind Dispatcher.lookup).map (fun lookup =>
        lookup.resolve request.url.hostname ⟨true, 0, 0⟩) =
          some (.addresses ["149.154.167.220"])) = true := by
    decide +kernel
  obtain ⟨request, isRequest, resolved⟩ := (Option.any_eq_true _ _).1 sent
  obtain ⟨lookup, isLookup, answers⟩ := guarded.pinned request (List.mem_of_mem_head? isRequest)
  obtain ⟨found, isFound, sources⟩ := answers ⟨true, 0, 0⟩
  rw [decide_eq_true_eq, isLookup, Option.map_some, isFound] at resolved
  obtain rfl := LookupAnswer.addresses.inj (Option.some.inj resolved)
  obtain ⟨⟨_, results, isResults, member⟩, -⟩ := sources _ List.mem_cons_self
  obtain rfl := Except.ok.inj isResults
  exact absurd member (by decide)

end Runs

end OpenClaw.Net
