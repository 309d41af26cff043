/-
This file is the guard against requests to private networks: which hostnames a policy admits, which
addresses count as private, and the pinned lookup that a dispatcher resolves a checked host with.

Parsing an address is left to the address library, and only what is asked of it is named. A lookup
is a function of the hostname that is asked for; it fails, or answers with addresses.
-/

import OpenClaw.Shared.Text

namespace OpenClaw.Net

open Text

/-! ### Hostnames -/

/-- Drops one dot at the end. -/
def dropDot (characters : List Char) : List Char :=
  if characters.getLast? = some '.' then characters.dropLast else characters

def stripBrackets (characters : List Char) : List Char :=
  if characters.head? = some '[' ∧ characters.getLast? = some ']' then characters.tail.dropLast
  else characters

def normalizeHostname (hostname : String) : String :=
  String.ofList
    (stripBrackets (dropDot (normalizeLowercaseStringOrEmpty (some hostname)).toList))

structure SsrFPolicy where
  allowPrivateNetwork : Bool := false
  dangerouslyAllowPrivateNetwork : Bool := false
  allowRfc2544BenchmarkRange : Bool := false
  allowedHostnames : List String := []
  hostnameAllowlist : List String := []
  deriving DecidableEq

def normalizeHostnameSet (values : List String) : List String :=
  (values.map normalizeHostname).filter (· ≠ "")

def normalizeHostnameAllowlist (values : List String) : List String :=
  ((values.map normalizeHostname).filter fun value =>
    value ≠ "*" && value ≠ "*." && value ≠ "").eraseDups

def isPrivateNetworkAllowedByPolicy (policy : SsrFPolicy) : Bool :=
  policy.dangerouslyAllowPrivateNetwork || policy.allowPrivateNetwork

def shouldSkipPrivateNetworkChecks (hostname : String) (policy : SsrFPolicy) : Bool :=
  isPrivateNetworkAllowedByPolicy policy || hostname ∈ normalizeHostnameSet policy.allowedHostnames

def isHostnameAllowedByPattern (hostname pattern : String) : Bool :=
  match pattern.toList with
  | '*' :: '.' :: suffix =>
    if suffix = [] ∨ hostname.toList = suffix then false
    else ('.' :: suffix).isSuffixOf hostname.toList
  | _ => hostname = pattern

def matchesHostnameAllowlist (hostname : String) (allowlist : List String) : Bool :=
  allowlist = [] || allowlist.any fun pattern => isHostnameAllowedByPattern hostname pattern

/-! ### Private addresses -/

/-- What is asked of the address library. -/
structure AddressLibrary (Address : Type) where
  parseCanonicalIpAddress : String → Option Address
  parseLooseIpAddress : String → Option Address
  isIpv4Address : Address → Bool
  /-- With the benchmark range allowed or not. -/
  isBlockedSpecialUseIpv4Address : Address → Bool → Bool
  isBlockedSpecialUseIpv6Address : Address → Bool
  extractEmbeddedIpv4FromIpv6 : Address → Option Address
  isCanonicalDottedDecimalIPv4 : String → Bool
  isLegacyIpv4Literal : String → Bool

/-- `/^[0-9]+$/` or `/^0x/i`. -/
def looksNumeric (part : List Char) : Bool :=
  (part ≠ [] && part.all Char.isDigit) || part.take 2 = ['0', 'x'] || part.take 2 = ['0', 'X']

def looksLikeUnsupportedIpv4Literal (address : String) : Bool :=
  let parts := address.toList.splitOn '.'
  if parts.length = 0 ∨ 4 < parts.length then false
  else if parts.any (· = []) then true
  else parts.all looksNumeric

variable {Address : Type} (library : AddressLibrary Address)

def isPrivateIpAddress (address : String) (policy : SsrFPolicy) : Bool :=
  let normalized := normalizeHostname address
  let benchmark := policy.allowRfc2544BenchmarkRange
  if normalized = "" then false
  else match library.parseCanonicalIpAddress normalized with
    | some strictIp =>
      if library.isIpv4Address strictIp then
        library.isBlockedSpecialUseIpv4Address strictIp benchmark
      else if library.isBlockedSpecialUseIpv6Address strictIp then true
      else match library.extractEmbeddedIpv4FromIpv6 strictIp with
        | some embeddedIpv4 => library.isBlockedSpecialUseIpv4Address embeddedIpv4 benchmark
        | none => false
    | none =>
      if ':' ∈ normalized.toList ∧ library.parseLooseIpAddress normalized = none then true
      else if !library.isCanonicalDottedDecimalIPv4 normalized &&
          library.isLegacyIpv4Literal normalized then true
      else looksLikeUnsupportedIpv4Literal normalized

def blockedHostnames : List String :=
  ["localhost", "localhost.localdomain", "metadata.google.internal"]

def isBlockedHostnameNormalized (normalized : String) : Bool :=
  normalized ∈ blockedHostnames ||
    [".localhost", ".local", ".internal"].any fun suffix =>
      suffix.toList.isSuffixOf normalized.toList

def isBlockedHostnameOrIp (hostname : String) (policy : SsrFPolicy) : Bool :=
  let normalized := normalizeHostname hostname
  if normalized = "" then false
  else isBlockedHostnameNormalized normalized || isPrivateIpAddress library normalized policy

/-! ### Pinned lookups -/

/-- A request that is refused: by the guard (`SsrFBlockedError`), or for another reason. -/
inductive FetchError
  | blocked (message : String)
  | failed (message : String)
  deriving DecidableEq

structure LookupAddress where
  address : String
  family : ℕ
  deriving DecidableEq

/-- A lookup of a hostname; it fails, or answers. -/
abbrev LookupFn := String → Except FetchError (List LookupAddress)

def assertAllowedHostOrIpOrThrow (hostnameOrIp : String) (policy : SsrFPolicy) :
    Except FetchError Unit :=
  if isBlockedHostnameOrIp library hostnameOrIp policy then
    .error (.blocked "Blocked hostname or private/internal/special-use IP address")
  else .ok ()

def assertAllowedResolvedAddressesOrThrow (results : List String) (policy : SsrFPolicy) :
    Except FetchError Unit :=
  if results.any fun address => isBlockedHostnameOrIp library address policy then
    .error (.blocked "Blocked: resolves to private/internal/special-use IP address")
  else .ok ()

/-- A check that is left out where the policy exempts the host. -/
def unlessSkipped (skip : Bool) (check : Except FetchError Unit) : Except FetchError Unit :=
  if skip then .ok () else check

/-- The lookup of a dispatcher: of the system, or pinned to the addresses of one host. -/
inductive PinnedLookup
  | system
  | pinned (normalizedHost : String) (addresses : List String) (fallback : PinnedLookup)
  deriving DecidableEq

/-- `createPinnedLookup`. -/
def createPinnedLookup (hostname : String) (addresses : List String)
    (fallback : PinnedLookup := .system) : Except FetchError PinnedLookup :=
  if addresses = [] then
    .error (.failed ("Pinned lookup requires at least one address for " ++ hostname))
  else .ok (.pinned (normalizeHostname hostname) addresses fallback)

/-- How a lookup is called, and how often it has been. -/
structure LookupCall where
  all : Bool
  family : ℕ
  index : ℕ

/-- What a lookup gives: addresses of its own, or what the system answers for the host. -/
inductive LookupAnswer
  | addresses (found : List String)
  | system (host : String)
  deriving DecidableEq

/-- The family of an address as the pinned lookup tells it. -/
def familyOf (address : String) : ℕ := if ':' ∈ address.toList then 6 else 4

def usableAddresses (addresses : List String) (family : ℕ) : List String :=
  let candidates :=
    if family = 4 ∨ family = 6 then addresses.filter fun address => familyOf address = family
    else addresses
  if candidates ≠ [] then candidates else addresses

def PinnedLookup.resolve : PinnedLookup → String → LookupCall → LookupAnswer
  | .system, host, _ => .system host
  | .pinned normalizedHost addresses fallback, host, call =>
    let normalized := normalizeHostname host
    if normalized = "" ∨ normalized ≠ normalizedHost then fallback.resolve host call
    else
      let usable := usableAddresses addresses call.family
      if call.all then .addresses usable
      else .addresses (usable[call.index % usable.length]?).toList

structure PinnedHostname where
  hostname : String
  addresses : List String
  lookup : PinnedLookup
  deriving DecidableEq

def dedupeAndPreferIpv4 (results : List LookupAddress) : List String :=
  let firsts := results.eraseDupsBy fun first second => first.address = second.address
  (firsts.filter fun entry => entry.family = 4).map LookupAddress.address ++
    (firsts.filter fun entry => entry.family ≠ 4).map LookupAddress.address

def resolvePinnedHostnameWithPolicy (hostname : String) (lookupFn : LookupFn)
    (policy : SsrFPolicy) : Except FetchError PinnedHostname :=
  let normalized := normalizeHostname hostname
  if normalized = "" then .error (.failed "Invalid hostname")
  else
    let skip := shouldSkipPrivateNetworkChecks normalized policy
    if !matchesHostnameAllowlist normalized
        (normalizeHostnameAllowlist policy.hostnameAllowlist) then
      .error (.blocked ("Blocked hostname (not in allowlist): " ++ hostname))
    else do
      unlessSkipped skip (assertAllowedHostOrIpOrThrow library normalized policy)
      let results ← lookupFn normalized
      if results = [] then
        .error (.failed ("Unable to resolve hostname: " ++ hostname))
      else
        unlessSkipped skip (assertAllowedResolvedAddressesOrThrow library
          (results.map LookupAddress.address) policy)
        let addresses := dedupeAndPreferIpv4 results
        if addresses = [] then
          .error (.failed ("Unable to resolve hostname: " ++ hostname))
        else
          let lookup ← createPinnedLookup normalized addresses
          return ⟨normalized, addresses, lookup⟩

/-! ### Dispatchers -/

structure PinnedHostnameOverride where
  hostname : String
  addresses : List String
  deriving DecidableEq

/-- How a dispatcher reaches its host. -/
inductive DispatcherMode
  | direct
  | envProxy
  | explicitProxy (proxyUrl : String) (allowPrivateProxy : Bool)
  deriving DecidableEq

structure PinnedDispatcherPolicy where
  mode : DispatcherMode
  pinnedHostname : Option PinnedHostnameOverride := none
  deriving DecidableEq

/-- A dispatcher, with the lookup that it connects by if it was given one. -/
inductive Dispatcher
  | agent (lookup : Option PinnedLookup)
  | envHttpProxyAgent (lookup : Option PinnedLookup)
  | proxyAgent (uri : String) (lookup : Option PinnedLookup)
  deriving DecidableEq

def Dispatcher.lookup : Dispatcher → Option PinnedLookup
  | .agent lookup | .envHttpProxyAgent lookup | .proxyAgent _ lookup => lookup

def resolvePinnedDispatcherLookup (pinned : PinnedHostname)
    (override : Option PinnedHostnameOverride) (policy : SsrFPolicy) :
    Except FetchError PinnedLookup :=
  match override with
  | none => .ok pinned.lookup
  | some override =>
    let normalizedOverrideHost := normalizeHostname override.hostname
    if normalizedOverrideHost = "" ∨ normalizedOverrideHost ≠ pinned.hostname then
      .error (.failed ("Pinned dispatcher override hostname mismatch: expected " ++
        pinned.hostname ++ ", got " ++ override.hostname))
    else do
      unlessSkipped (shouldSkipPrivateNetworkChecks pinned.hostname policy)
        (assertAllowedResolvedAddressesOrThrow library override.addresses policy)
      createPinnedLookup pinned.hostname override.addresses pinned.lookup

def createPinnedDispatcher (pinned : PinnedHostname) (policy : Option PinnedDispatcherPolicy)
    (ssrfPolicy : SsrFPolicy) : Except FetchError Dispatcher := do
  let lookup ← resolvePinnedDispatcherLookup library pinned
    (policy.bind PinnedDispatcherPolicy.pinnedHostname) ssrfPolicy
  match policy.map PinnedDispatcherPolicy.mode with
  | none | some .direct => return .agent (some lookup)
  | some .envProxy => return .envHttpProxyAgent (some lookup)
  | some (.explicitProxy proxyUrl _) => return .proxyAgent (trim proxyUrl) (some lookup)

end OpenClaw.Net
