/-
This file is the guarded fetch: each hop checks its url, resolves and pins its host and sends one
request, and a redirect rewrites the request before it is followed.

Parsing urls, the answers of the name servers and the servers themselves are what a fetch meets,
each asked anew at every hop. Beside its result a fetch tells the requests it has sent. Timeouts,
the closing of dispatchers and the audit log are left out.
-/

import OpenClaw.Base.OrderedMap
import OpenClaw.Net.Ssrf

namespace OpenClaw.Net

open Text

/-! ### Requests -/

structure Url where
  href : String
  protocol : String
  hostname : String
  origin : String
  deriving DecidableEq

structure RequestInit (Body : Type) where
  method : Option String := none
  headers : Option (List (String × String)) := none
  body : Option Body := none
  deriving DecidableEq

structure Response where
  status : ℕ
  location : Option String
  deriving DecidableEq

/-- `toUpperCase`, on the texts that are compared with ASCII names: two other letters have an
upper case that is an ASCII letter. -/
def upperCharacter (character : Char) : Char :=
  if character.toNat = 0x131 then 'I'
  else if character.toNat = 0x17F then 'S'
  else character.toUpper

def toUpperCase (text : String) : String := String.ofList (text.toList.map upperCharacter)

/-! ### Headers -/

def lowerName (name : String) : String := String.ofList (name.toList.map lowerCharacter)

/-- `new Headers(headers)`: names in lower case, the values of one name joined. -/
def newHeaders (headers : List (String × String)) : OrderedMap String String :=
  headers.foldl (fun collected entry => collected.set (lowerName entry.1)
    (((collected.get (lowerName entry.1)).map (· ++ ", ")).getD "" ++ entry.2)) ∅

def crossOriginRedirectSafeHeaders : List String :=
  ["accept", "accept-encoding", "accept-language", "cache-control", "content-language",
    "content-type", "if-match", "if-modified-since", "if-none-match", "if-unmodified-since",
    "pragma", "range", "user-agent"]

def isSafeHeader (name : String) : Bool :=
  normalizeLowercaseStringOrEmpty (some name) ∈ crossOriginRedirectSafeHeaders

def bodyHeaders : List String :=
  ["content-encoding", "content-language", "content-length", "content-location", "content-type",
    "transfer-encoding"]

/-- `retainSafeHeadersForCrossOriginRedirect` of `redirect-headers.ts`. -/
def retainSafeRedirectHeaders (headers : List (String × String)) : List (String × String) :=
  (newHeaders headers).entries.filter fun entry => isSafeHeader entry.1

def dropBodyHeaders (headers : Option (List (String × String))) :
    Option (List (String × String)) :=
  headers.map fun headers => (newHeaders headers).entries.filter fun entry => entry.1 ∉ bodyHeaders

/-! ### Rewriting -/

section Rewriting

variable {Body : Type}

def RequestInit.currentMethod (init : RequestInit Body) : String :=
  (init.method.map toUpperCase).getD "GET"

def RequestInit.dropBody (init : RequestInit Body) : RequestInit Body :=
  { init with body := none, headers := dropBodyHeaders init.headers }

def retainSafeHeadersForCrossOriginRedirect (init : RequestInit Body) : RequestInit Body :=
  { init with headers := init.headers.map retainSafeRedirectHeaders }

def shouldForceGet (init : RequestInit Body) (status : ℕ) : Bool :=
  if status = 303 then init.currentMethod ≠ "GET" && init.currentMethod ≠ "HEAD"
  else (status = 301 || status = 302) && init.currentMethod = "POST"

def rewriteRedirectInitForMethod (init : RequestInit Body) (status : ℕ) : RequestInit Body :=
  if shouldForceGet init status then { init.dropBody with method := some "GET" } else init

def rewriteRedirectInitForCrossOrigin (init : RequestInit Body) (allowUnsafeReplay : Bool) :
    RequestInit Body :=
  if allowUnsafeReplay then init
  else if init.currentMethod = "GET" ∨ init.currentMethod = "HEAD" then init
  else init.dropBody

/-- The rewriting of a request that a redirect sends from one url to another. -/
def rewriteRedirectInit (init : RequestInit Body) (status : ℕ) (allowUnsafeReplay : Bool)
    (parsedUrl nextParsedUrl : Url) : RequestInit Body :=
  let next := rewriteRedirectInitForMethod init status
  if nextParsedUrl.origin ≠ parsedUrl.origin then
    retainSafeHeadersForCrossOriginRedirect
      (rewriteRedirectInitForCrossOrigin next allowUnsafeReplay)
  else next

end Rewriting

/-! ### Options -/

inductive GuardedFetchMode
  | strict
  | trustedEnvProxy
  deriving DecidableEq

structure GuardedFetchOptions (Body : Type) where
  url : String
  init : Option (RequestInit Body) := none
  /-- A finite number, if it is one. -/
  maxRedirects : Option ℚ := none
  allowCrossOriginUnsafeRedirectReplay : Bool := false
  policy : SsrFPolicy := {}
  dispatcherPolicy : Option PinnedDispatcherPolicy := none
  mode : Option GuardedFetchMode := none
  pinDns : Bool := true
  /-- `proxy` is `"env"`. -/
  proxyEnv : Bool := false
  dangerouslyAllowEnvProxyWithoutPinnedDns : Bool := false

section Options

variable {Body : Type} (params : GuardedFetchOptions Body)

def resolveGuardedFetchMode : GuardedFetchMode :=
  match params.mode with
  | some mode => mode
  | none =>
    if params.proxyEnv && params.dangerouslyAllowEnvProxyWithoutPinnedDns then .trustedEnvProxy
    else .strict

def defaultMaxRedirects : ℕ := 3

def resolveMaxRedirects : ℕ :=
  (params.maxRedirects.map fun limit => ⌊limit⌋.toNat).getD defaultMaxRedirects

end Options

/-! ### What a fetch meets -/

/-- What a hostname is looked up for. -/
inductive LookupPurpose
  | explicitProxy
  | target
  deriving DecidableEq

/-- What a fetch meets, hop by hop. -/
structure Web (Address Body : Type) where
  addresses : AddressLibrary Address
  parseUrl : String → Option Url
  /-- `new URL(location, base)`. -/
  resolveUrl : String → Url → Option Url
  hasProxyEnvConfigured : ℕ → Bool
  lookupFn : ℕ → LookupPurpose → LookupFn
  fetch : ℕ → Url → Option (RequestInit Body) → Except FetchError Response

/-- A request as it is sent. -/
structure SentRequest (Body : Type) where
  url : Url
  init : Option (RequestInit Body)
  dispatcher : Option Dispatcher
  deriving DecidableEq

/-- The response a fetch ends with, and the url it came from. -/
structure GuardedFetchResult where
  response : Response
  finalUrl : String
  deriving DecidableEq

/-! ### One hop -/

section Fetch

variable {Address Body : Type} (web : Web Address Body) (params : GuardedFetchOptions Body)

def assertExplicitProxySupportsPinnedDns (url : Url) : Except FetchError Unit :=
  match params.dispatcherPolicy.map PinnedDispatcherPolicy.mode with
  | some (.explicitProxy _ _) =>
    if params.pinDns ∧ url.protocol ≠ "https:" then
      .error (.failed ("Explicit proxy SSRF pinning requires HTTPS targets; " ++
        "plain HTTP targets are not supported"))
    else .ok ()
  | _ => .ok ()

def createPolicyDispatcherWithoutPinnedDns : Option Dispatcher :=
  match params.dispatcherPolicy.map PinnedDispatcherPolicy.mode with
  | none => none
  | some .direct => some (.agent none)
  | some .envProxy => some (.envHttpProxyAgent none)
  | some (.explicitProxy proxyUrl _) => some (.proxyAgent (trim proxyUrl) none)

def isHttp (url : Url) : Bool := url.protocol = "http:" || url.protocol = "https:"

def assertExplicitProxyAllowed (hop : ℕ) : Except FetchError Unit :=
  match params.dispatcherPolicy.map PinnedDispatcherPolicy.mode with
  | some (.explicitProxy proxyUrl allowPrivateProxy) =>
    match web.parseUrl proxyUrl with
    | none => .error (.failed "Invalid explicit proxy URL")
    | some parsedProxyUrl =>
      if !isHttp parsedProxyUrl then
        .error (.failed "Explicit proxy URL must use http or https")
      else do
        let policy :=
          if allowPrivateProxy then
            { params.policy with allowPrivateNetwork := true, hostnameAllowlist := [] }
          else params.policy
        let _ ← resolvePinnedHostnameWithPolicy web.addresses parsedProxyUrl.hostname
          (web.lookupFn hop .explicitProxy) policy
        return ()
  | _ => .ok ()

/-- The checks of a hop, which end in its dispatcher. -/
def prepareHop (hop : ℕ) (parsedUrl : Url) : Except FetchError (Option Dispatcher) := do
  assertExplicitProxySupportsPinnedDns params parsedUrl
  assertExplicitProxyAllowed web params hop
  if resolveGuardedFetchMode params = .trustedEnvProxy ∧ web.hasProxyEnvConfigured hop then
    return some (.envHttpProxyAgent none)
  else if !params.pinDns then
    return createPolicyDispatcherWithoutPinnedDns params
  else
    let pinned ← resolvePinnedHostnameWithPolicy web.addresses parsedUrl.hostname
      (web.lookupFn hop .target) params.policy
    let dispatcher ← createPinnedDispatcher web.addresses pinned params.dispatcherPolicy
      params.policy
    return some dispatcher

def isRedirectStatus (status : ℕ) : Bool := status ∈ [301, 302, 303, 307, 308]

/-- The hops of a fetch that may follow so many more redirects. -/
def fetchHops : (left : ℕ) → (visited : List String) → (currentUrl : String) →
    (currentInit : Option (RequestInit Body)) →
    Except FetchError GuardedFetchResult × List (SentRequest Body)
  | left, visited, currentUrl, currentInit =>
    match web.parseUrl currentUrl with
    | none => (.error (.failed "Invalid URL: must be http or https"), [])
    | some parsedUrl =>
      if !isHttp parsedUrl then (.error (.failed "Invalid URL: must be http or https"), [])
      else
        let hop := resolveMaxRedirects params - left
        match prepareHop web params hop parsedUrl with
        | .error error => (.error error, [])
        | .ok dispatcher =>
          let sent : SentRequest Body := ⟨parsedUrl, currentInit, dispatcher⟩
          match web.fetch hop parsedUrl currentInit with
          | .error error => (.error error, [sent])
          | .ok response =>
            if !isRedirectStatus response.status then (.ok ⟨response, currentUrl⟩, [sent])
            else match nonEmpty response.location with
              | none => (.error (.failed
                  ("Redirect missing location header (" ++ toString response.status ++ ")")), [sent])
              | some location => match left with
                | 0 => (.error (.failed ("Too many redirects (limit: " ++
                    toString (resolveMaxRedirects params) ++ ")")), [sent])
                | left + 1 => match web.resolveUrl location parsedUrl with
                  | none => (.error (.failed "Invalid URL"), [sent])
                  | some nextParsedUrl =>
                    if nextParsedUrl.href ∈ visited then
                      (.error (.failed "Redirect loop detected"), [sent])
                    else
                      let nextInit := currentInit.map fun init =>
                        rewriteRedirectInit init response.status
                          params.allowCrossOriginUnsafeRedirectReplay parsedUrl nextParsedUrl
                      let rest := fetchHops left (visited ++ [nextParsedUrl.href])
                        nextParsedUrl.href nextInit
                      (rest.1, sent :: rest.2)

def fetchWithSsrFGuard : Except FetchError GuardedFetchResult × List (SentRequest Body) :=
  fetchHops web params (resolveMaxRedirects params) [params.url] params.url params.init

end Fetch

end OpenClaw.Net
