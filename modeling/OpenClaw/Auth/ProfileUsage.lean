/-
This file is the usage record of one auth profile: the parts of
`agents/auth-profiles/usage.ts` that open, keep, clear and read its windows.

A failure opens one of two windows. Billing and permanent-auth failures are in the
disabled lane, everything else is in the cooldown lane. The record is kept twice, in
the memory of the process and on disk: failures and successes are applied to the disk
under a lock and copied to the memory, or applied to the memory and saved when the
lock cannot be had; expired windows are cleared in the memory only.

Times are rational milliseconds, since the backoffs of the configuration may be
fractions of an hour. An absent count of failures reads as zero wherever the code
reads it, so the counts are a function.
-/

import OpenClaw.Base.Steps
import OpenClaw.Shared.Text

namespace OpenClaw.Auth

open Text

/-! ### The record -/

inductive AuthProfileFailureReason
  | auth
  | authPermanent
  | format
  | overloaded
  | rateLimit
  | billing
  | timeout
  | modelNotFound
  | sessionExpired
  | unknown
  deriving DecidableEq, Repr

/-- `ProfileUsageStats`. -/
structure ProfileUsageStats where
  lastUsed : Option ℚ := none
  cooldownUntil : Option ℚ := none
  cooldownReason : Option AuthProfileFailureReason := none
  cooldownModel : Option String := none
  disabledUntil : Option ℚ := none
  disabledReason : Option AuthProfileFailureReason := none
  errorCount : Option Nat := none
  failureCounts : AuthProfileFailureReason → Nat := fun _ => 0
  lastFailureAt : Option ℚ := none

inductive CredentialType
  | apiKey
  | token
  | oauth
  deriving DecidableEq, Repr

/-- `AuthProfileCredential`, as far as failures look at it. -/
structure AuthProfileCredential where
  type : CredentialType
  provider : String
  access : Option String := none
  deriving DecidableEq, Repr

/-- `AuthProfileStore`, at one profile. -/
structure AuthProfileStore where
  profile : Option AuthProfileCredential
  usageStats : Option ProfileUsageStats := none

/-- The table of `normalizeProviderId`, on a trimmed name in lower case. -/
def canonicalProviderId (normalized : String) : String :=
  if normalized = "modelstudio" ∨ normalized = "qwencloud" then "qwen"
  else if normalized = "z.ai" ∨ normalized = "z-ai" then "zai"
  else if normalized = "opencode-zen" then "opencode"
  else if normalized = "opencode-go-auth" then "opencode-go"
  else if normalized = "kimi" ∨ normalized = "kimi-code" ∨ normalized = "kimi-coding" then "kimi"
  else if normalized = "bedrock" ∨ normalized = "aws-bedrock" then "amazon-bedrock"
  else if normalized = "bytedance" ∨ normalized = "doubao" then "volcengine"
  else normalized

/-- `normalizeProviderId`, over the runtime's `toLowerCase`. -/
def normalizeProviderId (toLowerCase : String → String) (provider : String) : String :=
  canonicalProviderId (((normalizeOptionalString (some provider)).map toLowerCase).getD "")

/-! ### Configuration and backoff -/

/-- The `cooldowns` of the auth configuration. -/
structure AuthCooldowns where
  billingBackoffHours : Option ℚ := none
  billingBackoffHoursByProvider : List (String × ℚ) := []
  billingMaxHours : Option ℚ := none
  authPermanentBackoffMinutes : Option ℚ := none
  authPermanentMaxMinutes : Option ℚ := none
  failureWindowHours : Option ℚ := none

structure ResolvedAuthCooldownConfig where
  billingBackoffMs : ℚ
  billingMaxMs : ℚ
  authPermanentBackoffMs : ℚ
  authPermanentMaxMs : ℚ
  failureWindowMs : ℚ
  deriving DecidableEq, Repr

def resolvePositiveNumber (value : Option ℚ) (fallback : ℚ) : ℚ :=
  (value.filter (0 < ·)).getD fallback

def resolveAuthCooldownConfig (toLowerCase : String → String) (cooldowns : Option AuthCooldowns)
    (providerId : String) : ResolvedAuthCooldownConfig :=
  let cfg := cooldowns.getD {}
  let billingOverride := (cfg.billingBackoffHoursByProvider.find? fun entry =>
    normalizeProviderId toLowerCase entry.1 = providerId).map Prod.snd
  let billingBackoffHours := resolvePositiveNumber (billingOverride <|> cfg.billingBackoffHours) 5
  let billingMaxHours := resolvePositiveNumber cfg.billingMaxHours 24
  let authPermanentBackoffMinutes := resolvePositiveNumber cfg.authPermanentBackoffMinutes 10
  let authPermanentMaxMinutes := resolvePositiveNumber cfg.authPermanentMaxMinutes 60
  let failureWindowHours := resolvePositiveNumber cfg.failureWindowHours 24
  { billingBackoffMs := billingBackoffHours * 60 * 60 * 1000
    billingMaxMs := billingMaxHours * 60 * 60 * 1000
    authPermanentBackoffMs := authPermanentBackoffMinutes * 60 * 1000
    authPermanentMaxMs := authPermanentMaxMinutes * 60 * 1000
    failureWindowMs := failureWindowHours * 60 * 60 * 1000 }

def calculateAuthProfileCooldownMs (errorCount : Nat) : ℚ :=
  let normalized := max 1 errorCount
  if normalized ≤ 1 then 30000
  else if normalized ≤ 2 then 60000
  else 5 * 60000

def calculateDisabledLaneBackoffMs (errorCount : Nat) (baseMs maxMs : ℚ) : ℚ :=
  let normalized := max 1 errorCount
  let baseMs := max 60000 baseMs
  let maxMs := max baseMs maxMs
  let exponent := min (normalized - 1) 10
  min maxMs (baseMs * 2 ^ exponent)

/-- `DisabledFailureReason`. -/
inductive DisabledFailureReason
  | billing
  | authPermanent
  deriving DecidableEq, Repr

def DisabledFailureReason.toReason : DisabledFailureReason → AuthProfileFailureReason
  | .billing => .billing
  | .authPermanent => .authPermanent

/-- The reasons that go to the disabled lane. -/
def disabledFailureReason : AuthProfileFailureReason → Option DisabledFailureReason
  | .billing => some .billing
  | .authPermanent => some .authPermanent
  | _ => none

def resolveDisabledFailureBackoffMs (reason : DisabledFailureReason) (errorCount : Nat)
    (cfgResolved : ResolvedAuthCooldownConfig) : ℚ :=
  match reason with
  | .billing =>
    calculateDisabledLaneBackoffMs errorCount cfgResolved.billingBackoffMs cfgResolved.billingMaxMs
  | .authPermanent =>
    calculateDisabledLaneBackoffMs errorCount cfgResolved.authPermanentBackoffMs
      cfgResolved.authPermanentMaxMs

/-! ### Reading the windows -/

/-- `isAuthCooldownBypassedForProvider`. -/
def isAuthCooldownBypassedForProvider (toLowerCase : String → String) (provider : Option String) :
    Bool :=
  let normalized := normalizeProviderId toLowerCase (provider.getD "")
  normalized = "openrouter" || normalized = "kilocode"

/-- The later of the windows that are there, over or not. -/
def resolveProfileUnusableUntil (stats : ProfileUsageStats) : Option ℚ :=
  (([stats.cooldownUntil, stats.disabledUntil].filterMap id).filter (0 < ·)).max?

def isActiveUnusableWindow (untilMs : Option ℚ) (now : ℚ) : Bool :=
  untilMs.any fun value => 0 < value && now < value

/-- A cooldown for a rate limit of one model does not hold for a caller who asks for another. -/
def shouldBypassModelScopedCooldown (stats : ProfileUsageStats) (now : ℚ)
    (forModel : Option String) : Bool :=
  (nonEmpty forModel).isSome && stats.cooldownReason = some .rateLimit &&
    (nonEmpty stats.cooldownModel).isSome && stats.cooldownModel ≠ forModel &&
    !isActiveUnusableWindow stats.disabledUntil now

def isProfileInCooldown (toLowerCase : String → String) (store : AuthProfileStore) (now : ℚ)
    (forModel : Option String) : Bool :=
  if isAuthCooldownBypassedForProvider toLowerCase (store.profile.map (·.provider)) then false
  else match store.usageStats with
    | none => false
    | some stats =>
      if shouldBypassModelScopedCooldown stats now forModel then false
      else (resolveProfileUnusableUntil stats).any (now < ·)

/-! ### Clearing and resetting -/

/-- A window that was there and is over. -/
def hasExpired (untilMs : Option ℚ) (now : ℚ) : Bool :=
  untilMs.any fun value => 0 < value && value ≤ now

/-- What `clearExpiredCooldowns` does to the windows. -/
def clearWindows (stats : ProfileUsageStats) (now : ℚ) : ProfileUsageStats :=
  let cooldownExpired := hasExpired stats.cooldownUntil now
  let disabledExpired := hasExpired stats.disabledUntil now
  { stats with
    cooldownUntil := if cooldownExpired then none else stats.cooldownUntil
    cooldownReason := if cooldownExpired then none else stats.cooldownReason
    cooldownModel := if cooldownExpired then none else stats.cooldownModel
    disabledUntil := if disabledExpired then none else stats.disabledUntil
    disabledReason := if disabledExpired then none else stats.disabledReason }

/-- The body of `clearExpiredCooldowns` for one profile. -/
def clearExpired (stats : ProfileUsageStats) (now : ℚ) : ProfileUsageStats :=
  let profileMutated := hasExpired stats.cooldownUntil now || hasExpired stats.disabledUntil now
  let cleared := clearWindows stats now
  if profileMutated && (resolveProfileUnusableUntil cleared).isNone then
    { cleared with errorCount := some 0, failureCounts := fun _ => 0 }
  else cleared

def clearExpiredCooldowns (store : AuthProfileStore) (now : ℚ) : AuthProfileStore :=
  { store with usageStats := store.usageStats.map (clearExpired · now) }

/-- `resetUsageStats`, with the time of the success for `overrides`. -/
def resetUsageStats (existing : Option ProfileUsageStats) (lastUsed : ℚ) : ProfileUsageStats :=
  { existing.getD {} with
    errorCount := some 0
    cooldownUntil := none
    cooldownReason := none
    cooldownModel := none
    disabledUntil := none
    disabledReason := none
    failureCounts := fun _ => 0
    lastUsed := some lastUsed }

/-! ### The next record after a failure -/

def keepActiveWindowOrRecompute (existingUntil : Option ℚ) (now recomputedUntil : ℚ) : ℚ :=
  (existingUntil.filter (now < ·)).getD recomputedUntil

/-- The counters start over when the last failure is long ago or all windows are over. -/
def shouldResetCounters (existing : ProfileUsageStats) (now : ℚ)
    (cfgResolved : ResolvedAuthCooldownConfig) : Bool :=
  let windowExpired := existing.lastFailureAt.any fun last =>
    0 < last && cfgResolved.failureWindowMs < now - last
  let previousCooldownExpired := (resolveProfileUnusableUntil existing).any (· ≤ now)
  windowExpired || previousCooldownExpired

/-- `updatedStats` before a lane is chosen. -/
def countFailure (existing : ProfileUsageStats) (now : ℚ) (reason : AuthProfileFailureReason)
    (cfgResolved : ResolvedAuthCooldownConfig) : ProfileUsageStats :=
  let reset := shouldResetCounters existing now cfgResolved
  let baseErrorCount := if reset then 0 else existing.errorCount.getD 0
  let failureCounts := if reset then fun _ => 0 else existing.failureCounts
  { existing with
    errorCount := some (baseErrorCount + 1)
    failureCounts := Function.update failureCounts reason (failureCounts reason + 1)
    lastFailureAt := some now }

/-- The model a cooldown is scoped to after a failure in its lane. -/
def nextCooldownModel (existing : ProfileUsageStats) (now : ℚ) (reason : AuthProfileFailureReason)
    (modelId : Option String) : Option String :=
  let existingCooldownActive := existing.cooldownUntil.any (now < ·)
  if existingCooldownActive then
    if (nonEmpty existing.cooldownModel).isSome && (nonEmpty modelId).isSome &&
        existing.cooldownModel ≠ modelId then
      none
    else if reason = .rateLimit && (nonEmpty modelId).isNone &&
        (nonEmpty existing.cooldownModel).isSome then
      none
    else if reason ≠ .rateLimit then none
    else existing.cooldownModel
  else if reason = .rateLimit then modelId
  else none

def computeNextProfileUsageStats (existing : ProfileUsageStats) (now : ℚ)
    (reason : AuthProfileFailureReason) (cfgResolved : ResolvedAuthCooldownConfig)
    (modelId : Option String) : ProfileUsageStats :=
  let updatedStats := countFailure existing now reason cfgResolved
  match disabledFailureReason reason with
  | some disabled =>
    let backoffMs := resolveDisabledFailureBackoffMs disabled
      (updatedStats.failureCounts disabled.toReason) cfgResolved
    { updatedStats with
      disabledUntil := some (keepActiveWindowOrRecompute existing.disabledUntil now (now + backoffMs))
      disabledReason := some disabled.toReason }
  | none =>
    let backoffMs := calculateAuthProfileCooldownMs (updatedStats.errorCount.getD 0)
    { updatedStats with
      cooldownUntil := some (keepActiveWindowOrRecompute existing.cooldownUntil now (now + backoffMs))
      cooldownReason := some reason
      cooldownModel := nextCooldownModel existing now reason modelId }

/-! ### The usage probe -/

/-- `WhamUsageWindow`. -/
structure WhamUsageWindow where
  usedPercent : Option ℚ := none
  resetAt : Option ℚ := none
  resetAfterSeconds : Option ℚ := none

/-- The `rate_limit` of a `WhamUsageResponse`. -/
structure WhamRateLimit where
  limitReached : Option Bool := none
  primaryWindow : Option WhamUsageWindow := none
  secondaryWindow : Option WhamUsageWindow := none

/-- How the request to the usage endpoint ends. -/
inductive WhamAnswer
  | failed
  | status (code : Nat)
  | ok (rateLimit : Option WhamRateLimit)

def resolveWhamResetMs (window : Option WhamUsageWindow) (now : ℚ) : Option ℚ :=
  window.bind fun window =>
    match window.resetAfterSeconds.filter (0 < ·) with
    | some seconds => some (seconds * 1000)
    | none => (window.resetAt.filter (0 < ·)).map fun resetAt => max 0 (resetAt * 1000 - now)

def isWhamWindowExhausted (window : Option WhamUsageWindow) : Bool :=
  window.any fun window => window.usedPercent.any (100 ≤ ·)

/-- Half the time to the reset, at most `capMs`. -/
def whamHalfWindow (resetMs : Option ℚ) (capMs : ℚ) : ℚ :=
  match resetMs with
  | none => 30000
  | some resetMs => min ⌊resetMs / 2⌋ capMs

/-- The `cooldownMs` of `probeWhamForCooldown`, for the answer of the endpoint. -/
def whamCooldownMs (answer : WhamAnswer) (now : ℚ) : ℚ :=
  match answer with
  | .failed => 30000
  | .status code =>
    if code = 401 then 12 * 60 * 60 * 1000
    else if code = 403 then 24 * 60 * 60 * 1000
    else 5 * 60 * 1000
  | .ok none => 30000
  | .ok (some rateLimit) =>
    let primaryResetMs := resolveWhamResetMs rateLimit.primaryWindow now
    let secondaryResetMs := resolveWhamResetMs rateLimit.secondaryWindow now
    if rateLimit.limitReached = some false then 15000
    else if rateLimit.secondaryWindow.isNone then whamHalfWindow primaryResetMs (4 * 60 * 60 * 1000)
    else if isWhamWindowExhausted rateLimit.secondaryWindow then
      whamHalfWindow secondaryResetMs (4 * 60 * 60 * 1000)
    else if isWhamWindowExhausted rateLimit.primaryWindow then
      whamHalfWindow primaryResetMs (2 * 60 * 60 * 1000)
    else 30000

def shouldProbeWhamForFailure (toLowerCase : String → String) (provider : String)
    (reason : AuthProfileFailureReason) : Bool :=
  normalizeProviderId toLowerCase provider = "openai-codex" &&
    (reason = .rateLimit || reason = .unknown)

/-- The cooldown a failure's probe asks for, if the failure is one that probes. -/
def probeWhamForCooldown (toLowerCase : String → String) (profile : AuthProfileCredential)
    (reason : AuthProfileFailureReason) (answer : WhamAnswer) (now : ℚ) : Option ℚ :=
  if shouldProbeWhamForFailure toLowerCase profile.provider reason &&
      profile.type = .oauth && (nonEmpty profile.access).isSome then
    some (whamCooldownMs answer now)
  else none

def applyWhamCooldownResult (existing computed : ProfileUsageStats) (now cooldownMs : ℚ) :
    ProfileUsageStats :=
  let existingActiveCooldownUntil := (existing.cooldownUntil.filter (now < ·)).getD 0
  { computed with cooldownUntil := some (max existingActiveCooldownUntil (now + cooldownMs)) }

/-! ### The operations -/

section Operations

variable (toLowerCase : String → String) (cfg : Option AuthCooldowns)

/-- The record a failure leaves for a profile of `provider`. -/
def failureStats (provider : String) (existing : Option ProfileUsageStats) (now : ℚ)
    (reason : AuthProfileFailureReason) (modelId : Option String) (whamResult : Option ℚ) :
    ProfileUsageStats :=
  let computed := computeNextProfileUsageStats (existing.getD {}) now reason
    (resolveAuthCooldownConfig toLowerCase cfg (normalizeProviderId toLowerCase provider)) modelId
  match whamResult with
  | some cooldownMs =>
    if shouldProbeWhamForFailure toLowerCase provider reason then
      applyWhamCooldownResult (existing.getD {}) computed now cooldownMs
    else computed
  | none => computed

/-- The updater of `markAuthProfileFailure`, which does nothing for a profile that is gone or
whose provider takes no cooldowns. -/
def failureUpdater (store : AuthProfileStore) (now : ℚ) (reason : AuthProfileFailureReason)
    (modelId : Option String) (whamResult : Option ℚ) : AuthProfileStore :=
  match store.profile with
  | none => store
  | some profile =>
    if isAuthCooldownBypassedForProvider toLowerCase (some profile.provider) then store
    else
      { store with
        usageStats := some
          (failureStats toLowerCase cfg profile.provider store.usageStats now reason modelId
            whamResult) }

/-- The profile in the memory of the process and on disk, and the clock. -/
structure World where
  now : ℚ
  memory : AuthProfileStore
  disk : AuthProfileStore

/-- The record the process reads. -/
def World.stats (world : World) : ProfileUsageStats := world.memory.usageStats.getD {}

/-- A call of `markAuthProfileFailure`: what failed, how the usage endpoint answers if it is
asked, and whether the store can be locked. -/
structure Failure where
  reason : AuthProfileFailureReason
  modelId : Option String := none
  answer : WhamAnswer := .failed
  probedAt : ℚ := 0
  locked : Bool := true

/-- What the probe of a failure asks for, if the failure is one that probes. -/
def Failure.whamResult (failure : Failure) (profile : AuthProfileCredential) : Option ℚ :=
  probeWhamForCooldown toLowerCase profile failure.reason failure.answer failure.probedAt

/-- `markAuthProfileFailure`. Without the lock, the failure is applied to the memory, which is
then saved. -/
def markAuthProfileFailure (world : World) (failure : Failure) : World :=
  match world.memory.profile with
  | none => world
  | some profile =>
    if isAuthCooldownBypassedForProvider toLowerCase (some profile.provider) then world
    else
      let whamResult := failure.whamResult toLowerCase profile
      if failure.locked then
        let freshStore := failureUpdater toLowerCase cfg world.disk world.now failure.reason
          failure.modelId whamResult
        { world with
          disk := freshStore
          memory := { world.memory with usageStats := freshStore.usageStats } }
      else
        let nextStats := failureStats toLowerCase cfg profile.provider world.memory.usageStats
          world.now failure.reason failure.modelId whamResult
        { world with
          memory := { world.memory with usageStats := some nextStats }
          disk := { world.disk with usageStats := some nextStats } }

/-- `markAuthProfileUsed`. -/
def markAuthProfileUsed (world : World) (locked : Bool) : World :=
  if locked then
    let usageStats := if world.disk.profile.isSome then
        some (resetUsageStats world.disk.usageStats world.now)
      else world.disk.usageStats
    { world with
      disk := { world.disk with usageStats }
      memory := { world.memory with usageStats } }
  else if world.memory.profile.isSome then
    let usageStats := some (resetUsageStats world.memory.usageStats world.now)
    { world with
      memory := { world.memory with usageStats }
      disk := { world.disk with usageStats } }
  else world

inductive Action
  | failure (failure : Failure)
  | used (locked : Bool)
  | clearExpired
  | advance (elapsed : ℚ)

/-- The clock of a world put forward. -/
def World.advanced (world : World) (elapsed : ℚ) : World :=
  { world with now := world.now + elapsed }

/-- One step on the profile. The clock does not go back. -/
def step (world : World) : Action → Option World
  | .failure failure => some (markAuthProfileFailure toLowerCase cfg world failure)
  | .used locked => some (markAuthProfileUsed world locked)
  | .clearExpired => some { world with memory := clearExpiredCooldowns world.memory world.now }
  | .advance elapsed => if 0 ≤ elapsed then some (world.advanced elapsed) else none

/-- A profile that has not been used yet. -/
structure Start (profile : AuthProfileCredential) (world : World) : Prop where
  clock : 0 < world.now
  memory : world.memory = { profile := some profile }
  disk : world.disk = { profile := some profile }

end Operations

end OpenClaw.Auth
