/-
This file is `auth-rate-limit.ts`: failed attempts to authenticate, counted for each scope and
client in a sliding window, and the lockout they lead to.

Every call is given the clock it reads, in milliseconds. The form of an address that the limiter
keeps clients by, and whether it is the loopback address, are left to the address functions. A
lockout ends after the clock it is set at, so the test of `lockedUntil` for being there and the
test for being another number than zero are one.
-/

import OpenClaw.Base.Steps
import OpenClaw.Shared.Text

namespace OpenClaw.RateLimit

open Text

/-- A configuration with positive limits. -/
structure RateLimitConfig where
  maxAttempts : ℕ
  windowMs : ℕ
  lockoutMs : ℕ
  exemptLoopback : Bool
  attempts_pos : 0 < maxAttempts
  window_pos : 0 < windowMs
  lockout_pos : 0 < lockoutMs

structure RateLimitEntry where
  attempts : List ℕ := []
  lockedUntil : Option ℕ := none
  deriving DecidableEq

structure RateLimitCheckResult where
  allowed : Bool
  remaining : ℕ
  retryAfterMs : ℕ
  deriving DecidableEq

/-- What is asked of `net.ts`. -/
structure AddressFunctions where
  resolveClientIp : Option String → Option String
  isLoopbackAddress : String → Bool

/-! ### Clients -/

/-- A client as it calls: its address, and the scope, which may be left out. -/
structure Caller where
  ip : Option String
  scope : Option String
  deriving DecidableEq

/-- A scope and a client, in the form the limiter tells them apart by. -/
structure Pair where
  scope : String
  ip : String
  deriving DecidableEq

def scopeDefault : String := "default"

def browserOriginRateLimitKeyPrefix : String := "browser-origin:"

def normalizeRateLimitClientIp (net : AddressFunctions) (ip : Option String) : String :=
  match ip with
  | some text =>
    if browserOriginRateLimitKeyPrefix.toList.isPrefixOf text.toList then text
    else (net.resolveClientIp ip).getD "unknown"
  | none => (net.resolveClientIp none).getD "unknown"

def normalizeScope (scope : Option String) : String :=
  let trimmed := trim (scope.getD scopeDefault)
  if trimmed = "" then scopeDefault else trimmed

def resolvePair (net : AddressFunctions) (caller : Caller) : Pair :=
  ⟨normalizeScope caller.scope, normalizeRateLimitClientIp net caller.ip⟩

/-- The key of `resolveKey`. -/
def Pair.key (pair : Pair) : String := pair.scope ++ ":" ++ pair.ip

def isExempt (config : RateLimitConfig) (net : AddressFunctions) (ip : String) : Bool :=
  config.exemptLoopback && net.isLoopbackAddress ip

/-! ### The entry of a key -/

section Entries

variable (config : RateLimitConfig) (now : ℕ)

/-- The attempts that have not fallen out of the window. -/
def inWindow (attempts : List ℕ) : List ℕ := attempts.filter (now < · + config.windowMs)

def slideWindow (entry : RateLimitEntry) : RateLimitEntry :=
  { entry with attempts := inWindow config now entry.attempts }

/-- The entry is locked at this time. -/
def RateLimitEntry.Locked (entry : RateLimitEntry) : Prop :=
  ∃ lockedUntil ∈ entry.lockedUntil, now < lockedUntil

instance (entry : RateLimitEntry) : Decidable (entry.Locked now) :=
  inferInstanceAs (Decidable (∃ lockedUntil ∈ entry.lockedUntil, now < lockedUntil))

/-- What `check` answers, and the entry it leaves. -/
def checkEntry : Option RateLimitEntry → RateLimitCheckResult × Option RateLimitEntry
  | none => (⟨true, config.maxAttempts, 0⟩, none)
  | some entry =>
    if entry.Locked now then (⟨false, 0, entry.lockedUntil.getD 0 - now⟩, some entry)
    else
      let cleared := if entry.lockedUntil.isSome then {} else entry
      let slid := slideWindow config now cleared
      let remaining := config.maxAttempts - slid.attempts.length
      (⟨decide (0 < remaining), remaining, 0⟩, some slid)

def recordEntry (found : Option RateLimitEntry) : RateLimitEntry :=
  let entry := found.getD {}
  if entry.Locked now then entry
  else
    let attempts := inWindow config now entry.attempts ++ [now]
    if config.maxAttempts ≤ attempts.length then ⟨attempts, some (now + config.lockoutMs)⟩
    else { entry with attempts := attempts }

def pruneEntry : Option RateLimitEntry → Option RateLimitEntry
  | none => none
  | some entry =>
    if entry.Locked now then some entry
    else
      let slid := slideWindow config now entry
      if slid.attempts.isEmpty then none else some slid

end Entries

/-! ### The limiter -/

inductive Call
  | check (caller : Caller)
  | recordFailure (caller : Caller)
  | reset (caller : Caller)
  | prune
  deriving DecidableEq

structure Limiter where
  entries : String → Option RateLimitEntry := fun _ => none
  /-- The clock of the last call. -/
  now : ℕ := 0
  /-- The calls so far with their times, the last one at the end. -/
  calls : List (ℕ × Call) := []

variable (config : RateLimitConfig) (net : AddressFunctions)

def check (limiter : Limiter) (now : ℕ) (caller : Caller) : RateLimitCheckResult :=
  let pair := resolvePair net caller
  if isExempt config net pair.ip then ⟨true, config.maxAttempts, 0⟩
  else (checkEntry config now (limiter.entries pair.key)).1

/-- The entries behind a call. -/
def entriesAfter (entries : String → Option RateLimitEntry) (now : ℕ) :
    Call → String → Option RateLimitEntry
  | .check caller =>
    let pair := resolvePair net caller
    if isExempt config net pair.ip then entries
    else Function.update entries pair.key (checkEntry config now (entries pair.key)).2
  | .recordFailure caller =>
    let pair := resolvePair net caller
    if isExempt config net pair.ip then entries
    else Function.update entries pair.key (some (recordEntry config now (entries pair.key)))
  | .reset caller => Function.update entries (resolvePair net caller).key none
  | .prune => fun key => pruneEntry config now (entries key)

/-- A call at a time, which is not before that of the call before. -/
def step (limiter : Limiter) (action : ℕ × Call) : Option Limiter :=
  if action.1 < limiter.now then none
  else some {
    entries := entriesAfter config net limiter.entries action.1 action.2
    now := action.1
    calls := limiter.calls ++ [action] }

end OpenClaw.RateLimit
