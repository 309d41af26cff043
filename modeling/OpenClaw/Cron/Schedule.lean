/-
This file is the schedules of cron jobs: at a time, every so often, or by a cron expression, and
when a schedule runs next after a time or has run last before it.

Times are milliseconds since the epoch. Numbers of a schedule may be stored as texts. The search of
the croner package, the calendar, `Number` and the hash are taken as they come. What is thrown is
kept as its text.
-/

import OpenClaw.Base.Answers
import OpenClaw.Shared.Text

namespace OpenClaw.Cron

open Text

/-! ### What is used from outside -/

/-- A `Cron` of the croner package. An invalid date is no date, and both searches may throw. -/
structure Croner where
  nextRun : ℤ → Except String (Option ℤ)
  /-- The first of `previousRuns(1, date)`. -/
  previousRun : ℤ → Except String (Option ℤ)

structure Externals where
  /-- `new Cron(expr, { timezone, catch: false })`, by expression and time zone. -/
  newCron : String → String → Except String Croner
  /-- The time zone of the process. -/
  timeZone : String
  /-- `Date.parse`, where it is finite. -/
  dateParse : String → Option ℤ
  /-- `Number` of a text, where it is finite. -/
  toNumber : String → Option ℚ
  /-- The first four bytes of the SHA-256 digest. -/
  digest : String → ℕ

/-! ### Schedules -/

/-- A number of a schedule, as it is stored. -/
inductive ScheduleNumber
  | number (value : ℚ)
  | text (value : String)
  deriving DecidableEq

/-- A time of a one-shot schedule in its legacy form. -/
inductive LegacyTime
  | number (ms : ℤ)
  | text (raw : String)
  deriving DecidableEq

inductive CronSchedule
  | at' (atMs : Option LegacyTime) (time : Option String)
  | every (everyMs anchorMs : Option ScheduleNumber)
  /-- With its expression, which a legacy job keeps in another field. -/
  | cron (expr legacyExpr tz : Option String) (staggerMs : Option ScheduleNumber)
  deriving DecidableEq

def CronSchedule.isAt : CronSchedule → Bool
  | .at' _ _ => true
  | _ => false

def CronSchedule.isEvery : CronSchedule → Bool
  | .every _ _ => true
  | _ => false

def CronSchedule.isCron : CronSchedule → Bool
  | .cron _ _ _ _ => true
  | _ => false

/-! ### Times -/

def nextSecondMs (nowMs : ℤ) : ℤ := nowMs / 1000 * 1000 + 1000

/-- The start of the next day in UTC. -/
def tomorrowMs (nowMs : ℤ) : ℤ := nowMs / 86400000 * 86400000 + 86400000

theorem lt_nextSecondMs (nowMs : ℤ) : nowMs < nextSecondMs nowMs := by
  unfold nextSecondMs
  omega

/-- Whether a reversed text starts with the digits and the sign of a time zone. -/
def isReversedZone : List Char → Bool
  | d :: c :: ':' :: b :: a :: sign :: _ =>
    [a, b, c, d].all Char.isDigit && (sign = '+' || sign = '-')
  | d :: c :: b :: a :: sign :: _ => [a, b, c, d].all Char.isDigit && (sign = '+' || sign = '-')
  | _ => false

def hasZone (raw : List Char) : Bool :=
  raw.getLast?.any (fun last => last = 'Z' || last = 'z') || isReversedZone raw.reverse

/-- What follows a date, where a text starts with one. -/
def afterDate : List Char → Option (List Char)
  | y :: e :: a :: r :: '-' :: m :: o :: '-' :: d :: day :: rest =>
    if [y, e, a, r, m, o, d, day].all Char.isDigit then some rest else none
  | _ => none

/-- `normalizeUtcIso`: a time without a zone is one in UTC. -/
def normalizeUtcIso (raw : String) : String :=
  if hasZone raw.toList then raw
  else match afterDate raw.toList with
    | some [] => raw ++ "T00:00:00Z"
    | some ('T' :: _) => raw ++ "Z"
    | _ => raw

/-- The numbers from which on `Number` is not finite. -/
def numberLimit : ℕ := 2 ^ 1024 - 2 ^ 970

/-- The number that digits write. -/
def digitsValue (digits : List Char) : ℕ :=
  digits.foldl (fun value digit => 10 * value + (digit.toNat - '0'.toNat)) 0

variable (externals : Externals)

def parseAbsoluteTimeMs (input : String) : Option ℤ :=
  let raw := trim input
  if raw = "" then none
  else if raw.toList.all Char.isDigit && 0 < digitsValue raw.toList &&
      digitsValue raw.toList < numberLimit then
    some (digitsValue raw.toList)
  else externals.dateParse (normalizeUtcIso raw)

/-- The time of a one-shot schedule. -/
def resolveAtMs (atMs : Option LegacyTime) (time : Option String) : Option ℤ :=
  match atMs with
  | some (.number ms) => if 0 < ms then some ms else time.bind (parseAbsoluteTimeMs externals)
  | some (.text raw) => parseAbsoluteTimeMs externals raw
  | none => time.bind (parseAbsoluteTimeMs externals)

def coerceFiniteScheduleNumber : Option ScheduleNumber → Option ℚ
  | some (.number value) => some value
  | some (.text value) =>
    let trimmed := trim value
    if trimmed = "" then none else externals.toNumber trimmed
  | none => none

/-! ### Next and previous runs -/

/-- The interval of a schedule, as it is used. -/
def wholeEveryMs (everyMs : ℚ) : ℤ := max 1 ⌊everyMs⌋

/-- The time of a grid that comes next, from its anchor on. -/
def nextOnGrid (anchor everyMs nowMs : ℤ) : ℤ :=
  if nowMs < anchor then anchor
  else anchor + max 1 ((nowMs - anchor + everyMs - 1) / everyMs) * everyMs

def resolveCronTimezone (tz : Option String) : String :=
  (normalizeOptionalString tz).getD externals.timeZone

def resolveCronFromSchedule (expr legacyExpr tz : Option String) :
    Except String (Option Croner) :=
  match expr.or legacyExpr with
  | none => .error "Error: invalid cron schedule: expr is required"
  | some source =>
    if trim source = "" then .ok none
    else (externals.newCron (trim source) (resolveCronTimezone externals tz)).map some

/-- The next run that croner reports. Where that is not in the future, the search is repeated
from the next second, and then from the next day. -/
def nextCronRun (croner : Croner) (nowMs : ℤ) : Except String (Option ℤ) := do
  match ← croner.nextRun nowMs with
  | none => pure none
  | some nextMs =>
    if nextMs ≤ nowMs then
      match (← croner.nextRun (nextSecondMs nowMs)).filter (nowMs < ·) with
      | some retryMs => pure (some retryMs)
      | none => pure ((← croner.nextRun (tomorrowMs nowMs)).filter (nowMs < ·))
    else pure (some nextMs)

def computeNextRunAtMs (schedule : CronSchedule) (nowMs : ℤ) : Except String (Option ℤ) :=
  match schedule with
  | .at' atMs time => .ok ((resolveAtMs externals atMs time).filter (nowMs < ·))
  | .every everyMs anchorMs =>
    match coerceFiniteScheduleNumber externals everyMs with
    | none => .ok none
    | some everyMs =>
      let anchor := ((coerceFiniteScheduleNumber externals anchorMs).map Int.floor).getD nowMs
      .ok (some (nextOnGrid (max 0 anchor) (wholeEveryMs everyMs) nowMs))
  | .cron expr legacyExpr tz _ => do
    match ← resolveCronFromSchedule externals expr legacyExpr tz with
    | none => pure none
    | some croner => nextCronRun croner nowMs

def computePreviousRunAtMs (schedule : CronSchedule) (nowMs : ℤ) : Except String (Option ℤ) :=
  match schedule with
  | .cron expr legacyExpr tz _ => do
    match ← resolveCronFromSchedule externals expr legacyExpr tz with
    | none => pure none
    | some croner => pure ((← croner.previousRun nowMs).filter (· < nowMs))
  | _ => .ok none

/-! ### Staggering -/

def DEFAULT_TOP_OF_HOUR_STAGGER_MS : ℤ := 5 * 60 * 1000

/-- `parseCronFields`. -/
def parseCronFields (expr : String) : List (List Char) :=
  (expr.toList.splitOnP isWhiteSpace).filter (· ≠ [])

def isRecurringTopOfHourCronExpr (expr : String) : Bool :=
  match parseCronFields expr with
  | [minuteField, hourField, _, _, _] => minuteField = ['0'] && '*' ∈ hourField
  | [secondField, minuteField, hourField, _, _, _] =>
    secondField = ['0'] && minuteField = ['0'] && '*' ∈ hourField
  | _ => false

def normalizeCronStaggerMs (raw : Option ScheduleNumber) : Option ℤ :=
  let numeric := match raw with
    | some (.number value) => some value
    | some (.text value) => if trim value = "" then none else externals.toNumber value
    | none => none
  numeric.map fun numeric => max 0 ⌊numeric⌋

def resolveDefaultCronStaggerMs (expr : String) : Option ℤ :=
  if isRecurringTopOfHourCronExpr expr then some DEFAULT_TOP_OF_HOUR_STAGGER_MS else none

def resolveCronStaggerMs (expr : Option String) (staggerMs : Option ScheduleNumber) : ℤ :=
  (normalizeCronStaggerMs externals staggerMs).getD
    ((resolveDefaultCronStaggerMs (expr.getD "")).getD 0)

/-- `resolveStableCronOffsetMs`. -/
def resolveStableCronOffsetMs (jobId : String) (staggerMs : ℤ) : ℤ :=
  if staggerMs ≤ 1 then 0 else (externals.digest jobId : ℤ) % staggerMs

theorem resolveStableCronOffsetMs_nonneg (jobId : String) (staggerMs : ℤ) :
    0 ≤ resolveStableCronOffsetMs externals jobId staggerMs := by
  unfold resolveStableCronOffsetMs
  split
  · exact le_rfl
  · exact Int.emod_nonneg _ (by omega)

end OpenClaw.Cron
