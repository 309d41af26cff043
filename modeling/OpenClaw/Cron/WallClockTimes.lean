/-
This file says when a wall-clock time without an offset is converted to the instant that has it.

`getTimeZoneOffsetMs` leaves the milliseconds out of the local time but not out of the instant, so
they are missing from the offset. The second lookup is made at an instant that has them twice, and
what this is above a full second is added to the result. Only a time with no milliseconds or with
500 of them can therefore be found again. Besides, `Date.UTC` takes the years 0 to 99 to be 1900
to 1999.
-/

import OpenClaw.Base.Calendar

namespace OpenClaw.Cron

open Calendar

/-! ### The conversion -/

abbrev OffsetlessIsoDateTimeParts := CivilTime

/-- The number that as many digits as asked for begin a text with. -/
def takeNumber (count : ℕ) (text : List Char) : Option (ℤ × List Char) :=
  let digits := text.take count
  if digits.length = count && digits.all Char.isDigit then
    some (digits.foldl (fun number digit => 10 * number + (digit.toNat - '0'.toNat : ℕ)) 0,
      text.drop count)
  else none

def takeChar (char : Char) : List Char → Option (List Char)
  | first :: rest => if first = char then some rest else none
  | [] => none

/-- `OFFSETLESS_ISO_DATETIME_PARTS_RE`, and the numbers of its groups. -/
def parseOffsetlessIsoDateTimeParts (raw : List Char) : Option OffsetlessIsoDateTimeParts := do
  let (year, rest) ← takeNumber 4 raw
  let (month, rest) ← takeChar '-' rest >>= takeNumber 2
  let (day, rest) ← takeChar '-' rest >>= takeNumber 2
  let (hour, rest) ← takeChar 'T' rest >>= takeNumber 2
  let (minute, rest) ← takeChar ':' rest >>= takeNumber 2
  if rest = [] then
    return { year, month, day, hour, minute }
  let (second, rest) ← takeChar ':' rest >>= takeNumber 2
  if rest = [] then
    return { year, month, day, hour, minute, second }
  let fraction ← takeChar '.' rest
  if fraction = [] || !fraction.all Char.isDigit then
    none
  let (millisecond, _) ← takeNumber 3 (fraction ++ ['0', '0'])
  return { year, month, day, hour, minute, second, millisecond }

/-- `new Date(text).getTime()`, and the fields that `Intl.DateTimeFormat` gives for an instant in
the time zone: all but the milliseconds. -/
structure Platform where
  dateTime : List Char → Option ℤ
  formatToParts : ℤ → OffsetlessIsoDateTimeParts

/-- `Date.UTC` of the fields but the milliseconds. -/
def dateUTC (parts : OffsetlessIsoDateTimeParts) : ℤ :=
  CivilTime.utcMs { parts with
    year := if 0 ≤ parts.year ∧ parts.year ≤ 99 then 1900 + parts.year else parts.year
    millisecond := 0 }

section Conversion

variable (platform : Platform)

def getZonedDateTimeParts (utcMs : ℤ) : OffsetlessIsoDateTimeParts :=
  { platform.formatToParts utcMs with millisecond := utcMs % 1000 }

def getTimeZoneOffsetMs (utcMs : ℤ) : ℤ := dateUTC (getZonedDateTimeParts platform utcMs) - utcMs

def matchesOffsetlessIsoDateTimeParts (utcMs : ℤ) (expected : OffsetlessIsoDateTimeParts) : Bool :=
  getZonedDateTimeParts platform utcMs = expected

/-- The instant is not written as a text again, and the time zone is a valid one. -/
def parseOffsetlessIsoDateTimeInTimeZone (raw : List Char) : Option ℤ := do
  let expectedParts ← parseOffsetlessIsoDateTimeParts raw
  let naiveMs ← platform.dateTime (raw ++ ['Z'])
  let firstOffsetMs := getTimeZoneOffsetMs platform naiveMs
  let candidateMs := naiveMs - firstOffsetMs
  let finalOffsetMs := getTimeZoneOffsetMs platform candidateMs
  let resolvedMs := naiveMs - finalOffsetMs
  if matchesOffsetlessIsoDateTimeParts platform resolvedMs expectedParts then some resolvedMs
  else none

end Conversion

/-! ### The property -/

/-- The offset from UTC at each instant, in seconds. Transitions lie more than two days apart. -/
structure TimeZone where
  offset : ℤ → ℤ
  offset_lt : ∀ instant, -86400 < offset instant ∧ offset instant < 86400
  sparse : ∀ first second, first < second → offset (first - 1) ≠ offset first →
    offset (second - 1) ≠ offset second → 172800000 < second - first

namespace TimeZone

variable (zone : TimeZone)

/-- The local time at an instant, as if it were in UTC. -/
def localMs (instant : ℤ) : ℤ := instant + 1000 * zone.offset instant

/-- The local fields at an instant are these. -/
def Shows (instant : ℤ) (fields : CivilTime) : Prop :=
  fields.IsReal ∧ fields.utcMs = zone.localMs instant

/-- The instant is one with these fields, and there is one if there is any. -/
def Converts (fields : CivilTime) : Option ℤ → Prop
  | some instant => zone.Shows instant fields
  | none => ∀ instant, ¬zone.Shows instant fields

/-- How much later `Date.UTC` takes the local time to be: 1900 years in the years 0 to 99, which
are a day more before the March of year 0. -/
def misread (instant : ℤ) : ℤ :=
  let ms := zone.localMs instant
  if monthMs 0 1 ≤ ms ∧ ms < monthMs 100 1 then
    (if ms < monthMs 0 3 then 693961 else 693960) * 86400000
  else 0

/-- Where the offset is looked up for the second time: the instant at which it would be this time
if the offset was the one at this time in UTC, and the milliseconds later. -/
def probe (fields : CivilTime) : ℤ :=
  fields.utcMs - 1000 * zone.offset fields.utcMs + fields.millisecond -
    zone.misread fields.utcMs

/-- No instant has the fields; or they have 0 or 500 milliseconds, and the offset looked up is that
of an instant which has them, and no year of the first century is in the way. -/
def ConvertsWhen (fields : CivilTime) : Prop :=
  (∀ instant, ¬zone.Shows instant fields) ∨
    (fields.millisecond = 0 ∨ fields.millisecond = 500) ∧ zone.misread (zone.probe fields) = 0 ∧
      ∃ instant, zone.Shows instant fields ∧ zone.offset (zone.probe fields) = zone.offset instant

/-- The years are late enough, and there are no milliseconds or no transition in the half second
in which they are added. -/
def Plain (fields : CivilTime) : Prop :=
  101 ≤ fields.year ∧ (fields.millisecond = 0 ∨ fields.millisecond = 500) ∧
    zone.offset (zone.probe fields) = zone.offset (zone.probe fields - fields.millisecond)

end TimeZone

/-- What is known of `Date` and `Intl`: a real date is read as what it says, and the fields of an
instant are those of its local time. -/
structure Platform.Reports (platform : Platform) (zone : TimeZone) : Prop where
  dateTime : ∀ raw fields, parseOffsetlessIsoDateTimeParts raw = some fields → fields.IsReal →
    platform.dateTime (raw ++ ['Z']) = some fields.utcMs
  parts : ∀ instant, zone.Shows instant (getZonedDateTimeParts platform instant)

section Proof

variable {zone : TimeZone} {platform : Platform} (reports : platform.Reports zone)

/-! ### What is looked up -/

theorem shift_century {index : ℤ} (early : -2 ≤ index ∧ index < 1198) :
    monthStart (index + 12 * 1900) =
      monthStart index + if index < 0 then 693961 else 693960 := by
  unfold monthStart
  rw [Int.add_mul_emod_self_left, Int.add_mul_ediv_left _ _ (by decide)]
  split <;> omega

theorem dateUTC_eq {parts : OffsetlessIsoDateTimeParts} (isReal : parts.IsReal) :
    dateUTC parts = parts.utcMs - parts.millisecond +
      if monthMs 0 1 ≤ parts.utcMs ∧ parts.utcMs < monthMs 100 1 then
        (if parts.utcMs < monthMs 0 3 then 693961 else 693960) * 86400000
      else 0 := by
  simp only [← @not_lt _ _ parts.utcMs, isReal.lt_monthMs_iff]
  have month := isReal.month
  unfold dateUTC CivilTime.utcMs
  dsimp only
  by_cases early : 0 ≤ parts.year ∧ parts.year ≤ 99
  · have shifted := @shift_century (12 * parts.year + parts.month - 3) (by omega)
    rw [if_pos early, if_pos (by omega), show 12 * (1900 + parts.year) + parts.month - 3 =
      12 * parts.year + parts.month - 3 + 12 * 1900 by ring, shifted]
    split <;> split <;> omega
  · rw [if_neg early, if_neg (by omega)]
    ring

include reports

theorem matches_iff {instant : ℤ} {fields : CivilTime} :
    matchesOffsetlessIsoDateTimeParts platform instant fields = true ↔
      zone.Shows instant fields := by
  unfold matchesOffsetlessIsoDateTimeParts
  rw [decide_eq_true_eq]
  have shows := reports.parts instant
  refine ⟨fun same => same ▸ shows, fun isShown => ?_⟩
  exact CivilTime.utcMs_injOn shows.1 isShown.1 (shows.2.trans isShown.2.symm)

/-- The offset without the milliseconds. -/
theorem getTimeZoneOffsetMs_eq (instant : ℤ) :
    getTimeZoneOffsetMs platform instant =
      1000 * zone.offset instant - instant % 1000 + zone.misread instant := by
  obtain ⟨isReal, isLocal⟩ := reports.parts instant
  rw [getTimeZoneOffsetMs, dateUTC_eq isReal, isLocal]
  unfold TimeZone.misread TimeZone.localMs getZonedDateTimeParts
  dsimp only
  ring

/-! ### Where the condition comes from -/

theorem shows_of_converted {raw : List Char} {fields : CivilTime} {instant : ℤ}
    (parsed : parseOffsetlessIsoDateTimeParts raw = some fields)
    (converted : parseOffsetlessIsoDateTimeInTimeZone platform raw = some instant) :
    zone.Shows instant fields := by
  unfold parseOffsetlessIsoDateTimeInTimeZone at converted
  rw [parsed, Option.bind_eq_bind, Option.bind_some] at converted
  obtain ⟨naiveMs, -, isResolved⟩ := Option.bind_eq_some_iff.1 converted
  obtain ⟨isMatch, isInstant⟩ := Option.ite_none_right_eq_some.1 isResolved
  exact Option.some.inj isInstant ▸ (matches_iff reports).1 isMatch

/-- The instant that is tried for a real date. -/
theorem converted_eq {raw : List Char} {fields : CivilTime}
    (parsed : parseOffsetlessIsoDateTimeParts raw = some fields) (isReal : fields.IsReal) :
    let resolvedMs := fields.utcMs - (1000 * zone.offset (zone.probe fields) -
      zone.probe fields % 1000 + zone.misread (zone.probe fields))
    parseOffsetlessIsoDateTimeInTimeZone platform raw =
      if matchesOffsetlessIsoDateTimeParts platform resolvedMs fields then some resolvedMs
      else none := by
  have isProbe : fields.utcMs - getTimeZoneOffsetMs platform fields.utcMs = zone.probe fields := by
    rw [getTimeZoneOffsetMs_eq reports, isReal.utcMs_emod]
    unfold TimeZone.probe
    ring
  unfold parseOffsetlessIsoDateTimeInTimeZone
  rw [parsed, Option.bind_eq_bind, Option.bind_some, reports.dateTime raw fields parsed isReal,
    Option.bind_eq_bind, Option.bind_some]
  dsimp only
  rw [isProbe, getTimeZoneOffsetMs_eq reports]

omit reports in
theorem misread_days (instant : ℤ) :
    ∃ days, zone.misread instant = days * 86400000 ∧ (days = 0 ∨ 693960 ≤ days) := by
  unfold TimeZone.misread
  dsimp only
  split
  · split
    · exact ⟨693961, rfl, by decide⟩
    · exact ⟨693960, rfl, by decide⟩
  · exact ⟨0, rfl, .inl rfl⟩

/-- What is converted is converted exactly where the offset is looked up at the right side. -/
theorem converts_iff {raw : List Char} {fields : CivilTime}
    (parsed : parseOffsetlessIsoDateTimeParts raw = some fields) :
    zone.Converts fields (parseOffsetlessIsoDateTimeInTimeZone platform raw) ↔
      zone.ConvertsWhen fields := by
  by_cases absent : ∀ instant, ¬zone.Shows instant fields
  · refine iff_of_true ?_ (.inl absent)
    cases converted : parseOffsetlessIsoDateTimeInTimeZone platform raw with
    | none => exact absent
    | some instant => exact absurd (shows_of_converted reports parsed converted) (absent instant)
  obtain ⟨shown, isShown⟩ := not_forall_not.1 absent
  have isConverted := converted_eq reports parsed isShown.1
  have isMillisecond := isShown.1.utcMs_emod
  obtain ⟨days, isMisread, many⟩ := @misread_days zone (zone.probe fields)
  obtain ⟨daysBefore, wasMisread, -⟩ := @misread_days zone fields.utcMs
  have isProbe : zone.probe fields = fields.utcMs - 1000 * zone.offset fields.utcMs +
    fields.millisecond - zone.misread fields.utcMs := rfl
  constructor
  · intro converts
    cases converted : parseOffsetlessIsoDateTimeInTimeZone platform raw with
    | none =>
      rw [converted] at converts
      exact absurd isShown (converts shown)
    | some instant =>
      have shows := shows_of_converted reports parsed converted
      have isLocal : fields.utcMs = instant + 1000 * zone.offset instant := shows.2
      rw [isConverted] at converted
      obtain ⟨-, isInstant⟩ := Option.ite_none_right_eq_some.1 converted
      have isInstant := Option.some.inj isInstant
      have bounds := zone.offset_lt instant
      have probeBounds := zone.offset_lt (zone.probe fields)
      refine .inr ⟨?_, ?_, instant, shows, ?_⟩ <;> omega
  · rintro (none | ⟨half, read, instant, shows, same⟩)
    · exact absurd isShown (none shown)
    have isLocal : fields.utcMs = instant + 1000 * zone.offset instant := shows.2
    have isInstant : fields.utcMs - (1000 * zone.offset (zone.probe fields) -
        zone.probe fields % 1000 + zone.misread (zone.probe fields)) = instant := by omega
    rw [isConverted, isInstant, if_pos ((matches_iff reports).2 shows)]
    exact shows

end Proof

/-! ### Late years without milliseconds -/

namespace TimeZone

variable (zone : TimeZone)

theorem exists_transition {first last : ℤ} (ordered : first ≤ last)
    (apart : zone.offset first ≠ zone.offset last) :
    ∃ instant, first < instant ∧ instant ≤ last ∧
      zone.offset (instant - 1) ≠ zone.offset instant := by
  induction last, ordered using Int.leInduction with
  | base => exact absurd rfl apart
  | succ last ordered inductionHypothesis =>
    by_cases same : zone.offset last = zone.offset (last + 1)
    · obtain ⟨instant, after, before, changes⟩ := inductionHypothesis (same ▸ apart)
      exact ⟨instant, after, by omega, changes⟩
    · exact ⟨last + 1, by omega, le_rfl, by rwa [add_sub_cancel_right]⟩

theorem steady_of_le {first second third : ℤ} (ordered : first ≤ second) (next : second ≤ third)
    (near : third - first ≤ 172800000) :
    zone.offset first = zone.offset second ∨ zone.offset second = zone.offset third := by
  by_contra changes
  obtain ⟨firstChange, secondChange⟩ := not_or.1 changes
  obtain ⟨one, after, before, changesOne⟩ := zone.exists_transition ordered firstChange
  obtain ⟨other, later, last, changesOther⟩ := zone.exists_transition next secondChange
  have far := zone.sparse one other (by omega) changesOne changesOther
  omega

/-- Three instants within two days have two offsets at most. -/
theorem two_offsets {first second third : ℤ} (one : |first - second| ≤ 172800000)
    (two : |second - third| ≤ 172800000) (three : |first - third| ≤ 172800000) :
    zone.offset first = zone.offset second ∨ zone.offset second = zone.offset third ∨
      zone.offset first = zone.offset third := by
  rw [abs_le] at one two three
  rcases le_total first second with a | a <;> rcases le_total second third with b | b <;>
    rcases le_total first third with c | c
  all_goals grind [steady_of_le]

theorem misread_of_late {instant : ℤ} (late : monthMs 100 1 ≤ zone.localMs instant) :
    zone.misread instant = 0 := if_neg fun early => absurd early.2 (not_lt.2 late)

theorem Plain.converts {fields : CivilTime} (plain : zone.Plain fields) :
    zone.ConvertsWhen fields := by
  obtain ⟨late, half, steady⟩ := plain
  by_cases absent : ∀ instant, ¬zone.Shows instant fields
  · exact .inl absent
  obtain ⟨shown, isReal, isLocal⟩ := not_forall_not.1 absent
  have isLate : monthMs 101 1 ≤ fields.utcMs := by
    rw [← not_lt, isReal.lt_monthMs_iff]
    have month := isReal.month
    omega
  have years : monthMs 101 1 = monthMs 100 1 + 365 * 86400000 := by decide
  have bounds := zone.offset_lt fields.utcMs
  have shownBounds := zone.offset_lt shown
  have probeBounds := zone.offset_lt (zone.probe fields)
  have isProbe : zone.probe fields =
      fields.utcMs - 1000 * zone.offset fields.utcMs + fields.millisecond := by
    unfold probe
    rw [zone.misread_of_late (by unfold localMs; omega), sub_zero]
  rw [isProbe, add_sub_cancel_right, ← isProbe] at steady
  refine .inr ⟨half, zone.misread_of_late (by unfold localMs; omega), ?_⟩
  unfold localMs at isLocal
  rcases @two_offsets zone fields.utcMs shown (fields.utcMs - 1000 * zone.offset fields.utcMs)
    (abs_le.2 (by omega)) (abs_le.2 (by omega)) (abs_le.2 (by omega)) with same | same | same
  · refine ⟨shown, ⟨isReal, isLocal⟩, steady.trans (congrArg zone.offset ?_)⟩
    omega
  · exact ⟨shown, ⟨isReal, isLocal⟩, steady.trans same.symm⟩
  · refine ⟨_, ⟨isReal, ?_⟩, steady⟩
    unfold localMs
    omega

end TimeZone

/-- A time without an offset is converted to an instant that has it, if there is one, exactly where
the offset is looked up at the right side of every transition. It always is in late years if there
are no milliseconds. -/
theorem wall_clock_converts {zone : TimeZone} {platform : Platform}
    (reports : platform.Reports zone) {raw : List Char} {fields : OffsetlessIsoDateTimeParts}
    (parsed : parseOffsetlessIsoDateTimeParts raw = some fields) :
    (zone.Converts fields (parseOffsetlessIsoDateTimeInTimeZone platform raw) ↔
        zone.ConvertsWhen fields) ∧
      (zone.Plain fields → zone.ConvertsWhen fields) ∧
      (101 ≤ fields.year → fields.millisecond = 0 → zone.Plain fields) := by
  refine ⟨converts_iff reports parsed, fun plain => plain.converts, fun late none => ?_⟩
  exact ⟨late, .inl none, by rw [none, sub_zero]⟩

/-! ### Two times in UTC -/

/-- A platform that knows the zone. -/
noncomputable def TimeZone.platform (zone : TimeZone) : Platform where
  dateTime text := (parseOffsetlessIsoDateTimeParts text.dropLast).map CivilTime.utcMs
  formatToParts instant := (CivilTime.exists_time (zone.localMs instant)).choose

theorem TimeZone.platform_reports (zone : TimeZone) : zone.platform.Reports zone where
  dateTime raw fields parsed _ := by
    unfold TimeZone.platform
    dsimp only
    rw [List.dropLast_concat, parsed, Option.map_some]
  parts instant := by
    obtain ⟨isReal, isLocal⟩ := (CivilTime.exists_time (zone.localMs instant)).choose_spec
    have isMillisecond := isReal.utcMs_emod
    rw [isLocal, TimeZone.localMs, Int.add_mul_emod_self_left] at isMillisecond
    unfold getZonedDateTimeParts TimeZone.platform
    dsimp only
    rw [isMillisecond]
    exact ⟨isReal, isLocal⟩

def utc : TimeZone where
  offset _ := 0
  offset_lt _ := by decide
  sparse _ _ _ changes := absurd rfl changes

theorem noon_converts :
    utc.Converts { year := 2026, month := 1, day := 15, hour := 12 }
      (parseOffsetlessIsoDateTimeInTimeZone utc.platform "2026-01-15T12:00:00".toList) := by
  obtain ⟨converts, plain, late⟩ := @wall_clock_converts utc utc.platform utc.platform_reports
    "2026-01-15T12:00:00".toList { year := 2026, month := 1, day := 15, hour := 12 } (by decide)
  exact converts.2 (plain (late (by decide) rfl))

/-- With milliseconds it is not converted, although an instant has it. -/
theorem noon_with_milliseconds_is_lost :
    ¬utc.Converts { year := 2026, month := 1, day := 15, hour := 12, millisecond := 123 }
      (parseOffsetlessIsoDateTimeInTimeZone utc.platform "2026-01-15T12:00:00.123".toList) := by
  rw [converts_iff utc.platform_reports (by decide)]
  rintro (none | ⟨half, -⟩)
  · refine none 1768478400123 ⟨?_, by decide⟩
    constructor <;> decide
  · revert half
    decide

end OpenClaw.Cron
