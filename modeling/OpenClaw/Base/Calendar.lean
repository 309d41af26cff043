/-
The proleptic Gregorian calendar. The months are counted from the March of year 0, so that the
leap day is the last day of its year and the lengths of the months before it follow one formula.
The days before a month increase with it, and by its length: every instant has one civil time.
-/

import Mathlib.Tactic

namespace OpenClaw.Calendar

structure CivilTime where
  year : ℤ
  month : ℤ
  day : ℤ
  hour : ℤ := 0
  minute : ℤ := 0
  second : ℤ := 0
  millisecond : ℤ := 0
deriving DecidableEq

def monthLength (year month : ℤ) : ℤ :=
  if month = 2 then
    if year % 4 = 0 ∧ (year % 100 ≠ 0 ∨ year % 400 = 0) then 29 else 28
  else if month = 4 ∨ month = 6 ∨ month = 9 ∨ month = 11 then 30
  else 31

/-- The days from 1970-01-01 to the first of a month. -/
def monthStart (index : ℤ) : ℤ :=
  365 * (index / 12) + index / 12 / 4 - index / 12 / 100 + index / 12 / 400 +
    (153 * (index % 12) + 2) / 5 - 719468

/-- The milliseconds from 1970-01-01 to the beginning of a month. -/
def monthMs (year month : ℤ) : ℤ := monthStart (12 * year + month - 3) * 86400000

namespace CivilTime

/-- The milliseconds from 1970-01-01 to a time in UTC. -/
def utcMs (time : CivilTime) : ℤ :=
  (monthStart (12 * time.year + time.month - 3) + time.day - 1) * 86400000 +
    time.hour * 3600000 + time.minute * 60000 + time.second * 1000 + time.millisecond

structure IsReal (time : CivilTime) : Prop where
  month : 1 ≤ time.month ∧ time.month ≤ 12
  day : 1 ≤ time.day ∧ time.day ≤ monthLength time.year time.month
  hour : 0 ≤ time.hour ∧ time.hour < 24
  minute : 0 ≤ time.minute ∧ time.minute < 60
  second : 0 ≤ time.second ∧ time.second < 60
  millisecond : 0 ≤ time.millisecond ∧ time.millisecond < 1000

end CivilTime

theorem monthStart_succ {year month : ℤ} (isMonth : 1 ≤ month ∧ month ≤ 12) :
    monthStart (12 * year + month - 3 + 1) =
      monthStart (12 * year + month - 3) + monthLength year month := by
  obtain ⟨first, last⟩ := isMonth
  unfold monthStart monthLength
  interval_cases month <;> norm_num <;> omega

theorem monthStart_lt_succ (index : ℤ) : monthStart index + 28 ≤ monthStart (index + 1) := by
  have isIndex : index = 12 * ((index + 2) / 12) + ((index + 2) % 12 + 1) - 3 := by omega
  have next := @monthStart_succ ((index + 2) / 12) ((index + 2) % 12 + 1) (by omega)
  rw [← isIndex] at next
  rw [next, add_le_add_iff_left]
  unfold monthLength
  split
  · split <;> norm_num
  · split <;> norm_num

theorem monthStart_strictMono : StrictMono monthStart :=
  strictMono_int_of_lt_succ fun index => by
    have later := monthStart_lt_succ index
    omega

/-- Every day belongs to a month. -/
theorem exists_month (day : ℤ) :
    ∃ index, monthStart index ≤ day ∧ day < monthStart (index + 1) := by
  have above (index : ℤ) (late : 0 ≤ index) : index - 719500 ≤ monthStart index := by
    unfold monthStart
    omega
  have below (index : ℤ) (early : index ≤ 0) : monthStart index ≤ index - 719400 := by
    unfold monthStart
    omega
  obtain ⟨index, isBefore, latest⟩ := @Int.exists_greatest_of_bdd (monthStart · ≤ day)
    ⟨max 0 (day + 719500), fun index before => by have := above index; omega⟩
    ⟨min 0 (day + 719400), (below _ (min_le_left _ _)).trans (by omega)⟩
  refine ⟨index, isBefore, lt_of_not_ge fun later => ?_⟩
  exact absurd (latest _ later) (by omega)

/-- A day belongs to no other month. -/
theorem month_unique {index other day : ℤ} (inIndex : monthStart index ≤ day)
    (before : day < monthStart (index + 1)) (inOther : monthStart other ≤ day)
    (otherBefore : day < monthStart (other + 1)) : index = other := by
  have least := monthStart_strictMono.lt_iff_lt.1 (inIndex.trans_lt otherBefore)
  have greatest := monthStart_strictMono.lt_iff_lt.1 (inOther.trans_lt before)
  omega

namespace CivilTime

/-- A real date lies in its month. -/
theorem IsReal.inMonth {time : CivilTime} (isReal : time.IsReal) :
    monthStart (12 * time.year + time.month - 3) + time.day - 1 <
      monthStart (12 * time.year + time.month - 3 + 1) := by
  have := isReal.day.2
  rw [monthStart_succ isReal.month]
  omega

theorem IsReal.lt_monthMs_iff {time : CivilTime} (isReal : time.IsReal) {year month : ℤ} :
    time.utcMs < monthMs year month ↔ 12 * time.year + time.month < 12 * year + month := by
  have inMonth := isReal.inMonth
  obtain ⟨_, day, hour, minute, second, millisecond⟩ := isReal
  unfold utcMs monthMs
  constructor
  · intro before
    by_contra later
    have := monthStart_strictMono.monotone
      (show 12 * year + month - 3 ≤ 12 * time.year + time.month - 3 by omega)
    omega
  · intro before
    have := monthStart_strictMono.monotone
      (show 12 * time.year + time.month - 3 + 1 ≤ 12 * year + month - 3 by omega)
    omega

theorem IsReal.utcMs_emod {time : CivilTime} (isReal : time.IsReal) :
    time.utcMs % 1000 = time.millisecond := by
  have bounds := isReal.millisecond
  unfold utcMs
  omega

/-- Two times of one instant are one. -/
theorem utcMs_injOn : Set.InjOn utcMs {time | time.IsReal} := by
  intro first isFirst second isSecond same
  obtain ⟨month, day, hour, minute, second', millisecond⟩ := id isFirst
  obtain ⟨month', day', hour', minute', second'', millisecond'⟩ := id isSecond
  unfold utcMs at same
  have sameDay : monthStart (12 * first.year + first.month - 3) + first.day - 1 =
      monthStart (12 * second.year + second.month - 3) + second.day - 1 := by omega
  have inFirst := isFirst.inMonth
  have inSecond := isSecond.inMonth
  have sameMonth : 12 * first.year + first.month - 3 = 12 * second.year + second.month - 3 :=
    month_unique (by omega) inFirst (by omega) (by omega)
  rw [sameMonth] at sameDay
  obtain ⟨_, _, _, _, _, _, _⟩ := first
  obtain ⟨_, _, _, _, _, _, _⟩ := second
  simp only [mk.injEq]
  dsimp only at *
  refine ⟨?_, ?_, ?_, ?_, ?_, ?_, ?_⟩ <;> omega

/-- Every instant has a time. -/
theorem exists_time (instant : ℤ) : ∃ time : CivilTime, time.IsReal ∧ time.utcMs = instant := by
  obtain ⟨index, isAfter, isBefore⟩ := exists_month (instant / 86400000)
  have isIndex : 12 * ((index + 2) / 12) + ((index + 2) % 12 + 1) - 3 = index := by omega
  have next := @monthStart_succ ((index + 2) / 12) ((index + 2) % 12 + 1) (by omega)
  rw [isIndex] at next
  refine ⟨⟨(index + 2) / 12, (index + 2) % 12 + 1, instant / 86400000 - monthStart index + 1,
    instant / 3600000 % 24, instant / 60000 % 60, instant / 1000 % 60, instant % 1000⟩, ?_, ?_⟩
  · constructor <;> dsimp only <;> omega
  · unfold utcMs
    dsimp only
    rw [isIndex]
    omega

end CivilTime

end OpenClaw.Calendar
