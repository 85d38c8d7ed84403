import Keyspace.Journal.Timestamp

/-!
# Times that can be written

A time can be written when its year is one of those from 1 to 9999. Days are counted in cycles of 400
years, so the bounds are found by telling the first and the last year of a cycle apart from the others,
`year_ofNumber_iff`; `exists_write_iff` says them in microseconds.
-/

namespace Keyspace.Journal.Timestamp

section Cycle

variable {day year : Int} (inCycle : 0 ≤ day ∧ day ≤ 146096)
  (isYear : (day - day / 1460 + day / 36524 - day / 146096) / 365 = year)
include inCycle isYear

private theorem yearOfCycle_bounds : 0 ≤ year ∧ year ≤ 399 := by
  rcases Int.lt_or_le day 146000 with early | late
  · omega
  · have leapDays : day / 1460 = 100 := by omega
    omega

private theorem yearOfCycle_eq_first_iff : year = 0 ↔ day ≤ 364 := by
  omega

private theorem yearOfCycle_eq_last_iff : year = 399 ↔ 145731 ≤ day := by
  rcases Int.lt_or_le day 145000 with early | late <;> omega

end Cycle

/-- The year of a day is one of those from 1 to 9999 when the day is not before the first of January of
the year 1, nor behind the last of December of the year 9999. -/
theorem year_ofNumber_iff (number : Int) :
    1 ≤ (Day.ofNumber number).year ∧ (Day.ofNumber number).year ≤ 9999 ↔
      -719162 ≤ number ∧ number ≤ 2932896 := by
  simp only [Day.ofNumber]
  generalize isCycle : (number + 719468) / 146097 = cycle
  generalize isDay : (number + 719468) % 146097 = day
  have inCycle : 0 ≤ day ∧ day ≤ 146096 := by omega
  obtain rfl : number = 146097 * cycle + day - 719468 := by omega
  clear isCycle isDay
  generalize isYear : (day - day / 1460 + day / 36524 - day / 146096) / 365 = year
  have bounds := yearOfCycle_bounds inCycle isYear
  have isFirst := yearOfCycle_eq_first_iff inCycle isYear
  have isLast := yearOfCycle_eq_last_iff inCycle isYear
  clear isYear
  generalize isMonth : (5 * (day - (365 * year + year / 4 - year / 100)) + 2) / 153 = month
  -- January and February belong to the next year. That matters in the year in front of the year 1,
  -- which starts a cycle, and in the last one, which ends a cycle.
  rcases (by omega : year = 0 ∨ year = 399 ∨ (0 < year ∧ year < 399)) with rfl | rfl | within
  · omega
  · omega
  · clear isMonth
    omega

/-- The first microsecond of the year 1. -/
def calendarStart : Int := -62135596800000000

/-- The first microsecond of the year 10000. -/
def calendarEnd : Int := 253402300800000000

/-- A number of microseconds can be written when it is in the years from 1 to 9999. -/
theorem exists_ofMicros_iff (moment : Int) :
    (∃ text, ofMicros moment = .ok text) ↔ calendarStart ≤ moment ∧ moment < calendarEnd := by
  have bounds := year_ofNumber_iff (moment / microsPerSecond / secondsPerDay)
  have sameBounds : (-719162 ≤ moment / microsPerSecond / secondsPerDay ∧
      moment / microsPerSecond / secondsPerDay ≤ 2932896) ↔
        calendarStart ≤ moment ∧ moment < calendarEnd := by
    simp only [microsPerSecond, secondsPerDay, calendarStart, calendarEnd]
    omega
  rw [← sameBounds, ← bounds]
  simp only [ofMicros]
  split
  · next within => simp [within]
  · next outside => simp [outside]

/-- A time is a number of seconds in one of the years from 1 to 9999. -/
def IsInCalendar (time : Document) : Prop :=
  ∃ moment, micros time = .ok moment ∧ calendarStart ≤ moment ∧ moment < calendarEnd

/-- Just the times of these years can be written. -/
theorem exists_write_iff (time : Document) :
    (∃ text, write time = .ok text) ↔ IsInCalendar time := by
  unfold write IsInCalendar
  cases isMoment : micros time with
  | error fault => simp [bind, Except.bind]
  | ok moment => simpa [bind, Except.bind] using exists_ofMicros_iff moment

end Keyspace.Journal.Timestamp
