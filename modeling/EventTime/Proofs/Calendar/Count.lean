import EventTime.Calendar.LocalTime
import Mathlib.Algebra.Ring.Nat

-- Days counted one year and one month at a time, and dates put together from bare numbers.
-- The numbers that the calendar gives to days are this count.
namespace EventTime.Calendar

-- The days of so many years in a row.
def daysOfYears (first : Int) : Nat → Int
  | 0 => 0
  | count + 1 => yearLength first + daysOfYears (first + 1) count

-- The days from the first day of 1970 to the first day of a year, or back to it.
def daysToYear (year : Int) : Int :=
  if 1970 ≤ year then daysOfYears 1970 (year - 1970).toNat
  else -daysOfYears year (1970 - year).toNat

theorem daysOfYears_eq (first : Int) (count : Nat) :
    daysOfYears first count = daysBeforeYear (first + count) - daysBeforeYear first := by
  induction count generalizing first with
  | zero => simp [daysOfYears]
  | succ count ih =>
      have hsucc := daysBeforeYear_succ first
      have hyear : first + 1 + (count : Int) = first + (count + 1 : Nat) := by omega
      rw [daysOfYears, ih, hyear]
      omega

theorem daysToYear_eq (year : Int) : daysToYear year = daysBeforeYear year - epochCount := by
  unfold daysToYear
  rw [← daysBeforeYear_epoch]
  split
  · have hyear : 1970 + ((year - 1970).toNat : Int) = year := by omega
    rw [daysOfYears_eq, hyear]
  · have hyear : year + ((1970 - year).toNat : Int) = 1970 := by omega
    rw [daysOfYears_eq, hyear, Int.neg_sub]

theorem yearLength_le (year : Int) : yearLength year ≤ 366 := by
  unfold yearLength
  split <;> decide

namespace Month

def all : List Month :=
  [january, february, march, april, may, june, july, august, september, october, november,
    december]

-- The months of the year before a month.
def earlier (month : Month) : List Month := all.takeWhile (· ≠ month)

def ofNumber? (number : Nat) : Option Month := all.find? (·.number = number)

theorem sum_length_earlier (leap : Bool) (month : Month) :
    (month.earlier.map (length leap)).sum = month.daysBefore leap := by
  cases leap <;> cases month <;> rfl

theorem ofNumber?_number (month : Month) : ofNumber? month.number = some month := by
  cases month <;> rfl

theorem one_le_number (month : Month) : 1 ≤ month.number := by
  cases month <;> decide

theorem number_lt (month : Month) : month.number < 13 := by
  cases month <;> decide

theorem length_le (leap : Bool) (month : Month) : month.length leap ≤ 31 := by
  cases leap <;> cases month <;> decide

end Month

namespace Date

-- The days from 1970-01-01 to the date, by the lengths of the years and months between.
def count (date : Date) : Int :=
  daysToYear date.year +
    ((date.month.earlier.map (Month.length (isLeap date.year))).sum + (date.day - 1) : Nat)

theorem count_eq_toDay (date : Date) : date.count = date.toDay := by
  have hday := date.one_le_day
  rw [count, toDay, daysToYear_eq, Month.sum_length_earlier]
  omega

-- The date of a year, the number of a month and that of a day, if there is such a date.
def of? (year : Int) (month day : Nat) : Option Date :=
  match Month.ofNumber? month with
  | none => none
  | some month =>
    if h : 1 ≤ day ∧ day ≤ month.length (isLeap year) then some ⟨year, month, day, h.1, h.2⟩
    else none

theorem of?_numbers (date : Date) : of? date.year date.month.number date.day = some date := by
  rw [of?, Month.ofNumber?_number]
  exact dif_pos ⟨date.one_le_day, date.day_le_length⟩

end Date

-- The time of day of so many hours and so on, if there is such a time.
def Clock.of? (hour minute second milli : Nat) : Option Clock :=
  if h : hour < 24 ∧ minute < 60 ∧ second < 60 ∧ milli < 1000 then
    some ⟨hour, minute, second, milli, h.1, h.2.1, h.2.2.1, h.2.2.2⟩
  else none

theorem Clock.of?_numbers (clock : Clock) :
    of? clock.hour clock.minute clock.second clock.milli = some clock :=
  dif_pos ⟨clock.hour_lt, clock.minute_lt, clock.second_lt, clock.milli_lt⟩

-- A date and a time of day.
structure DateTime where
  date : Date
  clock : Clock

-- The milliseconds from 1970-01-01 at midnight.
def DateTime.millis (time : DateTime) : Int :=
  time.date.count * millisPerDay + time.clock.toMillis

def LocalTime.dateTime (time : LocalTime) : DateTime := ⟨time.date, time.clock⟩

theorem LocalTime.millis_dateTime (time : LocalTime) : time.dateTime.millis = time.toMillis := by
  rw [DateTime.millis, Date.count_eq_toDay, toMillis, dateTime, date, Date.toDay_ofDay]

end EventTime.Calendar
