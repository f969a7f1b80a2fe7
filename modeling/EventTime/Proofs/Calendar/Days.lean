import EventTime.Proofs.Calendar.Order

-- Dates and the numbers of days stand for each other, so that a date has a weekday and a week.
namespace EventTime.Calendar

namespace Weekday

def all : List Weekday := [monday, tuesday, wednesday, thursday, friday, saturday, sunday]

theorem find?_number (weekday : Weekday) :
    all.find? (·.number = weekday.number) = some weekday := by
  cases weekday <;> rfl

theorem eq_of_number_eq {first second : Weekday} (hnumber : first.number = second.number) :
    first = second := by
  have hfirst := first.find?_number
  rw [hnumber, second.find?_number] at hfirst
  exact (Option.some.inj hfirst).symm

theorem number_bounds (weekday : Weekday) : 1 ≤ weekday.number ∧ weekday.number ≤ 7 := by
  cases weekday <;> decide

end Weekday

namespace Date

-- No two dates are the same day.
theorem eq_of_toDay_eq {first second : Date} (hsame : first.toDay = second.toDay) :
    first = second := by
  have hle := Int.le_of_eq hsame
  have hge := Int.le_of_eq hsame.symm
  have hyear : first.year = second.year :=
    Int.le_antisymm (year_le_of_toDay_le hle) (year_le_of_toDay_le hge)
  have hnumber : first.month.number = second.month.number :=
    Nat.le_antisymm (month_le_of_toDay_le hyear hle) (month_le_of_toDay_le hyear.symm hge)
  have hmonth := Month.eq_of_number_eq hnumber
  have hday : first.day = second.day := by
    have hdays := day_sub_day hyear hnumber
    omega
  obtain ⟨year, month, day, _, _⟩ := first
  obtain ⟨otherYear, otherMonth, otherDay, _, _⟩ := second
  simp only at hyear hmonth hday
  subst hyear hmonth hday
  rfl

theorem count_ofDay (day : Int) : (ofDay day).count = day := by
  rw [count_eq_toDay, toDay_ofDay]

theorem ofDay_count (date : Date) : ofDay date.count = date := by
  apply eq_of_toDay_eq
  rw [toDay_ofDay, count_eq_toDay]

def weekday (date : Date) : Weekday := Weekday.ofDay date.count

def week (date : Date) : WeekDate := WeekDate.ofDay date.count

-- The days of the months before, and those of the month up to the date.
def dayOfYear (date : Date) : Nat :=
  (date.month.earlier.map (Month.length (isLeap date.year))).sum + date.day

theorem number_weekday (date : Date) : (date.weekday.number : Int) = (date.count + 3) % 7 + 1 :=
  Weekday.number_ofDay date.count

theorem weekday_eq_iff (date : Date) (weekday : Weekday) :
    date.weekday = weekday ↔ (date.count + 4 - weekday.number) % 7 = 0 := by
  have hdate := date.number_weekday
  have hbounds := weekday.number_bounds
  constructor
  · rintro rfl
    omega
  · intro hrest
    exact Weekday.eq_of_number_eq (by omega)

theorem year_eq (date : Date) : yearOfDay date.count = date.year :=
  congrArg Date.year date.ofDay_count

theorem dayOfYear_eq (date : Date) : date.dayOfYear = ordinalOfDay date.count + 1 := by
  have hcount := daysBeforeYear_add_ordinalOfDay date.count
  have hday := date.one_le_day
  rw [year_eq, count_eq_toDay, toDay] at hcount
  rw [dayOfYear, Month.sum_length_earlier, count_eq_toDay, toDay]
  omega

theorem dayOfYear_bounds (date : Date) :
    1 ≤ date.dayOfYear ∧ date.dayOfYear ≤ if isLeap date.year then 366 else 365 := by
  have hfirst := date.one_le_day
  have hlast := date.day_le_length
  have hmonth := date.month.daysBefore_add_length_le (isLeap date.year)
  rw [dayOfYear, Month.sum_length_earlier]
  omega

-- Days of one month are as far apart as their numbers.
theorem count_sub_count {first second : Date} (hyear : first.year = second.year)
    (hmonth : first.month = second.month) :
    second.count - first.count = (second.day : Int) - first.day := by
  have hdays := day_sub_day hyear (congrArg Month.number hmonth)
  rw [count_eq_toDay, count_eq_toDay]
  exact hdays.symm

end Date

theorem Clock.eq_of_toMillis_eq {first second : Clock} (hsame : first.toMillis = second.toMillis) :
    first = second := by
  obtain ⟨hour, minute, seconds, milli, _, hminute, hsecond, hmilli⟩ := first
  obtain ⟨otherHour, otherMinute, otherSecond, otherMilli, _, hotherMinute, hotherSecond,
    hotherMilli⟩ := second
  simp only [toMillis] at hsame
  simp only [Clock.mk.injEq]
  omega

-- A date and time is told by its distance from 1970.
theorem DateTime.eq_of_millis_eq {first second : DateTime} (hsame : first.millis = second.millis) :
    first = second := by
  have hfirst := first.clock.toMillis_lt
  have hsecond := second.clock.toMillis_lt
  obtain ⟨date, clock⟩ := first
  obtain ⟨otherDate, otherClock⟩ := second
  simp only [millis, Date.count_eq_toDay, millisPerDay] at hsame hfirst hsecond
  have hdate : date.toDay = otherDate.toDay := by omega
  have hclock : clock.toMillis = otherClock.toMillis := by omega
  rw [Date.eq_of_toDay_eq hdate, Clock.eq_of_toMillis_eq hclock]

end EventTime.Calendar
