import EventTime.Proofs.Calendar.Count

-- Later days have later years, or else later months, or else later days of the month.
namespace EventTime.Calendar

theorem daysBeforeYear_le_daysBeforeYear {first second : Int} (hle : first ≤ second) :
    daysBeforeYear first ≤ daysBeforeYear second := by
  simp only [daysBeforeYear]
  omega

theorem Month.eq_of_number_eq {first second : Month} (hnumber : first.number = second.number) :
    first = second := by
  have hfirst := first.ofNumber?_number
  rw [hnumber, second.ofNumber?_number] at hfirst
  exact (Option.some.inj hfirst).symm

namespace Date

-- A date lies inside its year.
theorem toDay_bounds (date : Date) :
    daysBeforeYear date.year ≤ date.toDay + epochCount ∧
      date.toDay + epochCount < daysBeforeYear (date.year + 1) := by
  have hmonth := date.month.daysBefore_add_length_le (isLeap date.year)
  have hfirst := date.one_le_day
  have hlast := date.day_le_length
  rw [daysBeforeYear_succ, yearLength, toDay]
  omega

section Order

variable {first second : Date}

theorem year_le_of_toDay_le (hle : first.toDay ≤ second.toDay) : first.year ≤ second.year := by
  by_contra hlater
  have hyears := daysBeforeYear_le_daysBeforeYear (Int.not_le.mp hlater)
  have hfirst := first.toDay_bounds.1
  have hsecond := second.toDay_bounds.2
  omega

theorem month_le_of_toDay_le (hyear : first.year = second.year)
    (hle : first.toDay ≤ second.toDay) : first.month.number ≤ second.month.number := by
  by_contra hlater
  have hmonths := Month.daysBefore_add_length_le_daysBefore (isLeap second.year) _ _
    (Nat.not_le.mp hlater)
  have hfirst := first.one_le_day
  have hsecond := second.day_le_length
  simp only [toDay, hyear] at hle
  omega

theorem day_sub_day (hyear : first.year = second.year)
    (hmonth : first.month.number = second.month.number) :
    (second.day : Int) - first.day = second.toDay - first.toDay := by
  simp only [toDay, hyear, Month.eq_of_number_eq hmonth]
  omega

end Order

end Date

theorem Clock.cases_of_toMillis_lt {first second : Clock} (hlt : first.toMillis < second.toMillis) :
    first.hour < second.hour ∨ first.hour = second.hour ∧
      (first.minute < second.minute ∨ first.minute = second.minute ∧
        (first.second < second.second ∨ first.second = second.second ∧
          first.milli < second.milli)) := by
  have hminute := first.minute_lt
  have hsecond := first.second_lt
  have hmilli := first.milli_lt
  have hotherMinute := second.minute_lt
  have hotherSecond := second.second_lt
  have hotherMilli := second.milli_lt
  simp only [toMillis] at hlt
  omega

theorem Clock.toMillis_lt (clock : Clock) : clock.toMillis < millisPerDay := by
  have hhour := clock.hour_lt
  have hminute := clock.minute_lt
  have hsecond := clock.second_lt
  have hmilli := clock.milli_lt
  simp only [toMillis, millisPerDay]
  omega

theorem DateTime.toDay_le_of_millis_lt {first second : DateTime}
    (hlt : first.millis < second.millis) : first.date.toDay ≤ second.date.toDay := by
  have hclock := second.clock.toMillis_lt
  simp only [millis, Date.count_eq_toDay, millisPerDay] at hlt hclock
  omega

end EventTime.Calendar
