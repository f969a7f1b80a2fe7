import EventTime.Proofs.Calendar.MonthWeeks

-- Weeks by the rule of ISO 8601, and the numbers that tell one date from all others.
namespace EventTime.Calendar

theorem eq_of_daysBeforeYear_le {year other : Int} {count : Int}
    (hle : daysBeforeYear year ≤ count) (hlt : count < daysBeforeYear (year + 1))
    (hotherLe : daysBeforeYear other ≤ count) (hotherLt : count < daysBeforeYear (other + 1)) :
    year = other := by
  rcases Int.lt_trichotomy year other with hless | hsame | hmore
  · have hyears := daysBeforeYear_le_daysBeforeYear (show year + 1 ≤ other from hless)
    omega
  · exact hsame
  · have hyears := daysBeforeYear_le_daysBeforeYear (show other + 1 ≤ year from hmore)
    omega

theorem yearOfDay_eq {year day : Int} (hle : daysBeforeYear year ≤ day + epochCount)
    (hlt : day + epochCount < daysBeforeYear (year + 1)) : yearOfDay day = year :=
  eq_of_daysBeforeYear_le (daysBeforeYear_yearOfCount_le _) (lt_daysBeforeYear_yearOfCount_succ _)
    hle hlt

namespace WeekDate

theorem ofDay_monday_iff (day : Int) : Weekday.ofDay day = .monday ↔ (day + 3) % 7 = 0 := by
  have hnumber := Weekday.number_ofDay day
  constructor
  · intro hmonday
    have hone : (Weekday.ofDay day).number = 1 := by rw [hmonday]; rfl
    omega
  · intro hrest
    refine Weekday.eq_of_number_eq ?_
    rw [show Weekday.number .monday = 1 from rfl]
    omega

-- The seven days from a Monday on have one Thursday.
theorem thursday_of_monday {monday day : Int} (hmonday : Weekday.ofDay monday = .monday)
    (hfirst : monday ≤ day) (hlast : day ≤ monday + 6) : thursday day = monday + 3 := by
  have hrest := (ofDay_monday_iff monday).mp hmonday
  unfold thursday
  omega

theorem ofDay_of_monday {monday first second : Int} (hmonday : Weekday.ofDay monday = .monday)
    (hfirst : monday ≤ first ∧ first ≤ monday + 6)
    (hsecond : monday ≤ second ∧ second ≤ monday + 6) : ofDay first = ofDay second := by
  rw [ofDay, ofDay, thursday_of_monday hmonday hfirst.1 hfirst.2,
    thursday_of_monday hmonday hsecond.1 hsecond.2]

-- The Thursday of a week is at most three days away from any day of it, so that the fourth of
-- January is in the first week of its year.
theorem ofDay_of_fourth_of_january {monday day : Int} (hmonday : Weekday.ofDay monday = .monday)
    (hday : monday ≤ day ∧ day ≤ monday + 6) (fourth : Date) (hmonth : fourth.month = .january)
    (hfourth : fourth.day = 4) (hweek : monday ≤ fourth.count ∧ fourth.count ≤ monday + 6) :
    ofDay day = ⟨fourth.year, 1⟩ := by
  have hcount : fourth.count = daysBeforeYear fourth.year + 3 - epochCount := by
    rw [Date.count_eq_toDay, Date.toDay, hmonth, hfourth, Month.daysBefore]
    omega
  have hlength := daysBeforeYear_succ fourth.year
  have hyear : yearOfDay (monday + 3) = fourth.year := by
    refine yearOfDay_eq (by omega) ?_
    unfold yearLength at hlength
    split at hlength <;> omega
  have hplace := daysBeforeYear_add_ordinalOfDay (monday + 3)
  rw [hyear] at hplace
  rw [ofDay, thursday_of_monday hmonday hday.1 hday.2, hyear, WeekDate.mk.injEq]
  exact ⟨rfl, by omega⟩

theorem week_bounds (day : Int) : 1 ≤ (ofDay day).week ∧ (ofDay day).week ≤ 53 := by
  have hplace := ordinalOfDay_lt (thursday day)
  simp only [ofDay]
  split at hplace <;> omega

end WeekDate

namespace Date

-- The seven days that a date begins.
def InWeekFrom (first date : Date) : Prop :=
  first.count ≤ date.count ∧ date.count ≤ first.count + 6

theorem week_eq_of_inWeekFrom {monday first second : Date} (hmonday : monday.weekday = .monday)
    (hfirst : monday.InWeekFrom first) (hsecond : monday.InWeekFrom second) :
    first.week = second.week :=
  WeekDate.ofDay_of_monday hmonday hfirst hsecond

section Told

variable {first second : Date}

theorem eq_of_day (hyear : first.year = second.year)
    (hmonth : first.month.number = second.month.number) (hday : first.day = second.day) :
    first = second := by
  have hdays := day_sub_day hyear hmonth
  exact eq_of_toDay_eq (by omega)

theorem eq_of_dayOfYear (hyear : first.year = second.year)
    (hplace : first.dayOfYear = second.dayOfYear) : first = second := by
  have hfirst := daysBeforeYear_add_ordinalOfDay first.count
  have hsecond := daysBeforeYear_add_ordinalOfDay second.count
  rw [year_eq, count_eq_toDay] at hfirst hsecond
  rw [dayOfYear_eq, dayOfYear_eq, count_eq_toDay, count_eq_toDay] at hplace
  rw [hyear] at hfirst
  exact eq_of_toDay_eq (by omega)

-- Two days of one year and week have Thursdays less than a week apart, which are the same then.
theorem eq_of_week (hyear : first.week.year = second.week.year)
    (hweek : first.week.week = second.week.week)
    (hweekday : first.weekday.number = second.weekday.number) : first = second := by
  have hfirst := daysBeforeYear_add_ordinalOfDay (WeekDate.thursday first.count)
  have hsecond := daysBeforeYear_add_ordinalOfDay (WeekDate.thursday second.count)
  have hfirstDay := first.number_weekday
  have hsecondDay := second.number_weekday
  simp only [week, WeekDate.ofDay] at hyear hweek
  rw [hyear] at hfirst
  simp only [WeekDate.thursday] at hfirst hsecond hweek
  refine eq_of_toDay_eq ?_
  rw [← count_eq_toDay, ← count_eq_toDay]
  omega

section SameMonth

variable (hyear : first.year = second.year) (hmonth : first.month.number = second.month.number)
  (hweekday : first.weekday.number = second.weekday.number)
include hyear hmonth hweekday

theorem eq_of_weekOfMonth (hweek : first.weekOfMonth = second.weekOfMonth) : first = second := by
  have hdays := count_sub_count hyear (Month.eq_of_number_eq hmonth)
  have hfirst := first.cast_weekOfMonth
  have hsecond := second.cast_weekOfMonth
  have hfirstDay := first.number_weekday
  have hsecondDay := second.number_weekday
  have hstart : second.count - second.day = first.count - first.day := by omega
  rw [hstart] at hsecond
  refine eq_of_toDay_eq ?_
  rw [← count_eq_toDay, ← count_eq_toDay]
  omega

theorem eq_of_weekdayOfMonth (hplace : first.weekdayOfMonth = second.weekdayOfMonth) :
    first = second := by
  have hdays := count_sub_count hyear (Month.eq_of_number_eq hmonth)
  have hfirst := first.one_le_day
  have hsecond := second.one_le_day
  have hfirstDay := first.number_weekday
  have hsecondDay := second.number_weekday
  simp only [weekdayOfMonth, Calendar.weekdayOfMonth] at hplace
  refine eq_of_toDay_eq ?_
  rw [← count_eq_toDay, ← count_eq_toDay]
  omega

end SameMonth

end Told

end Date

end EventTime.Calendar
