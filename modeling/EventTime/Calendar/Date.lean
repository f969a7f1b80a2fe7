import EventTime.Calendar.Month
import EventTime.Calendar.Year

namespace EventTime.Calendar

-- A day of the Gregorian calendar.
structure Date where
  year : Int
  month : Month
  day : Nat
  one_le_day : 1 ≤ day
  day_le_length : day ≤ month.length (isLeap year)

-- The days from year 1 to 1970, from whose first day on the days are numbered.
def epochCount : Int := 719162

theorem daysBeforeYear_epoch : daysBeforeYear 1970 = epochCount := rfl

-- The year that holds the day `day` days after 1970-01-01.
def yearOfDay (day : Int) : Int := yearOfCount (day + epochCount)

-- The place of a day in its year, counted from 0.
def ordinalOfDay (day : Int) : Nat :=
  (day + epochCount - daysBeforeYear (yearOfDay day)).toNat

theorem daysBeforeYear_add_ordinalOfDay (day : Int) :
    daysBeforeYear (yearOfDay day) + ordinalOfDay day = day + epochCount := by
  have := daysBeforeYear_yearOfCount_le (day + epochCount)
  simp only [ordinalOfDay, yearOfDay]
  omega

theorem ordinalOfDay_lt (day : Int) :
    ordinalOfDay day < if isLeap (yearOfDay day) then 366 else 365 := by
  have hle := daysBeforeYear_yearOfCount_le (day + epochCount)
  have hlt := lt_daysBeforeYear_yearOfCount_succ (day + epochCount)
  rw [daysBeforeYear_succ] at hlt
  change (day + epochCount - daysBeforeYear (yearOfCount (day + epochCount))).toNat <
    yearLength (yearOfCount (day + epochCount))
  omega

namespace Date

-- The date of the day `day` days after 1970-01-01.
def ofDay (day : Int) : Date :=
  let year := yearOfDay day
  let ordinal := ordinalOfDay day
  let month := Month.ofOrdinal (isLeap year) ordinal
  { year
    month
    day := ordinal - month.daysBefore (isLeap year) + 1
    one_le_day := by omega
    day_le_length := by
      have hle := Month.daysBefore_ofOrdinal_le _ _ (ordinalOfDay_lt day)
      have hlt := Month.lt_daysBefore_add_length_ofOrdinal _ _ (ordinalOfDay_lt day)
      simp only [month, year, ordinal]
      omega }

-- The days from 1970-01-01 to the date, by the lengths of the years and months between.
def toDay (date : Date) : Int :=
  daysBeforeYear date.year + date.month.daysBefore (isLeap date.year) + (date.day - 1) - epochCount

theorem toDay_ofDay (day : Int) : (ofDay day).toDay = day := by
  have hle := Month.daysBefore_ofOrdinal_le _ _ (ordinalOfDay_lt day)
  have hcount := daysBeforeYear_add_ordinalOfDay day
  simp only [toDay, ofDay]
  omega

end Date

end EventTime.Calendar
