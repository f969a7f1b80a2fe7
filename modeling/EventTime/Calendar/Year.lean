namespace EventTime.Calendar

-- The Gregorian rule, for the years before 1582 and before 1 as well. Year 0 precedes year 1.
def isLeap (year : Int) : Bool := year % 4 = 0 ∧ (year % 100 ≠ 0 ∨ year % 400 = 0)

def yearLength (year : Int) : Nat := if isLeap year then 366 else 365

-- The days from the first day of year 1 to the first day of `year`.
-- The count is negative for the years before.
def daysBeforeYear (year : Int) : Int :=
  let past := year - 1
  365 * past + past / 4 - past / 100 + past / 400

theorem daysBeforeYear_succ (year : Int) :
    daysBeforeYear (year + 1) = daysBeforeYear year + yearLength year := by
  simp only [daysBeforeYear, yearLength, isLeap, decide_eq_true_eq]
  split <;> omega

-- The year that holds the day `count` days after the first day of year 1.
-- The mean year of 146097 / 400 days gives a guess that is off by one year at most.
def yearOfCount (count : Int) : Int :=
  let guess := 400 * count / 146097 + 1
  if count < daysBeforeYear guess then guess - 1
  else if daysBeforeYear (guess + 1) ≤ count then guess + 1
  else guess

theorem daysBeforeYear_yearOfCount_le (count : Int) :
    daysBeforeYear (yearOfCount count) ≤ count := by
  simp only [yearOfCount]
  split
  · simp only [daysBeforeYear] at *
    omega
  · split <;> omega

theorem lt_daysBeforeYear_yearOfCount_succ (count : Int) :
    count < daysBeforeYear (yearOfCount count + 1) := by
  simp only [yearOfCount]
  split
  · have : 400 * count / 146097 + 1 - 1 + 1 = 400 * count / 146097 + 1 := by omega
    rwa [this]
  · split
    · simp only [daysBeforeYear] at *
      omega
    · omega

end EventTime.Calendar
