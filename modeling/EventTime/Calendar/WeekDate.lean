import EventTime.Calendar.Date
import EventTime.Calendar.Weekday

namespace EventTime.Calendar

-- A week by the rule of ISO 8601, under which a week belongs to the year of its Thursday.
structure WeekDate where
  year : Int
  week : Nat
  deriving DecidableEq, Repr

namespace WeekDate

-- The Thursday of the week that holds the day. Weeks begin on Monday.
def thursday (day : Int) : Int := day - (day + 3) % 7 + 3

-- Weeks count from 1, so the week number is one more than the Thursdays of the year before it.
def ofDay (day : Int) : WeekDate :=
  { year := yearOfDay (thursday day)
    week := ordinalOfDay (thursday day) / 7 + 1 }

end WeekDate

-- The week of the month in which the day of that number and weekday lies.
-- Weeks begin on Monday, and the first one ends with the first Sunday.
def weekOfMonth (day : Nat) (weekday : Weekday) : Nat :=
  let past := day - 1
  let before := ((weekday.number : Int) - 1 - past) % 7
  (past + before.toNat) / 7 + 1

-- How many days of one weekday the month has had by the day of that number.
def weekdayOfMonth (day : Nat) : Nat := (day - 1) / 7 + 1

end EventTime.Calendar
