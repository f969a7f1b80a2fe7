import EventTime.Calendar.WeekDate

namespace EventTime.Calendar

-- A time of day.
structure Clock where
  hour : Nat
  minute : Nat
  second : Nat
  milli : Nat
  hour_lt : hour < 24
  minute_lt : minute < 60
  second_lt : second < 60
  milli_lt : milli < 1000

def millisPerDay : Nat := 86400000

namespace Clock

-- The time of day that many milliseconds after midnight.
def ofMillis (millis : Nat) (h : millis < millisPerDay) : Clock :=
  { hour := millis / 3600000
    minute := millis / 60000 % 60
    second := millis / 1000 % 60
    milli := millis % 1000
    hour_lt := by simp only [millisPerDay] at h; omega
    minute_lt := by omega
    second_lt := by omega
    milli_lt := by omega }

-- The milliseconds since midnight.
def toMillis (clock : Clock) : Nat :=
  ((clock.hour * 60 + clock.minute) * 60 + clock.second) * 1000 + clock.milli

theorem toMillis_ofMillis (millis : Nat) (h : millis < millisPerDay) :
    (ofMillis millis h).toMillis = millis := by
  simp only [ofMillis, toMillis]
  omega

-- The hour as clocks with twelve hours show it, from 0 to 11.
def hourOfHalfDay (clock : Clock) : Nat := clock.hour % 12

def isMorning (clock : Clock) : Bool := clock.hour < 12

end Clock

-- A day, by its number, and the time on it.
structure LocalTime where
  dayNumber : Int
  clock : Clock

namespace LocalTime

-- The day and time `millis` milliseconds after 1970-01-01 at midnight.
def ofMillis (millis : Int) : LocalTime :=
  { dayNumber := millis / millisPerDay
    clock := Clock.ofMillis (millis % millisPerDay).toNat (by simp only [millisPerDay]; omega) }

def toMillis (time : LocalTime) : Int := time.dayNumber * millisPerDay + time.clock.toMillis

theorem toMillis_ofMillis (millis : Int) : (ofMillis millis).toMillis = millis := by
  simp only [toMillis, ofMillis, Clock.toMillis_ofMillis, millisPerDay]
  omega

def date (time : LocalTime) : Date := Date.ofDay time.dayNumber

def weekday (time : LocalTime) : Weekday := Weekday.ofDay time.dayNumber

def weekDate (time : LocalTime) : WeekDate := WeekDate.ofDay time.dayNumber

-- The place of the day in its year, from 1.
def dayOfYear (time : LocalTime) : Nat := ordinalOfDay time.dayNumber + 1

def weekOfMonth (time : LocalTime) : Nat :=
  Calendar.weekOfMonth time.date.day time.weekday

def weekdayOfMonth (time : LocalTime) : Nat := Calendar.weekdayOfMonth time.date.day

end LocalTime

end EventTime.Calendar
