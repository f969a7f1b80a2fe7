import EventTime.Proofs.Calendar.MonthWeeks
import EventTime.Proofs.Layout.Lossless

-- The date and time that a zone shows at an instant, and the numbers that fields show of them.
namespace EventTime

open Calendar

-- The date and time in a zone lie as far from 1970 as the instant, moved by the offset in force.
def Zone.Shows (zone : Zone) (millis : Int) (time : DateTime) : Prop :=
  time.millis = millis + 1000 * (zone.offsetAt (millis / 1000)).seconds

theorem Zone.shows_iff (zone : Zone) (millis : Int) (time : DateTime) :
    zone.Shows millis time ↔ (zone.read millis).time.dateTime = time := by
  have hread := zone.millis_dateTime_read millis
  constructor
  · intro hshows
    exact DateTime.eq_of_millis_eq (hread.trans hshows.symm)
  · rintro rfl
    exact hread

theorem Zone.shows_read (zone : Zone) (millis : Int) :
    zone.Shows millis (zone.read millis).time.dateTime :=
  zone.millis_dateTime_read millis

namespace Field

-- The number that a field stands for at a date and time.
-- Eras, names and offsets have none, and neither has a half of the day.
def number? (time : DateTime) : Field → Option Int
  | year => some time.date.year
  | weekYear => some time.date.week.year
  | month => some time.date.month.number
  | weekOfYear => some time.date.week.week
  | weekOfMonth => some time.date.weekOfMonth
  | dayOfYear => some time.date.dayOfYear
  | day => some time.date.day
  | weekdayOfMonth => some time.date.weekdayOfMonth
  | weekdayNumber => some time.date.weekday.number
  | hourFrom0To23 => some time.clock.hour
  | hourFrom1To24 => some (hourTo 24 time.clock.hour)
  | hourFrom0To11 => some time.clock.hourOfHalfDay
  | hourFrom1To12 => some (hourTo 12 time.clock.hourOfHalfDay)
  | minute => some time.clock.minute
  | second => some time.clock.second
  | milli => some time.clock.milli
  | era | weekday | halfDay | zoneName | zoneOffset | isoOffset => none

-- A field is written as its number, unless it is a month in three letters or more, or a year in
-- two.
def IsPlain (width : Nat) : Field → Prop
  | month => width ≤ 2
  | year | weekYear => width ≠ 2
  | _ => True

-- The digits that so many letters ask for. Years have four digits at least.
def digits (width : Nat) : Field → Nat
  | year | weekYear => max width 4
  | _ => width

theorem le_digits (width : Nat) (kind : Field) : width ≤ kind.digits width := by
  cases kind <;> simp only [digits] <;> omega

section Reading

variable (reading : Reading)

theorem weekday_reading : reading.time.weekday = reading.time.dateTime.date.weekday := by
  rw [LocalTime.dateTime, LocalTime.date, Date.weekday, Date.count_ofDay, LocalTime.weekday]

theorem weekDate_reading : reading.time.weekDate = reading.time.dateTime.date.week := by
  rw [LocalTime.dateTime, LocalTime.date, Date.week, Date.count_ofDay, LocalTime.weekDate]

theorem dayOfYear_reading : reading.time.dayOfYear = reading.time.dateTime.date.dayOfYear := by
  rw [Date.dayOfYear_eq, LocalTime.dateTime, LocalTime.date, Date.count_ofDay, LocalTime.dayOfYear]

theorem weekOfMonth_reading :
    reading.time.weekOfMonth = reading.time.dateTime.date.weekOfMonth := by
  rw [LocalTime.weekOfMonth, weekday_reading]
  rfl

theorem render_of_number? (width : Nat) (kind : Field) (number : Int)
    (hnumber : kind.number? reading.time.dateTime = some number) (hplain : kind.IsPlain width) :
    kind.render reading width = Decimal.padded (kind.digits width) number := by
  cases kind with
  | year =>
      cases hnumber
      exact if_neg hplain
  | weekYear =>
      cases hnumber
      rw [← weekDate_reading]
      exact if_neg hplain
  | month =>
      cases hnumber
      exact if_pos hplain
  | weekOfYear =>
      cases hnumber
      rw [← weekDate_reading]
      rfl
  | weekOfMonth =>
      cases hnumber
      rw [← weekOfMonth_reading]
      rfl
  | dayOfYear =>
      cases hnumber
      rw [← dayOfYear_reading]
      rfl
  | weekdayNumber =>
      cases hnumber
      rw [← weekday_reading]
      rfl
  | day | weekdayOfMonth | hourFrom0To23 | hourFrom1To24 | hourFrom0To11 | hourFrom1To12 | minute |
    second | milli =>
      cases hnumber
      rfl
  | era | weekday | halfDay | zoneName | zoneOffset | isoOffset => cases hnumber

end Reading

end Field

namespace Template

-- The number that a source shows, if it shows one and nothing else.
def number? (source : String) (zone : Zone) (millis : Int) : Option Int :=
  (renderSource? source zone millis).bind fun text => Decimal.integer? text.toList

theorem number?_shown (source : String) (zone : Zone) (millis : Int) :
    number? source zone (Millis.shown millis) = number? source zone millis := by
  rw [number?, number?, renderSource?_shown]

theorem number?_run (kind : Field) (width : Nat) (hwidth : 1 ≤ width) (hplain : kind.IsPlain width)
    (zone : Zone) {millis : Int} (hshown : Millis.IsShown millis) (time : DateTime)
    (htime : zone.Shows millis time) (number : Int) (hnumber : kind.number? time = some number) :
    number? (String.ofList (List.replicate width kind.letter)) zone millis = some number := by
  have hoffset : kind = .isoOffset → width ≤ 3 := by
    rintro rfl
    cases hnumber
  have hread := (zone.shows_iff millis time).mp htime
  rw [← hread] at hnumber
  rw [number?, renderSource?_run kind width hwidth hoffset zone hshown, Option.bind_some,
    String.toList_ofList, Field.render_of_number? _ width kind number hnumber hplain,
    Decimal.integer?_padded]

theorem number?_run_read (kind : Field) (width : Nat) (hwidth : 1 ≤ width)
    (hplain : kind.IsPlain width) (zone : Zone) (millis number : Int)
    (hnumber : kind.number? (zone.read (Millis.shown millis)).time.dateTime = some number) :
    number? (String.ofList (List.replicate width kind.letter)) zone millis = some number := by
  rw [← number?_shown]
  exact number?_run kind width hwidth hplain zone (Millis.isShown_shown millis) _
    (zone.shows_read _) number hnumber

end Template

end EventTime
