namespace EventTime.Calendar

inductive Month where
  | january
  | february
  | march
  | april
  | may
  | june
  | july
  | august
  | september
  | october
  | november
  | december
  deriving DecidableEq, Repr

namespace Month

-- The place in the year, from 1 to 12.
def number : Month → Nat
  | january => 1
  | february => 2
  | march => 3
  | april => 4
  | may => 5
  | june => 6
  | july => 7
  | august => 8
  | september => 9
  | october => 10
  | november => 11
  | december => 12

def name : Month → String
  | january => "January"
  | february => "February"
  | march => "March"
  | april => "April"
  | may => "May"
  | june => "June"
  | july => "July"
  | august => "August"
  | september => "September"
  | october => "October"
  | november => "November"
  | december => "December"

def shortName : Month → String
  | january => "Jan"
  | february => "Feb"
  | march => "Mar"
  | april => "Apr"
  | may => "May"
  | june => "Jun"
  | july => "Jul"
  | august => "Aug"
  | september => "Sep"
  | october => "Oct"
  | november => "Nov"
  | december => "Dec"

-- The number of days, in a leap year or another.
def length (leap : Bool) : Month → Nat
  | january => 31
  | february => if leap then 29 else 28
  | march => 31
  | april => 30
  | may => 31
  | june => 30
  | july => 31
  | august => 31
  | september => 30
  | october => 31
  | november => 30
  | december => 31

-- The days of the year that lie before the month.
def daysBefore (leap : Bool) (month : Month) : Nat :=
  let leapDay := if leap then 1 else 0
  match month with
  | january => 0
  | february => 31
  | march => 59 + leapDay
  | april => 90 + leapDay
  | may => 120 + leapDay
  | june => 151 + leapDay
  | july => 181 + leapDay
  | august => 212 + leapDay
  | september => 243 + leapDay
  | october => 273 + leapDay
  | november => 304 + leapDay
  | december => 334 + leapDay

-- The month that holds the day `ordinal` of the year, counted from 0.
def ofOrdinal (leap : Bool) (ordinal : Nat) : Month :=
  let leapDay := if leap then 1 else 0
  if ordinal < 31 then january
  else if ordinal < 59 + leapDay then february
  else if ordinal < 90 + leapDay then march
  else if ordinal < 120 + leapDay then april
  else if ordinal < 151 + leapDay then may
  else if ordinal < 181 + leapDay then june
  else if ordinal < 212 + leapDay then july
  else if ordinal < 243 + leapDay then august
  else if ordinal < 273 + leapDay then september
  else if ordinal < 304 + leapDay then october
  else if ordinal < 334 + leapDay then november
  else december

private theorem ofOrdinal_bounds : ∀ leap : Bool, ∀ ordinal < if leap then 366 else 365,
    (ofOrdinal leap ordinal).daysBefore leap ≤ ordinal ∧
      ordinal < (ofOrdinal leap ordinal).daysBefore leap +
        (ofOrdinal leap ordinal).length leap := by
  decide +kernel

theorem daysBefore_ofOrdinal_le (leap : Bool) (ordinal : Nat)
    (h : ordinal < if leap then 366 else 365) :
    (ofOrdinal leap ordinal).daysBefore leap ≤ ordinal :=
  (ofOrdinal_bounds leap ordinal h).1

theorem lt_daysBefore_add_length_ofOrdinal (leap : Bool) (ordinal : Nat)
    (h : ordinal < if leap then 366 else 365) :
    ordinal < (ofOrdinal leap ordinal).daysBefore leap + (ofOrdinal leap ordinal).length leap :=
  (ofOrdinal_bounds leap ordinal h).2

-- A later month begins after the last day of an earlier one.
theorem daysBefore_add_length_le_daysBefore (leap : Bool) (earlier later : Month)
    (h : earlier.number < later.number) :
    earlier.daysBefore leap + earlier.length leap ≤ later.daysBefore leap := by
  revert h
  cases leap <;> cases earlier <;> cases later <;> decide

theorem daysBefore_add_length_le (leap : Bool) (month : Month) :
    month.daysBefore leap + month.length leap ≤ if leap then 366 else 365 := by
  cases leap <;> cases month <;> simp [length, daysBefore]

end Month

end EventTime.Calendar
