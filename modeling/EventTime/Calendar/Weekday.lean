namespace EventTime.Calendar

inductive Weekday where
  | monday
  | tuesday
  | wednesday
  | thursday
  | friday
  | saturday
  | sunday
  deriving DecidableEq, Repr

namespace Weekday

-- The place in the week, from 1 for Monday to 7.
def number : Weekday → Nat
  | monday => 1
  | tuesday => 2
  | wednesday => 3
  | thursday => 4
  | friday => 5
  | saturday => 6
  | sunday => 7

def name : Weekday → String
  | monday => "Monday"
  | tuesday => "Tuesday"
  | wednesday => "Wednesday"
  | thursday => "Thursday"
  | friday => "Friday"
  | saturday => "Saturday"
  | sunday => "Sunday"

def shortName : Weekday → String
  | monday => "Mon"
  | tuesday => "Tue"
  | wednesday => "Wed"
  | thursday => "Thu"
  | friday => "Fri"
  | saturday => "Sat"
  | sunday => "Sun"

-- The weekday that many days after a Monday.
def ofIndex : Fin 7 → Weekday
  | 0 => monday
  | 1 => tuesday
  | 2 => wednesday
  | 3 => thursday
  | 4 => friday
  | 5 => saturday
  | 6 => sunday

theorem number_ofIndex (index : Fin 7) : (ofIndex index).number = index + 1 := by
  revert index
  decide

-- The weekday of the day `day` days after 1970-01-01, a Thursday.
def ofDay (day : Int) : Weekday := ofIndex ⟨((day + 3) % 7).toNat, by omega⟩

theorem number_ofDay (day : Int) : ((ofDay day).number : Int) = (day + 3) % 7 + 1 := by
  rw [ofDay, number_ofIndex]
  simp only
  omega

end Weekday

end EventTime.Calendar
