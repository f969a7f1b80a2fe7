import EventTime.Proofs.Calendar.Days

-- Weeks of a month and weekdays of a month, counted over the days of the month one by one.
namespace EventTime.Calendar.Date

-- The days of the month from the one with a number to the date itself.
def daysFrom (first : Nat) (date : Date) : List Date :=
  (List.range' first (date.day + 1 - first)).filterMap (of? date.year date.month.number)

-- The day of the month with another number.
theorem of?_of_le (date : Date) (day : Nat) (hfirst : 1 ≤ day) (hlast : day ≤ date.day) :
    ∃ other : Date, of? date.year date.month.number day = some other ∧
      other.count = date.count - date.day + day := by
  have hbounds : 1 ≤ day ∧ day ≤ date.month.length (isLeap date.year) :=
    ⟨hfirst, Nat.le_trans hlast date.day_le_length⟩
  let other : Date := ⟨date.year, date.month, day, hbounds.1, hbounds.2⟩
  refine ⟨other, ?_, ?_⟩
  · rw [of?, Month.ofNumber?_number]
    exact dif_pos hbounds
  · have hdays : other.count - date.count = (day : Int) - date.day := count_sub_count rfl rfl
    omega

-- A weekday comes back every seven days, so that its days up to a number are a division by seven.
theorem countP_weekday (date : Date) (weekday : Weekday) (first count : Nat) (hfirst : 1 ≤ first)
    (hlast : first + count ≤ date.day + 1) :
    let before := date.count - date.day + 4 - weekday.number
    ((((List.range' first count).filterMap (of? date.year date.month.number)).countP
      (·.weekday = weekday) : Nat) : Int) =
        (before + first + count - 1) / 7 - (before + first - 1) / 7 := by
  intro before
  induction count with
  | zero => simp
  | succ count ih =>
      have hcount := ih (by omega)
      obtain ⟨other, hother, hday⟩ := date.of?_of_le (first + count) (by omega) (by omega)
      have hmonday := other.weekday_eq_iff weekday
      rw [List.range'_concat, Nat.one_mul, List.filterMap_append, List.countP_append,
        List.filterMap_cons, hother, List.filterMap_nil, List.countP_singleton]
      simp only [decide_eq_true_eq, hmonday, hday]
      split <;> omega

theorem countP_daysFrom (date : Date) (weekday : Weekday) (first : Nat) (hfirst : 1 ≤ first)
    (hlast : first ≤ date.day + 1) :
    (((date.daysFrom first).countP (·.weekday = weekday) : Nat) : Int) =
      (date.count + 4 - weekday.number) / 7 -
        (date.count - date.day + 4 - weekday.number + first - 1) / 7 := by
  have hcount := date.countP_weekday weekday first (date.day + 1 - first) hfirst (by omega)
  simp only at hcount
  rw [daysFrom, hcount]
  congr 2
  omega

def weekOfMonth (date : Date) : Nat := Calendar.weekOfMonth date.day date.weekday

def weekdayOfMonth (date : Date) : Nat := Calendar.weekdayOfMonth date.day

-- The weeks that have begun since the first day of the month, that day's own among them.
theorem cast_weekOfMonth (date : Date) :
    (date.weekOfMonth : Int) = (date.count + 3) / 7 - (date.count - date.day + 4) / 7 + 1 := by
  have hday := date.one_le_day
  have hnumber : (date.weekday.number : Int) - 1 = (date.count + 3) % 7 := by
    rw [date.number_weekday, Int.add_sub_cancel]
  have hbefore : ((date.count + 3) % 7 - (date.day - 1 : Nat)) % 7 =
      (date.count - date.day + 4) % 7 := by
    rw [Int.emod_sub_emod]
    congr 1
    omega
  simp only [weekOfMonth, Calendar.weekOfMonth, hnumber, hbefore]
  omega

theorem weekOfMonth_eq (date : Date) :
    date.weekOfMonth = 1 + (date.daysFrom 2).countP (·.weekday = .monday) := by
  have hday := date.one_le_day
  have hweek := date.cast_weekOfMonth
  have hcount := date.countP_daysFrom .monday 2 (by decide) (by omega)
  have hmonday : Weekday.monday.number = 1 := rfl
  rw [hmonday] at hcount
  omega

theorem weekdayOfMonth_eq (date : Date) :
    date.weekdayOfMonth = (date.daysFrom 1).countP (·.weekday = date.weekday) := by
  have hday := date.one_le_day
  have hnumber := date.number_weekday
  have hcount := date.countP_daysFrom date.weekday 1 (by decide) (by omega)
  unfold weekdayOfMonth Calendar.weekdayOfMonth
  omega

theorem weekOfMonth_bounds (date : Date) : 1 ≤ date.weekOfMonth ∧ date.weekOfMonth ≤ 6 := by
  have hday := date.day_le_length
  have hlength := date.month.length_le (isLeap date.year)
  unfold weekOfMonth Calendar.weekOfMonth
  simp only
  omega

theorem weekdayOfMonth_bounds (date : Date) :
    1 ≤ date.weekdayOfMonth ∧ date.weekdayOfMonth ≤ 5 := by
  have hday := date.day_le_length
  have hlength := date.month.length_le (isLeap date.year)
  unfold weekdayOfMonth Calendar.weekdayOfMonth
  omega

-- From one day of a month to the next, only a Monday opens a week.
theorem weekOfMonth_next {date next : Date} (hyear : date.year = next.year)
    (hmonth : date.month = next.month) (hday : next.day = date.day + 1) :
    next.weekOfMonth = date.weekOfMonth + if next.weekday = .monday then 1 else 0 := by
  have hcount := count_sub_count hyear hmonth
  have hweek := date.cast_weekOfMonth
  have hnextWeek := next.cast_weekOfMonth
  have hmonday := next.weekday_eq_iff .monday
  have hone : Weekday.monday.number = 1 := rfl
  rw [hone] at hmonday
  simp only [hmonday]
  split <;> omega

end EventTime.Calendar.Date
