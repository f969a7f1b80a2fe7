import EventTime.Proofs.Template.Numbers

-- The letters that count the weeks of a month, and the weekdays of a month.
namespace EventTime.Template

open Calendar

-- The week of the month is one more than the Mondays since its second day, and the place of a
-- weekday in the month is the number of days on that weekday up to the date. The day and the
-- weekday that are counted are those that the letters for them show.
theorem number?_weekOfMonth (zone : Zone) (millis : Int) (time : DateTime)
    (hshown : Millis.IsShown millis) (htime : zone.Shows millis time) :
    let date := time.date
    let shows := fun letter width =>
      number? (String.ofList (List.replicate width letter)) zone millis
    ∃ week nth : Nat,
      (∀ width, 1 ≤ width →
        shows 'd' width = some (date.day : Int) ∧
        shows 'u' width = some (date.weekday.number : Int) ∧
        shows 'W' width = some (week : Int) ∧ shows 'F' width = some (nth : Int)) ∧
      week = 1 + (date.daysFrom 2).countP (·.weekday = .monday) ∧
      nth = (date.daysFrom 1).countP (·.weekday = date.weekday) ∧
      (1 ≤ week ∧ week ≤ 6) ∧ (1 ≤ nth ∧ nth ≤ 5) ∧
      (date.day = 1 → week = 1) ∧
      ∀ otherZone other next, Millis.IsShown other → Zone.Shows otherZone other next →
        date.year = next.date.year → date.month = next.date.month →
        next.date.day = date.day + 1 →
        number? "W" otherZone other =
          some ((week + if next.date.weekday = .monday then 1 else 0 : Nat) : Int) := by
  intro date shows
  refine ⟨date.weekOfMonth, date.weekdayOfMonth, ?_, date.weekOfMonth_eq, date.weekdayOfMonth_eq,
    date.weekOfMonth_bounds, date.weekdayOfMonth_bounds, ?_, ?_⟩
  · intro width hwidth
    refine ⟨?_, ?_, ?_, ?_⟩
    · exact number?_run .day width hwidth trivial zone hshown time htime _ rfl
    · exact number?_run .weekdayNumber width hwidth trivial zone hshown time htime _ rfl
    · exact number?_run .weekOfMonth width hwidth trivial zone hshown time htime _ rfl
    · exact number?_run .weekdayOfMonth width hwidth trivial zone hshown time htime _ rfl
  · intro hfirst
    rw [date.weekOfMonth_eq, Date.daysFrom, hfirst]
    rfl
  · intro otherZone other next hother hnext hyear hmonth hday
    have hweek := Date.weekOfMonth_next hyear hmonth hday
    rw [← hweek]
    exact number?_run .weekOfMonth 1 (Nat.le_refl 1) trivial otherZone hother next hnext _ rfl

-- The fifth Monday of a month before 1970, and the day behind it.
theorem number?_weekOfMonth_fifth_monday :
    let noon : Clock := ⟨12, 0, 0, 0, by decide, by decide, by decide, by decide⟩
    let monday : Date := ⟨1969, .december, 29, by decide, by decide⟩
    let tuesday : Date := ⟨1969, .december, 30, by decide, by decide⟩
    Millis.IsShown (-203400000) ∧ Millis.IsShown (-117000000) ∧
    Zone.host.Shows (-203400000) ⟨monday, noon⟩ ∧ Zone.host.Shows (-117000000) ⟨tuesday, noon⟩ ∧
    number? "W" .host (-203400000) = some 5 ∧ number? "F" .host (-203400000) = some 5 ∧
    number? "W" .host (-117000000) = some 5 := by
  intro noon monday tuesday
  have hfirst : Millis.IsShown (-203400000) := by unfold Millis.IsShown; decide
  have hsecond : Millis.IsShown (-117000000) := by unfold Millis.IsShown; decide
  have hmonday : Zone.host.Shows (-203400000) ⟨monday, noon⟩ := by
    unfold Zone.Shows
    decide +kernel
  have htuesday : Zone.host.Shows (-117000000) ⟨tuesday, noon⟩ := by
    unfold Zone.Shows
    decide +kernel
  have hmondays : (monday.daysFrom 2).countP (·.weekday = .monday) = 4 := by decide +kernel
  have hall : (monday.daysFrom 1).countP (·.weekday = monday.weekday) = 5 := by decide +kernel
  have hlater : tuesday.weekday ≠ .monday := by decide +kernel
  obtain ⟨week, nth, hshows, hweek, hnth, -, -, -, hnext⟩ :=
    number?_weekOfMonth .host (-203400000) ⟨monday, noon⟩ hfirst hmonday
  obtain ⟨-, -, hW, hF⟩ := hshows 1 (Nat.le_refl 1)
  simp only at hweek hnth
  rw [hmondays] at hweek
  rw [hall] at hnth
  subst hweek hnth
  have hnextWeek := hnext .host (-117000000) ⟨tuesday, noon⟩ hsecond htuesday rfl rfl rfl
  simp only [if_neg hlater] at hnextWeek
  exact ⟨hfirst, hsecond, hmonday, htuesday, hW, hF, hnextWeek⟩

end EventTime.Template
