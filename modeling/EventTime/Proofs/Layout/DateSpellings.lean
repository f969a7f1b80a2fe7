import EventTime.Proofs.Template.Ranges
import Mathlib.Data.List.TFAE

-- Ways to spell a date: by month and day, by the day of the year, by the week of ISO 8601, and by
-- the week or the weekday of the month. Each of them tells the date.
namespace EventTime

open Calendar

namespace Field

-- The digits that suffice for a number that a date has. Years are as long as they need to be.
def dateWidth? : Field → Option Nat
  | month | weekOfYear | day => some 2
  | weekOfMonth | weekdayOfMonth | weekdayNumber => some 1
  | dayOfYear => some 3
  | _ => none

-- The time of day does not matter for years and for the numbers that a date has.
def IsOfDate (kind : Field) : Prop :=
  ∀ first second : DateTime, first.date = second.date → kind.number? first = kind.number? second

theorem isOfDate_of_dateWidth? {kind : Field} {width : Nat}
    (hwidth : kind.dateWidth? = some width) : kind.IsOfDate := by
  intro first second hdate
  cases kind with
  | month | weekOfYear | weekOfMonth | dayOfYear | day | weekdayOfMonth | weekdayNumber =>
      simp only [number?, hdate]
  | _ => cases hwidth

theorem isOfDate_of_year {kind : Field} (hkind : kind = .year ∨ kind = .weekYear) :
    kind.IsOfDate := by
  intro first second hdate
  rcases hkind with rfl | rfl <;> simp only [number?, hdate]

theorem bounds?_of_dateWidth? (date : Date) {kind : Field} {width : Nat}
    (hwidth : kind.dateWidth? = some width) :
    ∃ least greatest, kind.bounds? date = some (least, greatest) ∧ greatest < 10 ^ width := by
  have hlength := date.month.length_le (isLeap date.year)
  have hyear := yearLength_le date.year
  cases kind with
  | month | weekOfYear | weekOfMonth | dayOfYear | day | weekdayOfMonth | weekdayNumber =>
      cases hwidth
      exact ⟨1, _, rfl, by omega⟩
  | _ => cases hwidth

theorem dateWidth?_pos {kind : Field} {width : Nat} (hwidth : kind.dateWidth? = some width) :
    0 < width := by
  cases kind <;> cases hwidth <;> decide

theorem render_year (reading : Reading) {kind : Field} (hkind : kind = .year ∨ kind = .weekYear) :
    ∃ year, kind.number? reading.time.dateTime = some year ∧
      kind.render reading 4 = Decimal.padded 4 year := by
  rcases hkind with rfl | rfl
  · exact ⟨_, rfl, render_of_number? reading 4 .year _ rfl (by decide : 4 ≠ 2)⟩
  · exact ⟨_, rfl, render_of_number? reading 4 .weekYear _ rfl (by decide : 4 ≠ 2)⟩

theorem render_of_dateWidth? (reading : Reading) {kind : Field} {width : Nat} {number : Nat}
    (hwidth : kind.dateWidth? = some width)
    (hnumber : kind.number? reading.time.dateTime = some (number : Int)) :
    kind.render reading width = Decimal.padded width number := by
  cases kind with
  | month =>
      cases hwidth
      exact render_of_number? reading 2 .month number hnumber (Nat.le_refl 2)
  | weekOfYear | weekOfMonth | dayOfYear | day | weekdayOfMonth | weekdayNumber =>
      cases hwidth
      exact render_of_number? reading _ _ number hnumber trivial
  | _ => cases hwidth

end Field

namespace Slot

-- The numbers of the slots, and what they write.
theorem exists_numbers (reading : Reading) (slots : List Slot)
    (hwidth : ∀ slot ∈ slots, slot.kind.dateWidth? = some slot.width) :
    ∃ numbers : List Nat, List.Forall₂ Fits slots numbers ∧
      slots.map (fun slot => slot.kind.number? reading.time.dateTime) =
        numbers.map (fun number : Nat => some (number : Int)) ∧
      (slots.flatMap pieces).flatMap (Piece.render reading) = writeAll slots numbers := by
  induction slots with
  | nil => exact ⟨[], .nil, rfl, rfl⟩
  | cons slot slots ih =>
      obtain ⟨hslot, hslots⟩ := List.forall_mem_cons.mp hwidth
      obtain ⟨numbers, hfits, hnumbers, htext⟩ := ih hslots
      obtain ⟨least, greatest, hbounds, hwide⟩ :=
        Field.bounds?_of_dateWidth? reading.time.dateTime.date hslot
      obtain ⟨number, hnumber, -, hgreatest⟩ :=
        slot.kind.number?_of_bounds? reading.time.dateTime least greatest hbounds
      have hfit : slot.Fits number := ⟨Field.dateWidth?_pos hslot, by omega⟩
      refine ⟨number :: numbers, .cons hfit hfits, ?_, ?_⟩
      · rw [List.map_cons, List.map_cons, hnumber, hnumbers]
      · rw [List.flatMap_cons, List.flatMap_append, htext, flatMap_render_pieces,
          Field.render_of_dateWidth? reading hslot hnumber]
        rfl

-- Only the year varies in length.
theorem padded_append_writeAll_inj (width : Nat) {year other : Int} {slots : List Slot}
    {numbers others : List Nat} (hfits : List.Forall₂ Fits slots numbers)
    (hotherFits : List.Forall₂ Fits slots others) :
    Decimal.padded width year ++ writeAll slots numbers =
        Decimal.padded width other ++ writeAll slots others ↔
      year = other ∧ numbers = others := by
  constructor
  · intro hsame
    have hlength : (writeAll slots numbers).length = (writeAll slots others).length := by
      rw [length_writeAll hfits, length_writeAll hotherFits]
    obtain ⟨hyears, hrest⟩ := List.append_inj' hsame hlength
    have hyear := Decimal.integer?_padded width year
    have hnumbers := readAll_writeAll hfits
    rw [hyears, Decimal.integer?_padded] at hyear
    rw [hrest, readAll_writeAll hotherFits] at hnumbers
    exact ⟨(Option.some.inj hyear).symm, (Option.some.inj hnumbers).symm⟩
  · rintro ⟨rfl, rfl⟩
    rfl

end Slot

-- A year, and numbers of the date behind it that have as many digits as they can need.
structure DateSpelling where
  source : String
  year : Field
  slots : List Slot
  parse : Template.parse source = .ok ⟨source, .field year 4 :: slots.flatMap Slot.pieces⟩
  isYear : year = .year ∨ year = .weekYear
  width : ∀ slot ∈ slots, slot.kind.dateWidth? = some slot.width
  tells : ∀ first second : DateTime,
    (∀ kind ∈ year :: slots.map Slot.kind, kind.number? first = kind.number? second) →
    first.date = second.date

namespace DateSpelling

variable (spelling : DateSpelling)

-- The text of a year in full and of numbers behind it, each of its own length.
theorem exists_text (zone : Zone) {millis : Int} (hshown : Millis.IsShown millis)
    (time : DateTime) (htime : zone.Shows millis time) :
    ∃ (year : Int) (numbers : List Nat), spelling.year.number? time = some year ∧
      List.Forall₂ Slot.Fits spelling.slots numbers ∧
      spelling.slots.map (fun slot => slot.kind.number? time) =
        numbers.map (fun number : Nat => some (number : Int)) ∧
      Template.renderSource? spelling.source zone millis =
        some (String.ofList (Decimal.padded 4 year ++ Slot.writeAll spelling.slots numbers)) := by
  obtain rfl := (zone.shows_iff millis time).mp htime
  obtain ⟨numbers, hfits, hnumbers, htext⟩ :=
    Slot.exists_numbers (zone.read millis) spelling.slots spelling.width
  obtain ⟨year, hyear, hfull⟩ := Field.render_year (zone.read millis) spelling.isYear
  refine ⟨year, numbers, hyear, hfits, hnumbers, ?_⟩
  rw [Template.renderSource?_of_parse spelling.parse zone hshown, List.flatMap_cons, htext,
    Piece.render, hfull]

-- Two texts agree in the year and in each number behind it, which tell the date.
theorem renderSource?_eq_iff (zone otherZone : Zone) {millis other : Int}
    (hshown : Millis.IsShown millis) (hother : Millis.IsShown other) (time otherTime : DateTime)
    (htime : zone.Shows millis time) (hotherTime : otherZone.Shows other otherTime) :
    Template.renderSource? spelling.source zone millis =
        Template.renderSource? spelling.source otherZone other ↔
      time.date = otherTime.date := by
  obtain ⟨year, numbers, hyear, hfits, hnumbers, htext⟩ :=
    spelling.exists_text zone hshown time htime
  obtain ⟨otherYear, others, hotherYear, hotherFits, hothers, hotherText⟩ :=
    spelling.exists_text otherZone hother otherTime hotherTime
  rw [htext, hotherText, Option.some.injEq, String.ofList_inj,
    Slot.padded_append_writeAll_inj 4 hfits hotherFits]
  constructor
  · rintro ⟨rfl, rfl⟩
    apply spelling.tells
    rw [List.forall_mem_cons, List.forall_mem_map]
    exact ⟨hyear.trans hotherYear.symm, List.map_inj_left.mp (hnumbers.trans hothers.symm)⟩
  · intro hdate
    have hyears := Field.isOfDate_of_year spelling.isYear time otherTime hdate
    have hmap : spelling.slots.map (fun slot => slot.kind.number? time) =
        spelling.slots.map (fun slot => slot.kind.number? otherTime) :=
      List.map_congr_left fun slot hslot =>
        Field.isOfDate_of_dateWidth? (spelling.width slot hslot) time otherTime hdate
    have hinjective : Function.Injective fun number : Nat => some (number : Int) := by
      intro first second hsame
      exact Int.ofNat.inj (Option.some.inj hsame)
    rw [hyear, hotherYear, Option.some.injEq] at hyears
    rw [hnumbers, hothers] at hmap
    exact ⟨hyears, List.map_injective_iff.mpr hinjective hmap⟩

-- The month and the day of the month.
def day : DateSpelling where
  source := "yyyy-MM-dd"
  year := .year
  slots := [⟨['-'], .month, 2⟩, ⟨['-'], .day, 2⟩]
  parse := by decide +kernel
  isYear := .inl rfl
  width := by decide
  tells := by
    intro first second hsame
    simp only [List.map, List.forall_mem_cons, Field.number?, Option.some.injEq,
      Int.natCast_inj] at hsame
    obtain ⟨hyear, hmonth, hday, -⟩ := hsame
    exact Date.eq_of_day hyear hmonth hday

def dayOfYear : DateSpelling where
  source := "yyyy-DDD"
  year := .year
  slots := [⟨['-'], .dayOfYear, 3⟩]
  parse := by decide +kernel
  isYear := .inl rfl
  width := by decide
  tells := by
    intro first second hsame
    simp only [List.map, List.forall_mem_cons, Field.number?, Option.some.injEq,
      Int.natCast_inj] at hsame
    obtain ⟨hyear, hplace, -⟩ := hsame
    exact Date.eq_of_dayOfYear hyear hplace

-- The year of the week, which around New Year is not always the year of the date.
def week : DateSpelling where
  source := "YYYY-'W'ww-u"
  year := .weekYear
  slots := [⟨['-', 'W'], .weekOfYear, 2⟩, ⟨['-'], .weekdayNumber, 1⟩]
  parse := by decide +kernel
  isYear := .inr rfl
  width := by decide
  tells := by
    intro first second hsame
    simp only [List.map, List.forall_mem_cons, Field.number?, Option.some.injEq,
      Int.natCast_inj] at hsame
    obtain ⟨hyear, hweek, hweekday, -⟩ := hsame
    exact Date.eq_of_week hyear hweek hweekday

def weekOfMonth : DateSpelling where
  source := "yyyy-MM-W-u"
  year := .year
  slots := [⟨['-'], .month, 2⟩, ⟨['-'], .weekOfMonth, 1⟩, ⟨['-'], .weekdayNumber, 1⟩]
  parse := by decide +kernel
  isYear := .inl rfl
  width := by decide
  tells := by
    intro first second hsame
    simp only [List.map, List.forall_mem_cons, Field.number?, Option.some.injEq,
      Int.natCast_inj] at hsame
    obtain ⟨hyear, hmonth, hweek, hweekday, -⟩ := hsame
    exact Date.eq_of_weekOfMonth hyear hmonth hweekday hweek

def weekdayOfMonth : DateSpelling where
  source := "yyyy-MM-F-u"
  year := .year
  slots := [⟨['-'], .month, 2⟩, ⟨['-'], .weekdayOfMonth, 1⟩, ⟨['-'], .weekdayNumber, 1⟩]
  parse := by decide +kernel
  isYear := .inl rfl
  width := by decide
  tells := by
    intro first second hsame
    simp only [List.map, List.forall_mem_cons, Field.number?, Option.some.injEq,
      Int.natCast_inj] at hsame
    obtain ⟨hyear, hmonth, hplace, hweekday, -⟩ := hsame
    exact Date.eq_of_weekdayOfMonth hyear hmonth hweekday hplace

end DateSpelling

namespace Template

-- The letters for weeks show the same text on all days of one week.
theorem renderSource?_week (kind : Field) (hkind : kind = .weekYear ∨ kind = .weekOfYear)
    (width : Nat) (hwidth : 1 ≤ width) (zone otherZone : Zone) {millis other : Int}
    (hshown : Millis.IsShown millis) (hother : Millis.IsShown other) (time otherTime : DateTime)
    (htime : zone.Shows millis time) (hotherTime : otherZone.Shows other otherTime)
    (hweek : time.date.week = otherTime.date.week) :
    renderSource? (String.ofList (List.replicate width kind.letter)) zone millis =
      renderSource? (String.ofList (List.replicate width kind.letter)) otherZone other := by
  have hoffset : kind = .isoOffset → width ≤ 3 := by
    rintro rfl
    rcases hkind with hkind | hkind <;> cases hkind
  obtain rfl := (zone.shows_iff millis time).mp htime
  obtain rfl := (otherZone.shows_iff other otherTime).mp hotherTime
  rw [← Field.weekDate_reading, ← Field.weekDate_reading] at hweek
  rw [renderSource?_run kind width hwidth hoffset zone hshown,
    renderSource?_run kind width hwidth hoffset otherZone hother]
  rcases hkind with rfl | rfl <;> simp only [Field.render, hweek]

-- A week that holds the fourth of January is the first of that year.
theorem number?_firstWeek (zone : Zone) {millis : Int} (hshown : Millis.IsShown millis)
    (time : DateTime) (htime : zone.Shows millis time) {monday fourth : Date}
    (hmonday : monday.weekday = .monday) (hdate : monday.InWeekFrom time.date)
    (hmonth : fourth.month = .january) (hday : fourth.day = 4)
    (hfourth : monday.InWeekFrom fourth) :
    number? "ww" zone millis = some 1 ∧ number? "YYYY" zone millis = some fourth.year := by
  have hweek : time.date.week = ⟨fourth.year, 1⟩ :=
    WeekDate.ofDay_of_fourth_of_january hmonday hdate fourth hmonth hday hfourth
  have hnumber : Field.number? time .weekOfYear = some 1 := by
    rw [Field.number?, hweek]
    rfl
  have hyear : Field.number? time .weekYear = some fourth.year := by
    rw [Field.number?, hweek]
  constructor
  · exact number?_run .weekOfYear 2 (by decide) trivial zone hshown time htime 1 hnumber
  · exact number?_run .weekYear 4 (by decide) (by decide : 4 ≠ 2) zone hshown time htime _ hyear

-- Two instants have one date in their zones if their texts agree in any of the spellings, and then
-- they agree in all of them. Weeks go from Monday to Sunday, and the fourth of January is in the
-- first.
theorem date_spellings_agree (zone otherZone : Zone) (millis other : Int)
    (hshown : Millis.IsShown millis) (hother : Millis.IsShown other) (time otherTime : DateTime)
    (htime : zone.Shows millis time) (hotherTime : otherZone.Shows other otherTime) :
    let agree := fun source =>
      renderSource? source zone millis = renderSource? source otherZone other
    [ time.date = otherTime.date, agree "yyyy-MM-dd", agree "yyyy-DDD", agree "YYYY-'W'ww-u",
      agree "yyyy-MM-W-u", agree "yyyy-MM-F-u" ].TFAE ∧
    ∀ monday : Date, monday.weekday = .monday → monday.InWeekFrom time.date →
      (monday.InWeekFrom otherTime.date → ∀ width, 1 ≤ width →
        agree (String.ofList (List.replicate width 'Y')) ∧
        agree (String.ofList (List.replicate width 'w'))) ∧
      ∀ fourth : Date, fourth.month = .january → fourth.day = 4 → monday.InWeekFrom fourth →
        number? "ww" zone millis = some 1 ∧ number? "YYYY" zone millis = some fourth.year := by
  intro agree
  constructor
  · have hspelling : ∀ spelling : DateSpelling,
        agree spelling.source ↔ time.date = otherTime.date := by
      intro spelling
      exact spelling.renderSource?_eq_iff zone otherZone hshown hother time otherTime htime
        hotherTime
    apply List.tfae_of_forall (time.date = otherTime.date)
    intro same hsame
    simp only [List.mem_cons, List.not_mem_nil, or_false] at hsame
    rcases hsame with rfl | rfl | rfl | rfl | rfl | rfl
    · exact Iff.rfl
    · exact hspelling .day
    · exact hspelling .dayOfYear
    · exact hspelling .week
    · exact hspelling .weekOfMonth
    · exact hspelling .weekdayOfMonth
  · intro monday hmonday hdate
    constructor
    · intro hotherDate width hwidth
      have hweek := Date.week_eq_of_inWeekFrom hmonday hdate hotherDate
      constructor
      · exact renderSource?_week .weekYear (.inl rfl) width hwidth zone otherZone hshown hother time
          otherTime htime hotherTime hweek
      · exact renderSource?_week .weekOfYear (.inr rfl) width hwidth zone otherZone hshown hother
          time otherTime htime hotherTime hweek
    · intro fourth hmonth hday hfourth
      exact number?_firstWeek zone hshown time htime hmonday hdate hmonth hday hfourth

-- New Year's Eve of 2024 and the day after lie in the first week of 2025.
theorem date_spellings_agree_new_year :
    let noon : Clock := ⟨12, 0, 0, 0, by decide, by decide, by decide, by decide⟩
    let last : Date := ⟨2024, .december, 31, by decide, by decide⟩
    let first : Date := ⟨2025, .january, 1, by decide, by decide⟩
    let monday : Date := ⟨2024, .december, 30, by decide, by decide⟩
    let fourth : Date := ⟨2025, .january, 4, by decide, by decide⟩
    let utc := Zone.fixed (.ofSeconds 0)
    Millis.IsShown 1735659000000 ∧ Millis.IsShown 1735732800000 ∧
    Zone.host.Shows 1735659000000 ⟨last, noon⟩ ∧ utc.Shows 1735732800000 ⟨first, noon⟩ ∧
    monday.weekday = .monday ∧ monday.InWeekFrom last ∧ monday.InWeekFrom first ∧
    monday.InWeekFrom fourth ∧
    renderSource? "YYYY" .host 1735659000000 = renderSource? "YYYY" utc 1735732800000 ∧
    number? "ww" .host 1735659000000 = some 1 ∧ number? "YYYY" .host 1735659000000 = some 2025 ∧
    renderSource? "YYYY-'W'ww-u" .host 1735659000000 ≠
      renderSource? "YYYY-'W'ww-u" utc 1735732800000 := by
  intro noon last first monday fourth utc
  have hlastShown : Millis.IsShown 1735659000000 := by unfold Millis.IsShown; decide
  have hfirstShown : Millis.IsShown 1735732800000 := by unfold Millis.IsShown; decide
  have hlast : Zone.host.Shows 1735659000000 ⟨last, noon⟩ := by
    unfold Zone.Shows
    decide +kernel
  have hfirst : utc.Shows 1735732800000 ⟨first, noon⟩ := by
    unfold Zone.Shows
    decide +kernel
  have hmonday : monday.weekday = .monday := by decide +kernel
  have hlastWeek : monday.InWeekFrom last := by unfold Date.InWeekFrom; decide +kernel
  have hfirstWeek : monday.InWeekFrom first := by unfold Date.InWeekFrom; decide +kernel
  have hfourthWeek : monday.InWeekFrom fourth := by unfold Date.InWeekFrom; decide +kernel
  obtain ⟨hspellings, hweeks⟩ := date_spellings_agree .host utc 1735659000000 1735732800000
    hlastShown hfirstShown ⟨last, noon⟩ ⟨first, noon⟩ hlast hfirst
  obtain ⟨hconstant, hnumbers⟩ := hweeks monday hmonday hlastWeek
  obtain ⟨hweek, hyear⟩ := hnumbers fourth rfl rfl hfourthWeek
  refine ⟨hlastShown, hfirstShown, hlast, hfirst, hmonday, hlastWeek, hfirstWeek, hfourthWeek,
    (hconstant hfirstWeek 4 (by decide)).1, hweek, hyear, ?_⟩
  intro hsame
  have hdate : last = first := (hspellings.out 0 3).mpr hsame
  exact absurd (congrArg Date.day hdate) (by decide)

end Template

end EventTime
