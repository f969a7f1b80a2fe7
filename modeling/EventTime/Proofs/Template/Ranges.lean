import EventTime.Proofs.Calendar.Weeks
import EventTime.Proofs.Template.NameTables

-- What the fields of a template can show: decimals between two bounds, years, and names of a table.
namespace EventTime

open Calendar

namespace Field

-- The least and the greatest number that a field shows on a date. Years have no bounds.
def bounds? (date : Date) : Field → Option (Nat × Nat)
  | month => some (1, 12)
  | weekOfYear => some (1, 53)
  | weekOfMonth => some (1, 6)
  | dayOfYear => some (1, yearLength date.year)
  | day => some (1, date.month.length (isLeap date.year))
  | weekdayOfMonth => some (1, 5)
  | weekdayNumber => some (1, 7)
  | hourFrom0To23 => some (0, 23)
  | hourFrom1To24 => some (1, 24)
  | hourFrom0To11 => some (0, 11)
  | hourFrom1To12 => some (1, 12)
  | minute | second => some (0, 59)
  | milli => some (0, 999)
  | year | weekYear | era | weekday | halfDay | zoneName | zoneOffset | isoOffset => none

theorem hourTo_bounds (last hour : Nat) (hhour : hour < last) :
    1 ≤ hourTo last hour ∧ hourTo last hour ≤ last ∧ hourTo last hour % last = hour := by
  unfold hourTo
  split
  · rename_i hzero
    rw [Nat.mod_self]
    omega
  · rw [Nat.mod_eq_of_lt hhour]
    omega

-- In the second half of the day, twelve hours are missing from the hour of that half.
theorem hours_agree (clock : Clock) :
    hourTo 24 clock.hour % 24 = clock.hour ∧
      hourTo 12 clock.hourOfHalfDay % 12 = clock.hourOfHalfDay ∧
      (clock.hour = clock.hourOfHalfDay + 12 ↔ 12 ≤ clock.hour) := by
  have hhour := clock.hour_lt
  have hhalf : clock.hourOfHalfDay = clock.hour % 12 := rfl
  obtain ⟨-, -, hmod⟩ := hourTo_bounds 24 clock.hour hhour
  obtain ⟨-, -, hmodHalf⟩ := hourTo_bounds 12 clock.hourOfHalfDay (by omega)
  refine ⟨hmod, hmodHalf, ?_⟩
  omega

theorem number?_of_bounds? (time : DateTime) (kind : Field) (least greatest : Nat)
    (hbounds : kind.bounds? time.date = some (least, greatest)) :
    ∃ number : Nat, kind.number? time = some (number : Int) ∧ least ≤ number ∧
      number ≤ greatest := by
  have hhour := time.clock.hour_lt
  have hhalf : time.clock.hourOfHalfDay < 12 := Nat.mod_lt _ (by decide)
  cases kind with
  | month =>
      cases hbounds
      exact ⟨_, rfl, time.date.month.one_le_number, Nat.le_of_lt_succ time.date.month.number_lt⟩
  | weekOfYear =>
      cases hbounds
      exact ⟨_, rfl, WeekDate.week_bounds time.date.count⟩
  | weekOfMonth =>
      cases hbounds
      exact ⟨_, rfl, time.date.weekOfMonth_bounds⟩
  | dayOfYear =>
      cases hbounds
      exact ⟨_, rfl, time.date.dayOfYear_bounds⟩
  | day =>
      cases hbounds
      exact ⟨_, rfl, time.date.one_le_day, time.date.day_le_length⟩
  | weekdayOfMonth =>
      cases hbounds
      exact ⟨_, rfl, time.date.weekdayOfMonth_bounds⟩
  | weekdayNumber =>
      cases hbounds
      exact ⟨_, rfl, time.date.weekday.number_bounds⟩
  | hourFrom0To23 =>
      cases hbounds
      exact ⟨_, rfl, Nat.zero_le _, Nat.le_of_lt_succ hhour⟩
  | hourFrom1To24 =>
      cases hbounds
      obtain ⟨hfirst, hlast, -⟩ := hourTo_bounds 24 time.clock.hour hhour
      exact ⟨_, rfl, hfirst, hlast⟩
  | hourFrom0To11 =>
      cases hbounds
      exact ⟨_, rfl, Nat.zero_le _, Nat.le_of_lt_succ hhalf⟩
  | hourFrom1To12 =>
      cases hbounds
      obtain ⟨hfirst, hlast, -⟩ := hourTo_bounds 12 time.clock.hourOfHalfDay hhalf
      exact ⟨_, rfl, hfirst, hlast⟩
  | minute =>
      cases hbounds
      exact ⟨_, rfl, Nat.zero_le _, Nat.le_of_lt_succ time.clock.minute_lt⟩
  | second =>
      cases hbounds
      exact ⟨_, rfl, Nat.zero_le _, Nat.le_of_lt_succ time.clock.second_lt⟩
  | milli =>
      cases hbounds
      exact ⟨_, rfl, Nat.zero_le _, Nat.le_of_lt_succ time.clock.milli_lt⟩
  | year | weekYear | era | weekday | halfDay | zoneName | zoneOffset | isoOffset => cases hbounds

-- The texts that a field of so many letters may have at a date and time.
-- Nothing is said here of the texts that name a zone or an offset.
inductive Prints (time : DateTime) : Field → Nat → List Char → Prop where
  | number {kind : Field} {width : Nat} {text : List Char} {least greatest number : Nat}
      (hplain : kind.IsPlain width) (hbounds : kind.bounds? time.date = some (least, greatest))
      (hnumber : kind.number? time = some (number : Int)) (hleast : least ≤ number)
      (hgreatest : number ≤ greatest) (hread : Numeral.natural? text = some number)
      (hwidth : width ≤ text.length) : Prints time kind width text
  | year {kind : Field} {width : Nat} {text : List Char} {year : Int}
      (hkind : kind = .year ∨ kind = .weekYear) (hwidth : width ≠ 2)
      (hnumber : kind.number? time = some year) (hread : Decimal.integer? text = some year)
      (hlength : max width 4 ≤ text.length) : Prints time kind width text
  | yearOfCentury {kind : Field} {text : List Char} {year : Int} {rest : Nat}
      (hkind : kind = .year ∨ kind = .weekYear) (hnumber : kind.number? time = some year)
      (hrest : (rest : Int) = year % 100) (hread : Numeral.natural? text = some rest)
      (hlength : text.length = 2) : Prints time kind 2 text
  | name {kind : Field} {width : Nat} {table : List String} {place : Nat} {name : String}
      (hlisting : kind.listing? time width = some (table, place + 1))
      (hname : table[place]? = some name) : Prints time kind width name.toList
  | era {width : Nat} :
      Prints time .era width (if 0 < time.date.year then ['A', 'D'] else ['B', 'C'])
  | halfDay {width : Nat} :
      Prints time .halfDay width (if time.clock.hour < 12 then ['A', 'M'] else ['P', 'M'])
  | zone {kind : Field} {width : Nat} {text : List Char}
      (hkind : kind = .zoneName ∨ kind = .zoneOffset ∨ kind = .isoOffset) :
      Prints time kind width text

section Render

variable (reading : Reading) (width : Nat)

theorem prints_of_bounds? (kind : Field) (least greatest : Nat) (hplain : kind.IsPlain width)
    (hbounds : kind.bounds? reading.time.dateTime.date = some (least, greatest)) :
    kind.Prints reading.time.dateTime width (kind.render reading width) := by
  obtain ⟨number, hnumber, hleast, hgreatest⟩ :=
    number?_of_bounds? reading.time.dateTime kind least greatest hbounds
  rw [render_of_number? reading width kind number hnumber hplain]
  refine .number hplain hbounds hnumber hleast hgreatest (Decimal.natural?_padded _ _) ?_
  exact (kind.le_digits width).trans (Decimal.le_length_padded _ _)

theorem prints_of_listing? (kind : Field) (table : List String) (number : Nat)
    (hlisting : kind.listing? reading.time.dateTime width = some (table, number)) :
    kind.Prints reading.time.dateTime width (kind.render reading width) := by
  obtain ⟨name, hname, hrender⟩ := lookUp?_of_listing? reading width kind table number hlisting
  rw [hrender]
  cases number with
  | zero => cases hname
  | succ place => exact .name hlisting hname

-- A year is written in full, or in two letters by the rest that a century leaves.
theorem prints_year (kind : Field) (hkind : kind = .year ∨ kind = .weekYear) (year : Int)
    (hnumber : kind.number? reading.time.dateTime = some year) :
    kind.Prints reading.time.dateTime width (yearText width year) := by
  unfold yearText
  split
  · rename_i hwidth
    subst hwidth
    obtain ⟨rest, hrest⟩ := Int.eq_ofNat_of_zero_le (Int.emod_nonneg year (b := 100) (by decide))
    have hsmall := Int.emod_lt_of_pos year (b := 100) (by decide)
    rw [hrest]
    refine .yearOfCentury hkind hnumber hrest.symm (Decimal.natural?_padded 2 rest) ?_
    exact Decimal.length_padded_of_lt 2 rest (by decide) (by omega)
  · rename_i hwidth
    exact .year hkind hwidth hnumber (Decimal.integer?_padded _ year)
      (Decimal.le_length_padded _ year)

theorem prints_render (kind : Field) :
    kind.Prints reading.time.dateTime width (kind.render reading width) := by
  cases kind with
  | month =>
      by_cases hnarrow : width ≤ 2
      · exact prints_of_bounds? reading width .month 1 12 hnarrow rfl
      · exact prints_of_listing? reading width .month _ _ (if_neg hnarrow)
  | weekday => exact prints_of_listing? reading width .weekday _ _ rfl
  | year => exact prints_year reading width .year (.inl rfl) _ rfl
  | weekYear =>
      rw [render, weekDate_reading]
      exact prints_year reading width .weekYear (.inr rfl) _ rfl
  | era => exact .era
  | halfDay =>
      simp only [render, Clock.isMorning, decide_eq_true_eq]
      exact .halfDay
  | zoneName => exact .zone (.inl rfl)
  | zoneOffset => exact .zone (.inr (.inl rfl))
  | isoOffset => exact .zone (.inr (.inr rfl))
  | weekOfYear | weekOfMonth | dayOfYear | day | weekdayOfMonth | weekdayNumber | hourFrom0To23 |
    hourFrom1To24 | hourFrom0To11 | hourFrom1To12 | minute | second | milli =>
      exact prints_of_bounds? reading width _ _ _ trivial rfl

end Render

end Field

-- A text is written as it stands.
inductive Piece.Prints (time : DateTime) : Piece → List Char → Prop where
  | text (chars : List Char) : Prints time (.text chars) chars
  | field {kind : Field} {width : Nat} {text : List Char} (hfield : kind.Prints time width text) :
      Prints time (.field kind width) text

theorem Piece.prints_render (reading : Reading) (piece : Piece) :
    piece.Prints reading.time.dateTime (piece.render reading) := by
  cases piece with
  | text chars => exact .text chars
  | field kind width => exact .field (kind.prints_render reading width)

namespace Template

theorem prints_renderPieces (pieces : List Piece) (zone : Zone) (millis : Int) :
    ∃ texts, renderPieces pieces zone millis = texts.flatten ∧
      List.Forall₂ (Piece.Prints (zone.read (Millis.shown millis)).time.dateTime) pieces texts := by
  refine ⟨pieces.map (Piece.render (zone.read (Millis.shown millis))), rfl, ?_⟩
  rw [List.forall₂_map_right_iff]
  exact List.forall₂_same.mpr fun piece _ => piece.prints_render _

theorem renderSource?_halfDay (zone : Zone) (millis : Int) (width : Nat) (hwidth : 1 ≤ width) :
    renderSource? (String.ofList (List.replicate width 'a')) zone millis = some "PM" ↔
      12 ≤ (zone.read (Millis.shown millis)).time.clock.hour := by
  have hrun := renderSource?_run .halfDay width hwidth nofun zone (Millis.isShown_shown millis)
  rw [renderSource?_shown] at hrun
  rw [show 'a' = Field.letter .halfDay from rfl, hrun]
  simp only [Field.render, Clock.isMorning, decide_eq_true_eq]
  split
  · rename_i hmorning
    exact ⟨fun htext => absurd htext (by decide), fun hhour => absurd hmorning (by omega)⟩
  · rename_i hevening
    exact ⟨fun _ => Nat.not_lt.mp hevening, fun _ => rfl⟩

-- Every template is written to its end at every instant, and every text in it is inside the bounds
-- of its field on the date that the zone shows. The four ways to tell the hour are one hour.
theorem render_within_bounds (template : Template) (zone : Zone) (millis : Int) :
    template.renderByTable? zone millis = some (template.render zone millis) ∧
    (∃ time texts, zone.Shows (Millis.shown millis) time ∧
      template.render zone millis = String.ofList texts.flatten ∧
      List.Forall₂ (Piece.Prints time) template.pieces texts) ∧
    ∃ hour hourTo24 half halfTo12 : Nat,
      (∀ width, 1 ≤ width →
        let source := fun letter => String.ofList (List.replicate width letter)
        number? (source 'H') zone millis = some (hour : Int) ∧
        number? (source 'k') zone millis = some (hourTo24 : Int) ∧
        number? (source 'K') zone millis = some (half : Int) ∧
        number? (source 'h') zone millis = some (halfTo12 : Int) ∧
        (hour = half + 12 ↔ renderSource? (source 'a') zone millis = some "PM")) ∧
      hourTo24 % 24 = hour ∧ halfTo12 % 12 = half := by
  refine ⟨template.renderByTable?_eq zone millis, ?_, ?_⟩
  · obtain ⟨texts, htexts, hprints⟩ := prints_renderPieces template.pieces zone millis
    exact ⟨_, texts, zone.shows_read _, congrArg String.ofList htexts, hprints⟩
  · obtain ⟨hmod, hmodHalf, hevening⟩ :=
      Field.hours_agree (zone.read (Millis.shown millis)).time.clock
    refine ⟨_, _, _, _, ?_, hmod, hmodHalf⟩
    intro width hwidth source
    refine ⟨?_, ?_, ?_, ?_, ?_⟩
    · exact number?_run_read .hourFrom0To23 width hwidth trivial zone millis _ rfl
    · exact number?_run_read .hourFrom1To24 width hwidth trivial zone millis _ rfl
    · exact number?_run_read .hourFrom0To11 width hwidth trivial zone millis _ rfl
    · exact number?_run_read .hourFrom1To12 width hwidth trivial zone millis _ rfl
    · exact hevening.trans (renderSource?_halfDay zone millis width hwidth).symm

-- The host sees the first instant of all on the last day of the year before, a leap year.
example : number? "D" .host Millis.earliestShown = some 366 := by decide +kernel

end Template

end EventTime
