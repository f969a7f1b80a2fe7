import EventTime.Proofs.Template.Numbers
import EventTime.Proofs.Text.Integers
import EventTime.Proofs.Text.Order
import Mathlib.Algebra.Ring.Int.Defs

-- Numbers that are brought to a width keep their value, and those of one width their order.
namespace EventTime

open Calendar

namespace Decimal

section Padded

variable (width : Nat)

theorem padded_eq (value : Int) :
    ∃ sign digits : List Char, sign = (if value < 0 then ['-'] else []) ∧ digits ≠ [] ∧
      (∀ c ∈ digits, c.isDigit = true) ∧ integer value = sign ++ digits ∧
      padded width value =
        sign ++ List.replicate (width - (integer value).length) '0' ++ digits := by
  refine ⟨_, natural value.natAbs, rfl, Nat.toDigits_ne_nil, fun c => isDigit_of_mem_natural,
    ?_, ?_⟩
  · unfold integer
    split <;> rfl
  · unfold padded integer zeroFill
    by_cases hnegative : value < 0
    · simp only [if_pos hnegative, List.length_cons, List.cons_append, List.nil_append,
        Nat.sub_add_eq, Nat.sub_right_comm]
    · simp only [if_neg hnegative, List.nil_append]

theorem padded_inj (first second : Int) :
    padded width first = padded width second ↔ first = second := by
  constructor
  · intro heq
    have hread := congrArg integer? heq
    rw [integer?_padded, integer?_padded] at hread
    exact Option.some.inj hread
  · rintro rfl
    rfl

theorem padded_lt_padded_iff {first second : Int} (hfirst : 0 ≤ first) (hsecond : 0 ≤ second)
    (hfirstLt : first < 10 ^ width) (hsecondLt : second < 10 ^ width) :
    padded width first < padded width second ↔ first < second := by
  obtain ⟨first, rfl⟩ := Int.eq_ofNat_of_zero_le hfirst
  obtain ⟨second, rfl⟩ := Int.eq_ofNat_of_zero_le hsecond
  norm_cast at hfirstLt hsecondLt ⊢
  have hwidth : first < second ∨ second < first → 0 < width := by
    intro hne
    by_contra hzero
    rw [Nat.eq_zero_of_not_pos hzero, Nat.pow_zero] at hfirstLt hsecondLt
    omega
  rcases Nat.lt_trichotomy first second with hless | rfl | hmore
  · exact iff_of_true (padded_lt_padded width (hwidth (.inl hless)) hless hsecondLt) hless
  · exact iff_of_false (List.lt_irrefl _) (Nat.lt_irrefl _)
  · have hgreater := padded_lt_padded width (hwidth (.inr hmore)) hmore hfirstLt
    exact iff_of_false (List.lt_asymm hgreater) (Nat.lt_asymm hmore)

end Padded

end Decimal

namespace Field

-- The width and the number that a year of so many letters is written with.
-- In two letters only the rest of the century is left.
def yearPadding (letters : Nat) (year : Int) : Nat × Int :=
  if letters = 2 then (2, year % 100) else (max letters 4, year)

theorem yearText_eq (letters : Nat) (year : Int) :
    yearText letters year =
      Decimal.padded (yearPadding letters year).1 (yearPadding letters year).2 := by
  unfold yearText yearPadding
  split <;> rfl

-- The width and the number that a field of so many letters is written with, if it is a number.
def padding? (letters : Nat) (time : DateTime) (kind : Field) : Option (Nat × Int) :=
  match kind with
  | year | weekYear => (kind.number? time).map (yearPadding letters)
  | month => if letters ≤ 2 then (kind.number? time).map (letters, ·) else none
  | _ => (kind.number? time).map (letters, ·)

theorem render_of_padding? (reading : Reading) (letters : Nat) (kind : Field) {width : Nat}
    {value : Int} (hpadding : kind.padding? letters reading.time.dateTime = some (width, value)) :
    kind.render reading letters = Decimal.padded width value := by
  cases kind with
  | year =>
      have hpair : yearPadding letters reading.time.date.year = (width, value) :=
        Option.some.inj hpadding
      rw [render, yearText_eq, hpair]
  | weekYear =>
      have hpair : yearPadding letters reading.time.dateTime.date.week.year = (width, value) :=
        Option.some.inj hpadding
      rw [render, yearText_eq, weekDate_reading, hpair]
  | month =>
      by_cases hnarrow : letters ≤ 2
      · rw [padding?, if_pos hnarrow] at hpadding
        cases hpadding
        exact render_of_number? reading letters .month _ rfl hnarrow
      · rw [padding?, if_neg hnarrow] at hpadding
        cases hpadding
  | era | weekday | halfDay | zoneName | zoneOffset | isoOffset => cases hpadding
  | weekOfYear | weekOfMonth | dayOfYear | day | weekdayOfMonth | weekdayNumber | hourFrom0To23 |
    hourFrom1To24 | hourFrom0To11 | hourFrom1To12 | minute | second | milli =>
      cases hpadding
      exact render_of_number? reading letters _ _ rfl trivial

end Field

namespace Template

-- A field stands behind what is written before it, and nothing of that is changed.
theorem renderPieces_field (before after : List Piece) (kind : Field) (letters : Nat) (zone : Zone)
    (millis : Int) {width : Nat} {value : Int}
    (hpadding : kind.padding? letters (zone.read (Millis.shown millis)).time.dateTime =
      some (width, value)) :
    renderPieces (before ++ .field kind letters :: after) zone millis =
      renderPieces before zone millis ++ Decimal.padded width value ++
        renderPieces after zone millis := by
  simp only [renderPieces, List.flatMap_append, List.flatMap_cons, Piece.render,
    Field.render_of_padding? _ letters kind hpadding, List.append_assoc]

end Template

-- A number in a width is its decimal with zeros behind the sign, as many as the width has left.
-- It reads as the number, and it is as long as the width or as the decimal, whichever is longer.
-- So different numbers have different texts, and those from 0 on that fit the width stand in the
-- order of their characters as they do by value. What is written before a number stays.
theorem Decimal.padded_lossless (width : Nat) (value : Int) :
    let plain := (toString value).toList
    let text := padded width value
    (∃ sign digits : List Char, sign = (if value < 0 then ['-'] else []) ∧ digits ≠ [] ∧
      (∀ c ∈ digits, c.isDigit = true) ∧ plain = sign ++ digits ∧
      text = sign ++ List.replicate (width - plain.length) '0' ++ digits) ∧
    integer? text = some value ∧
    (Millis.Fits value → Numeral.read text = .ok value) ∧
    text.length = max width plain.length ∧
    (∀ other, padded width other = text ↔ other = value) ∧
    (∀ other, 0 ≤ value → 0 ≤ other → value < 10 ^ width → other < 10 ^ width →
      (String.ofList text < String.ofList (padded width other) ↔ value < other)) ∧
    ∀ (before after : List Piece) (kind : Field) (letters : Nat) (zone : Zone) (millis : Int),
      kind.padding? letters (zone.read (Millis.shown millis)).time.dateTime =
        some (width, value) →
      Template.renderPieces (before ++ .field kind letters :: after) zone millis =
        Template.renderPieces before zone millis ++ text ++
          Template.renderPieces after zone millis := by
  intro plain text
  have hplain : plain = integer value := by
    rw [← String.toList_ofList (l := integer value), ofList_integer]
  refine ⟨?_, integer?_padded width value, fun hfits => ?_, ?_, fun other => ?_, ?_, ?_⟩
  · rw [hplain]
    exact padded_eq width value
  · exact (Numeral.denotes_padded width hfits).read_eq
  · rw [hplain]
    exact length_padded width value
  · exact padded_inj width other value
  · intro other hvalue hother hvalueLt hotherLt
    rw [String.lt_iff, String.toList_ofList, String.toList_ofList]
    exact padded_lt_padded_iff width hvalue hother hvalueLt hotherLt
  · intro before after kind letters zone millis hpadding
    exact Template.renderPieces_field before after kind letters zone millis hpadding

-- A year before the first in six letters and then in two, the least number of 64 bits, for which
-- one place is not enough, and two numbers that would stand the other way round without zeros.
theorem Decimal.padded_lossless_negative_year :
    let zone := Zone.fixed (.ofSeconds 0)
    let millis := -63555701328000
    Millis.Fits (-44) ∧ Millis.Fits Millis.least ∧
    Field.year.padding? 6 (zone.read (Millis.shown millis)).time.dateTime = some (6, -44) ∧
    Numeral.read (padded 6 (-44)) = .ok (-44) ∧
    Numeral.read (padded 1 Millis.least) = .ok Millis.least ∧
    (padded 1 Millis.least).length = 20 ∧
    String.ofList (padded 3 9) < String.ofList (padded 3 10) ∧
    Template.renderPieces [.text ['y'], .field .year 6, .field .year 2] zone millis =
      ['y', '-', '0', '0', '0', '4', '4', '5', '6'] := by
  intro zone millis
  have hpadding : Field.year.padding? 6 (zone.read (Millis.shown millis)).time.dateTime =
      some (6, -44) := by decide +kernel
  have hbefore : Template.renderPieces [.text ['y']] zone millis = ['y'] := rfl
  have hafter : Template.renderPieces [.field .year 2] zone millis = ['5', '6'] := by
    decide +kernel
  obtain ⟨-, -, hread, -, -, -, hrender⟩ := padded_lossless 6 (-44)
  obtain ⟨-, -, hreadLeast, hlength, -⟩ := padded_lossless 1 Millis.least
  obtain ⟨-, -, -, -, -, horder, -⟩ := padded_lossless 3 9
  refine ⟨by decide, by decide, hpadding, hread (by decide), hreadLeast (by decide), ?_, ?_, ?_⟩
  · rw [hlength]
    decide +kernel
  · exact (horder 10 (by decide) (by decide) (by decide) (by decide)).mpr (by decide)
  · have hpieces := hrender [.text ['y']] [.field .year 2] .year 6 zone millis hpadding
    rw [hbefore, hafter] at hpieces
    exact hpieces

end EventTime
