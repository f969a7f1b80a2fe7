import EventTime.Proofs.Text.Digits
import EventTime.Template.Render
import Mathlib.Data.List.Basic

-- The written forms of an offset, and how they are read.
-- All of them tell the whole minutes of the offset, and the side of UTC on which it lies.
namespace EventTime

-- Hours and minutes to the west or to the east.
structure Shift where
  isWest : Bool
  hours : Nat
  minutes : Nat
  hours_lt : hours < 24
  minutes_lt : minutes < 60

namespace Shift

def sign (shift : Shift) : Char := if shift.isWest then '-' else '+'

-- The minutes to the east.
def total (shift : Shift) : Int :=
  let distance : Int := 60 * shift.hours + shift.minutes
  if shift.isWest then -distance else distance

def ofDigits? (sign : Char) (hours minutes : List Char) : Option Shift :=
  match Numeral.natural? hours, Numeral.natural? minutes with
  | some hours, some minutes =>
    if h : (sign = '+' ∨ sign = '-') ∧ hours < 24 ∧ minutes < 60 then
      some ⟨sign = '-', hours, minutes, h.2.1, h.2.2⟩
    else none
  | _, _ => none

-- The letter Z, or a sign with two digits of hours and two of minutes.
-- A colon may stand between them.
def read? : List Char → Option Shift
  | ['Z'] => some ⟨false, 0, 0, by decide, by decide⟩
  | [sign, h, h', m, m'] => ofDigits? sign [h, h'] [m, m']
  | [sign, h, h', ':', m, m'] => ofDigits? sign [h, h'] [m, m']
  | _ => none

-- The whole minutes of an offset. What is left of a minute to the west still lies to the west.
def ofOffset (offset : Offset) : Shift :=
  have hday := offset.lt_day
  { isWest := offset.seconds < 0
    hours := offset.minutes / 60
    minutes := offset.minutes % 60
    hours_lt := by unfold Offset.minutes; omega
    minutes_lt := by omega }

theorem sign_ofOffset (offset : Offset) : (ofOffset offset).sign = offset.sign := by
  simp [sign, ofOffset, Offset.sign]

theorem total_ofOffset (offset : Offset) :
    (ofOffset offset).total = offset.seconds.tdiv 60 := by
  have hminutes : (60 * (offset.minutes / 60 : Nat) + (offset.minutes % 60 : Nat) : Int) =
      (offset.seconds.natAbs / 60 : Nat) := by
    unfold Offset.minutes
    omega
  simp only [total, ofOffset, decide_eq_true_eq, hminutes]
  by_cases hwest : offset.seconds < 0
  · obtain ⟨distance, hdistance⟩ := Int.exists_eq_neg_ofNat (Int.le_of_lt hwest)
    rw [if_pos hwest, hdistance, Int.neg_tdiv, Int.natAbs_neg]
    rfl
  · obtain ⟨distance, hdistance⟩ := Int.eq_ofNat_of_zero_le (Int.not_lt.mp hwest)
    rw [if_neg hwest, hdistance]
    rfl

theorem ofDigits?_padded (offset : Offset) :
    ofDigits? offset.sign (Decimal.padded 2 (offset.minutes / 60 : Nat))
      (Decimal.padded 2 (offset.minutes % 60 : Nat)) = some (ofOffset offset) := by
  have hsign : offset.sign = '+' ∨ offset.sign = '-' := by
    unfold Offset.sign
    split
    · exact .inr rfl
    · exact .inl rfl
  have hwest : decide (offset.sign = '-') = decide (offset.seconds < 0) := by
    unfold Offset.sign
    split <;> simp_all
  simp only [ofDigits?, Decimal.natural?_padded]
  rw [dif_pos ⟨hsign, (ofOffset offset).hours_lt, (ofOffset offset).minutes_lt⟩]
  simp only [hwest, ofOffset]

end Shift

namespace Offset

-- Hours and minutes take two digits each.
theorem exists_digits (offset : Offset) :
    ∃ h h' m m', Decimal.padded 2 (offset.minutes / 60 : Nat) = [h, h'] ∧
      Decimal.padded 2 (offset.minutes % 60 : Nat) = [m, m'] ∧ m'.isDigit = true := by
  have hday := offset.lt_day
  have hhours : offset.minutes / 60 < 10 ^ 2 := by
    unfold Offset.minutes
    omega
  have hminutes : offset.minutes % 60 < 10 ^ 2 := by omega
  obtain ⟨h, h', hh⟩ := List.length_eq_two.mp (Decimal.length_padded_of_lt 2 _ (by decide) hhours)
  obtain ⟨m, m', hm⟩ := List.length_eq_two.mp (Decimal.length_padded_of_lt 2 _ (by decide) hminutes)
  have hdigit := Decimal.isDigit_of_mem_padded 2 (offset.minutes % 60) m' (by rw [hm]; simp)
  exact ⟨h, h', m, m', hh, hm, hdigit⟩

theorem read?_basicText (offset : Offset) :
    Shift.read? offset.basicText = some (Shift.ofOffset offset) := by
  have hread := Shift.ofDigits?_padded offset
  obtain ⟨h, h', m, m', hhours, hminutes, -⟩ := offset.exists_digits
  rw [hhours, hminutes] at hread
  simp only [basicText, hourText, minuteText, hhours, hminutes, List.cons_append,
    List.nil_append, Shift.read?, hread]

theorem read?_extendedText (offset : Offset) :
    Shift.read? offset.extendedText = some (Shift.ofOffset offset) := by
  have hread := Shift.ofDigits?_padded offset
  obtain ⟨h, h', m, m', hhours, hminutes, -⟩ := offset.exists_digits
  rw [hhours, hminutes] at hread
  simp only [extendedText, hourText, minuteText, hhours, hminutes, List.cons_append,
    List.nil_append, Shift.read?, hread]

-- The extended form has six characters, and the last one is a digit.
theorem length_extendedText (offset : Offset) : offset.extendedText.length = 6 := by
  obtain ⟨h, h', m, m', hhours, hminutes, -⟩ := offset.exists_digits
  rw [extendedText, hourText, minuteText, hhours, hminutes]
  rfl

theorem exists_getLast?_extendedText (offset : Offset) :
    ∃ c, offset.extendedText.getLast? = some c ∧ c.isDigit = true := by
  obtain ⟨h, h', m, m', hhours, hminutes, hdigit⟩ := offset.exists_digits
  refine ⟨m', ?_, hdigit⟩
  rw [extendedText, hourText, minuteText, hhours, hminutes]
  rfl

theorem fullText_of_whole (offset : Offset) (hwhole : offset.seconds % 60 = 0) :
    offset.fullText = offset.extendedText := by
  have hnone : offset.seconds.natAbs % 60 = 0 := by omega
  rw [fullText, if_pos hnone, List.append_nil]

end Offset

namespace Field

theorem isoOffsetText_of_zero (width : Nat) (offset : Offset) (hzero : offset.seconds = 0) :
    isoOffsetText width offset = ['Z'] := if_pos hzero

theorem isoOffsetText_one (offset : Offset) (hne : offset.seconds ≠ 0) :
    isoOffsetText 1 offset = offset.hourText := by
  rw [isoOffsetText, if_neg hne, if_pos rfl]

theorem isoOffsetText_two (offset : Offset) (hne : offset.seconds ≠ 0) :
    isoOffsetText 2 offset = offset.basicText := by
  rw [isoOffsetText, if_neg hne, if_neg (by decide), if_neg (by decide)]

theorem isoOffsetText_three (offset : Offset) (hne : offset.seconds ≠ 0) :
    isoOffsetText 3 offset = offset.extendedText := by
  rw [isoOffsetText, if_neg hne, if_neg (by decide), if_pos rfl]

-- The letter Z stands for no offset, and nothing else does.
theorem isoOffsetText_eq_Z_iff (width : Nat) (offset : Offset) :
    isoOffsetText width offset = ['Z'] ↔ offset.seconds = 0 := by
  constructor
  · intro htext
    by_contra hne
    have hhead : (isoOffsetText width offset).head? = some offset.sign := by
      unfold isoOffsetText
      rw [if_neg hne]
      split
      · rfl
      · split <;> rfl
    rw [htext, List.head?_cons, Option.some.injEq, Offset.sign] at hhead
    split at hhead <;> cases hhead
  · exact isoOffsetText_of_zero width offset

theorem read?_isoOffsetText (width : Nat) (offset : Offset) (hwidth : width ≠ 1) :
    Shift.read? (isoOffsetText width offset) = some (Shift.ofOffset offset) := by
  by_cases hzero : offset.seconds = 0
  · rw [isoOffsetText_of_zero width offset hzero]
    simp [Shift.read?, Shift.ofOffset, Offset.minutes, hzero]
  · rw [isoOffsetText, if_neg hzero, if_neg hwidth]
    split
    · exact offset.read?_extendedText
    · exact offset.read?_basicText

end Field

end EventTime
