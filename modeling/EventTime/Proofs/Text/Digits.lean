import EventTime.Text.Numeral
import Mathlib.Algebra.Ring.Nat

-- Decimals can be read back, whatever width they were brought to.
namespace EventTime

theorem Numeral.natural?_natural (value : Nat) :
    natural? (Decimal.natural value) = some value := by
  have hdigits : (Decimal.natural value).all Char.isDigit = true := by
    rw [List.all_eq_true]
    intro c hc
    exact Nat.isDigit_of_mem_toDigits (by decide) (by decide) hc
  rw [natural?, if_pos ⟨Nat.toDigits_ne_nil, hdigits⟩, Decimal.natural,
    Nat.ofDigitChars_ten_toDigits]

theorem Numeral.isDigit_of_natural? {digits : List Char} {value : Nat}
    (hdigits : natural? digits = some value) (c : Char) (hc : c ∈ digits) : c.isDigit = true := by
  unfold natural? at hdigits
  split at hdigits
  · rename_i hall
    exact List.all_eq_true.mp hall.2 c hc
  · cases hdigits

-- Zeros on the left add nothing.
theorem Numeral.natural?_zeroFill (width : Nat) (digits : List Char) (value : Nat)
    (hdigits : natural? digits = some value) :
    natural? (Decimal.zeroFill width digits) = some value := by
  unfold natural? at hdigits ⊢
  split at hdigits
  · rename_i hall
    have hfilled : (Decimal.zeroFill width digits).all Char.isDigit = true := by
      rw [Decimal.zeroFill, List.all_append, hall.2, Bool.and_true, List.all_replicate]
      simp
    have hne : Decimal.zeroFill width digits ≠ [] :=
      List.append_ne_nil_of_right_ne_nil _ hall.1
    rw [if_pos ⟨hne, hfilled⟩, ← hdigits, Decimal.zeroFill, Nat.ofDigitChars_append,
      Nat.ofDigitChars_replicate_zero, Nat.mul_zero]
  · cases hdigits

namespace Decimal

-- The number of digits, with a minus sign before them if it is negative.
def integer? : List Char → Option Int
  | '-' :: digits => (Numeral.natural? digits).map fun value : Nat => -(value : Int)
  | digits => (Numeral.natural? digits).map Int.ofNat

theorem natural?_padded (width value : Nat) :
    Numeral.natural? (padded width value) = some value := by
  rw [padded_of_nonneg width value (Int.natCast_nonneg value), Int.natAbs_natCast]
  exact Numeral.natural?_zeroFill width _ value (Numeral.natural?_natural value)

theorem isDigit_of_mem_padded (width value : Nat) (c : Char) (hc : c ∈ padded width value) :
    c.isDigit = true :=
  Numeral.isDigit_of_natural? (natural?_padded width value) c hc

theorem integer?_of_natural? (digits : List Char) (value : Nat)
    (hdigits : Numeral.natural? digits = some value) : integer? digits = some (value : Int) := by
  unfold integer?
  split
  · -- a minus sign is no digit
    simp [Numeral.natural?] at hdigits
  · rw [hdigits, Option.map_some, Int.ofNat_eq_natCast]

theorem integer?_padded (width : Nat) (value : Int) :
    integer? (padded width value) = some value := by
  by_cases hnegative : value < 0
  · have hread := Numeral.natural?_zeroFill (width - 1) _ _ (Numeral.natural?_natural value.natAbs)
    rw [padded, if_pos hnegative, integer?, hread, Option.map_some, Option.some.injEq]
    omega
  · obtain ⟨count, rfl⟩ := Int.eq_ofNat_of_zero_le (Int.not_lt.mp hnegative)
    exact integer?_of_natural? _ count (natural?_padded width count)

theorem length_padded (width : Nat) (value : Int) :
    (padded width value).length = max width (integer value).length := by
  unfold padded integer
  by_cases hnegative : value < 0
  · simp only [if_pos hnegative, List.length_cons, length_zeroFill]
    omega
  · simp only [if_neg hnegative, length_zeroFill]

theorem length_padded_of_lt (width value : Nat) (hwidth : 0 < width)
    (hvalue : value < 10 ^ width) : (padded width value).length = width := by
  have hdigits := (Nat.length_toDigits_le_iff (b := 10) (by decide) hwidth).mpr hvalue
  rw [length_padded, integer, if_neg (by omega), Int.natAbs_natCast]
  exact Nat.max_eq_left hdigits

theorem le_length_padded (width : Nat) (value : Int) : width ≤ (padded width value).length := by
  rw [length_padded]
  exact Nat.le_max_left _ _

end Decimal

end EventTime
