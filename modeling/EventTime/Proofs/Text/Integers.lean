import EventTime.Proofs.Text.Numerals
import EventTime.Proofs.Text.Trimming

-- Integers in decimal, without a plus sign or leading zeros, are numerals of themselves.
namespace EventTime

namespace Decimal

theorem ofList_integer (value : Int) : String.ofList (integer value) = toString value := by
  cases value with
  | ofNat count =>
      have hnonneg : ¬ Int.ofNat count < 0 := Int.not_lt.mpr (Int.natCast_nonneg count)
      rw [integer, if_neg hnonneg]
      rfl
  | negSucc count =>
      rw [integer, if_pos (Int.negSucc_lt_zero count)]
      show String.ofList (['-'] ++ natural (count + 1)) = "-" ++ (count + 1).repr
      rw [String.ofList_append]
      rfl

theorem isDigit_of_mem_natural {value : Nat} {c : Char} (hc : c ∈ natural value) :
    c.isDigit = true :=
  Numeral.isDigit_of_natural? (Numeral.natural?_natural value) c hc

-- Only a minus sign may stand beside the digits, and neither is a blank.
theorem isBlank_of_mem_integer {value : Int} {c : Char} (hc : c ∈ integer value) :
    Text.isBlank c = false := by
  unfold integer at hc
  by_cases hnegative : value < 0
  · rw [if_pos hnegative, List.mem_cons] at hc
    rcases hc with rfl | hdigit
    · decide
    · exact Text.isBlank_of_isDigit c (isDigit_of_mem_natural hdigit)
  · rw [if_neg hnegative] at hc
    exact Text.isBlank_of_isDigit c (isDigit_of_mem_natural hc)

end Decimal

theorem Decimal.padded_zero (value : Int) : padded 0 value = integer value := by
  simp [padded, integer, zeroFill]

-- The digits behind a minus sign, or all of them, are read as they would be without the zeros.
theorem Numeral.denotes_padded (width : Nat) {value : Int} (hfits : Millis.Fits value) :
    Denotes (Decimal.padded width value) value := by
  have hdigits := natural?_natural value.natAbs
  unfold Decimal.padded
  by_cases hnegative : value < 0
  · have hvalue : -(value.natAbs : Int) = value := by omega
    have hfilled := natural?_zeroFill (width - 1) _ _ hdigits
    have hminus := Denotes.minus _ _ hfilled (by rwa [hvalue])
    rw [if_pos hnegative]
    rwa [hvalue] at hminus
  · have hvalue : (value.natAbs : Int) = value := by omega
    have hfilled := natural?_zeroFill width _ _ hdigits
    have hplain := Denotes.unsigned _ _ hfilled (by rwa [hvalue])
    rw [if_neg hnegative]
    rwa [hvalue] at hplain

theorem Numeral.denotes_integer {value : Int} (hfits : Millis.Fits value) :
    Denotes (Decimal.integer value) value := by
  rw [← Decimal.padded_zero]
  exact denotes_padded 0 hfits

end EventTime
