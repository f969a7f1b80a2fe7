namespace EventTime.Decimal

-- The digits of a natural number, without leading zeros.
def natural (value : Nat) : List Char := Nat.toDigits 10 value

-- A minus sign stands before the digits of a negative number, nothing before the others.
def integer (value : Int) : List Char :=
  if value < 0 then '-' :: natural value.natAbs else natural value.natAbs

-- Zeros on the left bring a text to the width.
-- A text that is as long already stays as it is.
def zeroFill (width : Nat) (text : List Char) : List Char :=
  List.replicate (width - text.length) '0' ++ text

-- The decimal of `value` in at least `width` characters.
-- The zeros stand behind a minus sign, which counts as one of the characters.
def padded (width : Nat) (value : Int) : List Char :=
  if value < 0 then '-' :: zeroFill (width - 1) (natural value.natAbs)
  else zeroFill width (natural value.natAbs)

@[simp]
theorem length_zeroFill (width : Nat) (text : List Char) :
    (zeroFill width text).length = max width text.length := by
  simp only [zeroFill, List.length_append, List.length_replicate]
  omega

theorem padded_of_nonneg (width : Nat) (value : Int) (h : 0 ≤ value) :
    padded width value = zeroFill width (natural value.natAbs) := by
  rw [padded, if_neg (by omega)]

end EventTime.Decimal
