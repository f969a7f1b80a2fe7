namespace EventTime.Text

-- Equality up to the case of ASCII letters. No other letters are taken for each other.
def sameLetters (left right : List Char) : Bool :=
  left.map Char.toUpper == right.map Char.toUpper

theorem sameLetters_iff (left right : List Char) :
    sameLetters left right = true ↔ left.map Char.toUpper = right.map Char.toUpper := by
  rw [sameLetters, beq_iff_eq]

theorem toNat_toUpper (c : Char) :
    c.toUpper.toNat = if 97 ≤ c.toNat ∧ c.toNat ≤ 122 then c.toNat - 32 else c.toNat := by
  have hcode : c.val.toNat = c.toNat := rfl
  have hshift : ('A'.val - 'a'.val).toNat = 4294967264 := rfl
  have hfirst : 'a'.val.toNat = 97 := rfl
  have hlast : 'z'.val.toNat = 122 := rfl
  unfold Char.toUpper
  simp only [UInt32.le_iff_toNat_le, hcode, hfirst, hlast]
  split
  · change (c.val + ('A'.val - 'a'.val)).toNat = _
    rw [UInt32.toNat_add, hcode, hshift]
    omega
  · rfl

theorem toNat_toLower (c : Char) :
    c.toLower.toNat = if 65 ≤ c.toNat ∧ c.toNat ≤ 90 then c.toNat + 32 else c.toNat := by
  have hcode : c.val.toNat = c.toNat := rfl
  have hshift : ('a'.val - 'A'.val).toNat = 32 := rfl
  have hfirst : 'A'.val.toNat = 65 := rfl
  have hlast : 'Z'.val.toNat = 90 := rfl
  unfold Char.toLower
  simp only [ge_iff_le, UInt32.le_iff_toNat_le, hcode, hfirst, hlast]
  split
  · change (c.val + ('a'.val - 'A'.val)).toNat = _
    rw [UInt32.toNat_add, hcode, hshift]
    omega
  · rfl

-- Two characters have a capital letter for their upper case: itself and its small letter.
theorem toUpper_eq_iff (c capital : Char) (hcapital : 65 ≤ capital.toNat ∧ capital.toNat ≤ 90) :
    c.toUpper = capital ↔ c = capital ∨ c = capital.toLower := by
  simp only [← Char.toNat_inj, toNat_toUpper, toNat_toLower, if_pos hcapital]
  split <;> omega

end EventTime.Text
