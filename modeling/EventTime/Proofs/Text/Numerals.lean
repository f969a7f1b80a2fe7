import EventTime.Proofs.Text.Digits

-- What is read as a count of milliseconds are the numerals of those that fit in 64 bits.
namespace EventTime

theorem Text.toUpper_of_isDigit (c : Char) (hdigit : c.isDigit = true) : c.toUpper = c := by
  have hcode := Char.isDigit_iff_toNat.mp hdigit
  unfold Char.toUpper
  refine dif_neg fun hlower => ?_
  have hletter : 'a'.toNat ≤ c.toNat := UInt32.le_iff_toNat_le.mp hlower.1
  have hnine : '9'.toNat < 'a'.toNat := by decide
  omega

namespace Millis

def Fits (count : Int) : Prop := least ≤ count ∧ count ≤ greatest

instance (count : Int) : Decidable (Fits count) := inferInstanceAs (Decidable (_ ∧ _))

end Millis

namespace Numeral

-- A text denotes the count that its digits make behind a sign or none, if that fits.
inductive Denotes : List Char → Int → Prop where
  | unsigned (digits : List Char) (count : Nat) (hdigits : natural? digits = some count)
      (hfits : Millis.Fits count) : Denotes digits count
  | plus (digits : List Char) (count : Nat) (hdigits : natural? digits = some count)
      (hfits : Millis.Fits count) : Denotes ('+' :: digits) count
  | minus (digits : List Char) (count : Nat) (hdigits : natural? digits = some count)
      (hfits : Millis.Fits (-count)) : Denotes ('-' :: digits) (-count)

theorem Denotes.fits {text : List Char} {value : Int} (hdenotes : Denotes text value) :
    Millis.Fits value := by
  cases hdenotes with
  | unsigned digits count hdigits hfits => exact hfits
  | plus digits count hdigits hfits => exact hfits
  | minus digits count hdigits hfits => exact hfits

-- The number with that many units on one side of zero.
def signed (negative : Bool) (count : Nat) : Int := if negative then -count else count

theorem natural?_eq_some_iff (digits : List Char) (count : Nat) :
    natural? digits = some count ↔
      digits ≠ [] ∧ (∀ c ∈ digits, c.isDigit = true) ∧ count = Nat.ofDigitChars 10 digits 0 := by
  unfold natural?
  split
  · rename_i hall
    rw [List.all_eq_true] at hall
    rw [Option.some.injEq]
    exact ⟨fun hcount => ⟨hall.1, hall.2, hcount.symm⟩, fun hcount => hcount.2.2.symm⟩
  · rename_i hall
    rw [List.all_eq_true] at hall
    exact ⟨nofun, fun hcount => absurd ⟨hcount.1, hcount.2.1⟩ hall⟩

theorem le_ofDigitChars (digits : List Char) (count : Nat) :
    count ≤ Nat.ofDigitChars 10 digits count := by
  induction digits generalizing count with
  | nil => exact Nat.le_refl _
  | cons c rest ih =>
      rw [Nat.ofDigitChars_cons]
      have hnext := ih (10 * count + (c.toNat - '0'.toNat))
      omega

-- Further digits only lead away from zero.
theorem fits_signed_of_le (negative : Bool) {count later : Nat} (hle : count ≤ later)
    (hfits : Millis.Fits (signed negative later)) : Millis.Fits (signed negative count) := by
  unfold Millis.Fits signed Millis.least Millis.greatest at *
  cases negative <;> simp only [Bool.false_eq_true, if_false, if_true] at * <;> omega

theorem readDigits_cons (negative : Bool) (count : Nat) (c : Char) (rest : List Char) :
    readDigits negative (signed negative count) (c :: rest) =
      if c.isDigit then
        let next := signed negative (10 * count + digitValue c)
        if next < Millis.least then .error .tooSmall
        else if Millis.greatest < next then .error .tooLarge
        else readDigits negative next rest
      else .error .invalidDigit := by
  have hnext : (if negative then 10 * signed negative count - digitValue c
      else 10 * signed negative count + digitValue c) =
        signed negative (10 * count + digitValue c) := by
    cases negative <;> simp only [signed, Bool.false_eq_true, if_false, if_true] <;> omega
  simp only [readDigits, hnext]

theorem readDigits_eq_ok_iff (negative : Bool) (count : Nat) (digits : List Char) (value : Int)
    (hfits : Millis.Fits (signed negative count)) :
    readDigits negative (signed negative count) digits = .ok value ↔
      (∀ c ∈ digits, c.isDigit = true) ∧
        value = signed negative (Nat.ofDigitChars 10 digits count) ∧ Millis.Fits value := by
  induction digits generalizing count with
  | nil =>
      simp only [readDigits, Except.ok.injEq, List.not_mem_nil, false_implies, implies_true,
        true_and, Nat.ofDigitChars_nil]
      constructor
      · rintro rfl
        exact ⟨rfl, hfits⟩
      · exact fun hvalue => hvalue.1.symm
  | cons c rest ih =>
      rw [readDigits_cons, Nat.ofDigitChars_cons, List.forall_mem_cons]
      by_cases hdigit : c.isDigit = true
      · by_cases hnext : Millis.Fits (signed negative (10 * count + digitValue c))
        · simp only [hdigit, if_true, if_neg (Int.not_lt.mpr hnext.1),
            if_neg (Int.not_lt.mpr hnext.2), true_and]
          exact ih _ hnext
        · -- the value has left the range and cannot come back
          have hnot : ¬ Millis.Fits (signed negative
              (Nat.ofDigitChars 10 rest (10 * count + digitValue c))) :=
            fun hlater => hnext (fits_signed_of_le negative (le_ofDigitChars rest _) hlater)
          simp only [hdigit, if_true]
          constructor
          · intro hread
            split at hread
            · cases hread
            · split at hread
              · cases hread
              · rename_i hleast hgreatest
                exact absurd ⟨Int.not_lt.mp hleast, Int.not_lt.mp hgreatest⟩ hnext
          · rintro ⟨-, rfl, hvalue⟩
            exact absurd hvalue hnot
      · rw [if_neg hdigit]
        exact ⟨nofun, fun hall => absurd hall.1.1 hdigit⟩

theorem readDigits_zero_eq_ok_iff (negative : Bool) (digits : List Char) (hne : digits ≠ [])
    (value : Int) :
    readDigits negative 0 digits = .ok value ↔
      ∃ count, natural? digits = some count ∧ value = signed negative count ∧
        Millis.Fits value := by
  have hzero : signed negative 0 = 0 := by cases negative <;> rfl
  have hread := readDigits_eq_ok_iff negative 0 digits value (by rw [hzero]; decide)
  rw [hzero] at hread
  simp only [hread, natural?_eq_some_iff, hne, ne_eq, not_false_eq_true, true_and]
  constructor
  · rintro ⟨hall, hvalue⟩
    exact ⟨_, ⟨hall, rfl⟩, hvalue⟩
  · rintro ⟨count, ⟨hall, rfl⟩, hvalue⟩
    exact ⟨hall, hvalue⟩

theorem read_of_isDigit (c : Char) (rest : List Char) (hc : c.isDigit = true) :
    read (c :: rest) = readDigits false 0 (c :: rest) := by
  have hplus : c ≠ '+' := by
    rintro rfl
    cases hc
  have hminus : c ≠ '-' := by
    rintro rfl
    cases hc
  simp [read, hplus, hminus]

theorem read_plus (digits : List Char) (hne : digits ≠ []) :
    read ('+' :: digits) = readDigits false 0 digits := by
  obtain ⟨c, rest, rfl⟩ := List.exists_cons_of_ne_nil hne
  rfl

theorem read_minus (digits : List Char) (hne : digits ≠ []) :
    read ('-' :: digits) = readDigits true 0 digits := by
  obtain ⟨c, rest, rfl⟩ := List.exists_cons_of_ne_nil hne
  rfl

theorem denotes_of_read {text : List Char} {value : Int} (hread : read text = .ok value) :
    Denotes text value := by
  unfold read at hread
  split at hread
  · cases hread
  · cases hread
  · cases hread
  · rename_i digits hne
    obtain ⟨count, hdigits, rfl, hfits⟩ :=
      (readDigits_zero_eq_ok_iff false digits (by simpa using hne) value).mp hread
    exact .plus digits count hdigits hfits
  · rename_i digits hne
    obtain ⟨count, hdigits, rfl, hfits⟩ :=
      (readDigits_zero_eq_ok_iff true digits (by simpa using hne) value).mp hread
    exact .minus digits count hdigits hfits
  · rename_i hne _ _ _ _
    obtain ⟨count, hdigits, rfl, hfits⟩ :=
      (readDigits_zero_eq_ok_iff false text (by simpa using hne) value).mp hread
    exact .unsigned text count hdigits hfits

theorem Denotes.read_eq {text : List Char} {value : Int} (hdenotes : Denotes text value) :
    read text = .ok value := by
  cases hdenotes with
  | unsigned digits count hdigits hfits =>
      obtain ⟨hne, hall, -⟩ := (natural?_eq_some_iff text count).mp hdigits
      obtain ⟨c, rest, rfl⟩ := List.exists_cons_of_ne_nil hne
      rw [read_of_isDigit c rest (hall c List.mem_cons_self)]
      exact (readDigits_zero_eq_ok_iff false _ hne _).mpr ⟨count, hdigits, rfl, hfits⟩
  | plus digits count hdigits hfits =>
      have hne := ((natural?_eq_some_iff digits count).mp hdigits).1
      rw [read_plus digits hne]
      exact (readDigits_zero_eq_ok_iff false _ hne _).mpr ⟨count, hdigits, rfl, hfits⟩
  | minus digits count hdigits hfits =>
      have hne := ((natural?_eq_some_iff digits count).mp hdigits).1
      rw [read_minus digits hne]
      exact (readDigits_zero_eq_ok_iff true _ hne _).mpr ⟨count, hdigits, rfl, hfits⟩

theorem read_eq_ok_iff (text : List Char) (value : Int) :
    read text = .ok value ↔ Denotes text value :=
  ⟨denotes_of_read, Denotes.read_eq⟩

-- A text denotes one count at most, and what denotes none is a fault.
theorem Denotes.unique {text : List Char} {first second : Int} (hfirst : Denotes text first)
    (hsecond : Denotes text second) : first = second :=
  Except.ok.inj (hfirst.read_eq.symm.trans hsecond.read_eq)

theorem Denotes.isDigit_of_mem_getLast? {text : List Char} {value : Int}
    (hdenotes : Denotes text value) (c : Char) (hc : c ∈ text.getLast?) : c.isDigit = true := by
  cases hdenotes with
  | unsigned digits count hdigits hfits =>
      exact ((natural?_eq_some_iff text count).mp hdigits).2.1 c (List.mem_of_getLast? hc)
  | plus digits count hdigits hfits =>
      obtain ⟨hne, hall, -⟩ := (natural?_eq_some_iff digits count).mp hdigits
      rw [List.getLast?_cons_of_ne_nil hne] at hc
      exact hall c (List.mem_of_getLast? hc)
  | minus digits count hdigits hfits =>
      obtain ⟨hne, hall, -⟩ := (natural?_eq_some_iff digits count).mp hdigits
      rw [List.getLast?_cons_of_ne_nil hne] at hc
      exact hall c (List.mem_of_getLast? hc)

theorem exists_fault_of_not_denotes {text : List Char} (hnone : ∀ value, ¬ Denotes text value) :
    ∃ fault, read text = .error fault := by
  cases hread : read text with
  | error fault => exact ⟨fault, rfl⟩
  | ok value => exact absurd (denotes_of_read hread) (hnone value)

end Numeral

end EventTime
