import EventTime.Proofs.Text.Numerals
import Mathlib.Data.List.Induction

-- The fault of a text that is no numeral lies with its first character that cannot be read on.
namespace EventTime.Numeral

-- The side of zero on which a text counts, and what stands behind its sign.
inductive Signed : List Char → Bool → List Char → Prop where
  | plus (body : List Char) : Signed ('+' :: body) false body
  | minus (body : List Char) : Signed ('-' :: body) true body
  | unsigned (body : List Char) (hplus : body.head? ≠ some '+') (hminus : body.head? ≠ some '-') :
      Signed body false body

-- The count that digits have come to.
def soFar (negative : Bool) (digits : List Char) : Int :=
  signed negative (Nat.ofDigitChars 10 digits 0)

-- Digits at none of which the count leaves the range.
def Readable (negative : Bool) (digits : List Char) : Prop :=
  (∀ c ∈ digits, c.isDigit = true) ∧
    ∀ earlier, earlier <+: digits → Millis.Fits (soFar negative earlier)

-- What is wrong with a text. A character that is no digit is blamed unless the count has left the
-- range before it, even where no digit could have stood in its place.
inductive Blames : List Char → Fault → Prop where
  | empty : Blames [] .empty
  | sign {text : List Char} {negative : Bool} (hsigned : Signed text negative [])
      (hne : text ≠ []) : Blames text .invalidDigit
  | character {text digits rest : List Char} {negative : Bool} {c : Char}
      (hsigned : Signed text negative (digits ++ c :: rest)) (hbefore : Readable negative digits)
      (hc : c.isDigit = false) : Blames text .invalidDigit
  | range {text digits rest : List Char} {negative : Bool} {c : Char}
      (hsigned : Signed text negative (digits ++ c :: rest)) (hbefore : Readable negative digits)
      (hc : c.isDigit = true) (hleft : ¬ Millis.Fits (soFar negative (digits ++ [c]))) :
      Blames text (if negative then .tooSmall else .tooLarge)

theorem exists_signed (text : List Char) : ∃ negative body, Signed text negative body := by
  by_cases hplus : text.head? = some '+'
  · obtain ⟨body, rfl⟩ := List.head?_eq_some_iff.mp hplus
    exact ⟨_, _, .plus body⟩
  by_cases hminus : text.head? = some '-'
  · obtain ⟨body, rfl⟩ := List.head?_eq_some_iff.mp hminus
    exact ⟨_, _, .minus body⟩
  exact ⟨_, _, .unsigned text hplus hminus⟩

theorem Signed.read_eq {text body : List Char} {negative : Bool}
    (hsigned : Signed text negative body) (hne : body ≠ []) :
    read text = readDigits negative 0 body := by
  cases hsigned with
  | plus => exact read_plus body hne
  | minus => exact read_minus body hne
  | unsigned _ hplus hminus =>
      obtain ⟨c, rest, rfl⟩ := List.exists_cons_of_ne_nil hne
      simp only [List.head?_cons, ne_eq, Option.some.injEq] at hplus hminus
      simp [read, hplus, hminus]

theorem Signed.read_sign {text : List Char} {negative : Bool} (hsigned : Signed text negative [])
    (hne : text ≠ []) : read text = .error .invalidDigit := by
  cases hsigned with
  | plus => rfl
  | minus => rfl
  | unsigned => exact absurd rfl hne

section Digits

variable {negative : Bool} {digits : List Char} {c : Char}

theorem soFar_concat (negative : Bool) (digits : List Char) (c : Char) :
    soFar negative (digits ++ [c]) =
      signed negative (10 * Nat.ofDigitChars 10 digits 0 + digitValue c) := by
  rw [soFar, Nat.ofDigitChars_append, Nat.ofDigitChars_cons, Nat.ofDigitChars_nil]
  rfl

-- Where the count of all the digits is in range, it was before.
theorem readable_of_fits (hdigits : ∀ c ∈ digits, c.isDigit = true)
    (hfits : Millis.Fits (soFar negative digits)) : Readable negative digits := by
  refine ⟨hdigits, ?_⟩
  rintro earlier ⟨later, rfl⟩
  rw [soFar, Nat.ofDigitChars_append] at hfits
  exact fits_signed_of_le negative (le_ofDigitChars later _) hfits

theorem readable_nil (negative : Bool) : Readable negative [] := by
  apply readable_of_fits (by simp)
  cases negative <;> decide

theorem Readable.fits (hreadable : Readable negative digits) :
    Millis.Fits (soFar negative digits) :=
  hreadable.2 digits List.prefix_rfl

theorem readable_concat_iff :
    Readable negative (digits ++ [c]) ↔
      Readable negative digits ∧ c.isDigit = true ∧
        Millis.Fits (soFar negative (digits ++ [c])) := by
  constructor
  · intro hreadable
    have hdigits := List.forall_mem_append.mp hreadable.1
    refine ⟨⟨hdigits.1, ?_⟩, hdigits.2 c (by simp), hreadable.fits⟩
    intro earlier hearlier
    exact hreadable.2 earlier (hearlier.trans (List.prefix_append _ _))
  · rintro ⟨hreadable, hc, hfits⟩
    refine ⟨List.forall_mem_append.mpr ⟨hreadable.1, by simpa using hc⟩, ?_⟩
    intro earlier hearlier
    rcases List.prefix_concat_iff.mp hearlier with rfl | hshorter
    · exact hfits
    · exact hreadable.2 earlier hshorter

theorem readDigits_soFar_cons (negative : Bool) (digits : List Char) (c : Char)
    (rest : List Char) :
    readDigits negative (soFar negative digits) (c :: rest) =
      if c.isDigit then
        if soFar negative (digits ++ [c]) < Millis.least then .error .tooSmall
        else if Millis.greatest < soFar negative (digits ++ [c]) then .error .tooLarge
        else readDigits negative (soFar negative (digits ++ [c])) rest
      else .error .invalidDigit := by
  rw [soFar_concat]
  exact readDigits_cons negative _ c rest

-- Readable digits are read, and leave their count to what follows.
theorem readDigits_append (hreadable : Readable negative digits) (later : List Char) :
    readDigits negative 0 (digits ++ later) =
      readDigits negative (soFar negative digits) later := by
  induction digits using List.reverseRecOn generalizing later with
  | nil => cases negative <;> rfl
  | append_singleton front c ih =>
      obtain ⟨hfront, hc, hfits⟩ := readable_concat_iff.mp hreadable
      rw [List.append_assoc, ih hfront, List.singleton_append, readDigits_soFar_cons, if_pos hc,
        if_neg (Int.not_lt.mpr hfits.1), if_neg (Int.not_lt.mpr hfits.2)]

-- A count leaves the range on its own side of zero.
theorem readDigits_of_left (hc : c.isDigit = true)
    (hleft : ¬ Millis.Fits (soFar negative (digits ++ [c]))) (rest : List Char) :
    readDigits negative (soFar negative digits) (c :: rest) =
      .error (if negative then .tooSmall else .tooLarge) := by
  rw [readDigits_soFar_cons, if_pos hc]
  rw [soFar_concat] at hleft ⊢
  generalize 10 * Nat.ofDigitChars 10 digits 0 + digitValue c = count at hleft ⊢
  unfold Millis.Fits at hleft
  cases negative with
  | false =>
      have hleast : ¬ signed false count < Millis.least := by
        simp only [signed, Bool.false_eq_true, if_false, Millis.least]
        omega
      rw [if_neg hleast, if_pos (by omega)]
      rfl
  | true =>
      have hgreatest : signed true count ≤ Millis.greatest := by
        simp only [signed, if_true, Millis.greatest]
        omega
      rw [if_pos (by omega)]
      rfl

-- Digits can be read to their end, or up to a character that stops them.
theorem exists_stop (negative : Bool) (body : List Char) :
    Readable negative body ∨ ∃ digits c rest, body = digits ++ c :: rest ∧
      Readable negative digits ∧ ¬ Readable negative (digits ++ [c]) := by
  induction body using List.reverseRecOn with
  | nil => exact .inl (readable_nil negative)
  | append_singleton front c ih =>
      rcases ih with hfront | ⟨digits, d, rest, rfl, hdigits, hstop⟩
      · by_cases hreadable : Readable negative (front ++ [c])
        · exact .inl hreadable
        · exact .inr ⟨front, c, [], rfl, hfront, hreadable⟩
      · exact .inr ⟨digits, d, rest ++ [c], by simp, hdigits, hstop⟩

end Digits

theorem Blames.read_eq {text : List Char} {fault : Fault} (hblames : Blames text fault) :
    read text = .error fault := by
  cases hblames with
  | empty => rfl
  | sign hsigned hne => exact hsigned.read_sign hne
  | character hsigned hbefore hc =>
      rw [hsigned.read_eq (by simp), readDigits_append hbefore, readDigits_soFar_cons,
        if_neg (by simp [hc])]
  | range hsigned hbefore hc hleft =>
      rw [hsigned.read_eq (by simp), readDigits_append hbefore, readDigits_of_left hc hleft]

theorem exists_blames {text : List Char} {fault : Fault} (hread : read text = .error fault) :
    ∃ other, Blames text other := by
  by_cases hempty : text = []
  · subst hempty
    exact ⟨_, .empty⟩
  obtain ⟨negative, body, hsigned⟩ := exists_signed text
  by_cases hbody : body = []
  · subst hbody
    exact ⟨_, .sign hsigned hempty⟩
  rcases exists_stop negative body with hreadable | ⟨digits, c, rest, rfl, hdigits, hstop⟩
  · -- a body that can be read to its end is no fault
    have hall := readDigits_append hreadable []
    rw [List.append_nil] at hall
    rw [hsigned.read_eq hbody, hall] at hread
    cases hread
  · by_cases hc : c.isDigit = true
    · have hleft : ¬ Millis.Fits (soFar negative (digits ++ [c])) :=
        fun hfits => hstop (readable_concat_iff.mpr ⟨hdigits, hc, hfits⟩)
      exact ⟨_, .range hsigned hdigits hc hleft⟩
    · exact ⟨_, .character hsigned hdigits (by simpa using hc)⟩

theorem read_eq_error_iff (text : List Char) (fault : Fault) :
    read text = .error fault ↔ Blames text fault := by
  constructor
  · intro hread
    obtain ⟨other, hother⟩ := exists_blames hread
    obtain rfl : other = fault := Except.error.inj (hother.read_eq.symm.trans hread)
    exact hother
  · exact Blames.read_eq

end EventTime.Numeral
