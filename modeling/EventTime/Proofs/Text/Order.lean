import EventTime.Proofs.Text.Numerals

-- The order of texts, character by character, and how decimals of one length stand in it.
namespace EventTime

theorem List.append_lt_append {α : Type} [LT α] {first second : List α} (hlt : first < second)
    (hlength : first.length = second.length) (more others : List α) :
    first ++ more < second ++ others := by
  induction first generalizing second with
  | nil =>
      cases second with
      | nil => cases hlt
      | cons c rest => cases hlength
  | cons a first ih =>
      cases second with
      | nil => cases hlength
      | cons b second =>
          rw [List.cons_append, List.cons_append, List.cons_lt_cons_iff]
          rcases List.cons_lt_cons_iff.mp hlt with hhead | ⟨rfl, htail⟩
          · exact .inl hhead
          · exact .inr ⟨rfl, ih htail (Nat.succ.inj hlength)⟩

namespace Numeral

-- The first digits decide, as all that follows is less than one more of them.
theorem ofDigitChars_lt_of_lt {digits others : List Char} (hlength : digits.length = others.length)
    (hdigits : ∀ c ∈ digits, c.isDigit = true) {first second : Nat} (hlt : first < second) :
    Nat.ofDigitChars 10 digits first < Nat.ofDigitChars 10 others second := by
  induction digits generalizing others first second with
  | nil =>
      obtain rfl := List.eq_nil_of_length_eq_zero hlength.symm
      exact hlt
  | cons c rest ih =>
      obtain ⟨hc, hrest⟩ := List.forall_mem_cons.mp hdigits
      cases others with
      | nil => cases hlength
      | cons d later =>
          have hnine := (Char.isDigit_iff_toNat.mp hc).2
          have hvalue : '9'.toNat = '0'.toNat + 9 := rfl
          rw [Nat.ofDigitChars_cons, Nat.ofDigitChars_cons]
          exact ih (Nat.succ.inj hlength) hrest (by omega)

theorem lt_of_ofDigitChars_lt {digits others : List Char} (hlength : digits.length = others.length)
    (hdigits : ∀ c ∈ digits, c.isDigit = true) (hothers : ∀ c ∈ others, c.isDigit = true)
    (total : Nat) (hlt : Nat.ofDigitChars 10 digits total < Nat.ofDigitChars 10 others total) :
    digits < others := by
  induction digits generalizing others total with
  | nil =>
      obtain rfl := List.eq_nil_of_length_eq_zero hlength.symm
      exact absurd hlt (Nat.lt_irrefl _)
  | cons c rest ih =>
      cases others with
      | nil => cases hlength
      | cons d later =>
          obtain ⟨hc, hrest⟩ := List.forall_mem_cons.mp hdigits
          obtain ⟨hd, hlater⟩ := List.forall_mem_cons.mp hothers
          have hlengths := Nat.succ.inj hlength
          have hcZero := (Char.isDigit_iff_toNat.mp hc).1
          have hdZero := (Char.isDigit_iff_toNat.mp hd).1
          rw [Nat.ofDigitChars_cons, Nat.ofDigitChars_cons] at hlt
          rw [List.cons_lt_cons_iff]
          rcases Nat.lt_trichotomy c.toNat d.toNat with hless | hsame | hmore
          · exact .inl hless
          · obtain rfl := Char.toNat_inj.mp hsame
            exact .inr ⟨rfl, ih hlengths hrest hlater _ hlt⟩
          · have hstart : 10 * total + (d.toNat - '0'.toNat) <
                10 * total + (c.toNat - '0'.toNat) := by
              omega
            have hgreater := ofDigitChars_lt_of_lt hlengths.symm hlater hstart
            exact absurd hlt (Nat.lt_asymm hgreater)

-- Numerals of one length stand in the order of their values.
theorem lt_of_natural?_lt {digits others : List Char} {first second : Nat}
    (hdigits : natural? digits = some first) (hothers : natural? others = some second)
    (hlength : digits.length = others.length) (hlt : first < second) : digits < others := by
  obtain ⟨-, hall, rfl⟩ := (natural?_eq_some_iff digits first).mp hdigits
  obtain ⟨-, hotherAll, rfl⟩ := (natural?_eq_some_iff others second).mp hothers
  exact lt_of_ofDigitChars_lt hlength hall hotherAll 0 hlt

end Numeral

theorem Decimal.padded_lt_padded (width : Nat) {first second : Nat} (hwidth : 0 < width)
    (hlt : first < second) (hsecond : second < 10 ^ width) :
    padded width first < padded width second := by
  refine Numeral.lt_of_natural?_lt (natural?_padded width first) (natural?_padded width second) ?_
    hlt
  rw [length_padded_of_lt width first hwidth (Nat.lt_trans hlt hsecond),
    length_padded_of_lt width second hwidth hsecond]

end EventTime
