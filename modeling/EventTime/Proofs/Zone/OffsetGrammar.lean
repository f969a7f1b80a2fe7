import EventTime.Proofs.Text.Numerals
import EventTime.Proofs.Zone.Resolution

-- How offsets are written, apart from any way to read them: a mark that may be missing, a sign, and
-- the digits of the hours with or without those of the minutes.
namespace EventTime.Offset

-- The marks of universal time, in letters of either case. There may be none.
inductive Mark : List Char → Prop where
  | absent : Mark []
  | gmt (g m t : Char) (hg : g = 'G' ∨ g = 'g') (hm : m = 'M' ∨ m = 'm') (ht : t = 'T' ∨ t = 't') :
      Mark [g, m, t]
  | utc (u t c : Char) (hu : u = 'U' ∨ u = 'u') (ht : t = 'T' ∨ t = 't') (hc : c = 'C' ∨ c = 'c') :
      Mark [u, t, c]

open Numeral in
-- The digits of so many hours and minutes.
-- Any number of zeros may stand before the hours, and behind a colon before the minutes too.
inductive Spells : List Char → Nat → Nat → Prop where
  | hours (digits : List Char) (hours : Nat) (hlength : digits.length ≤ 2)
      (hhours : natural? digits = some hours) : Spells digits hours 0
  | joined (front back : List Char) (hours minutes : Nat) (hlength : back.length = 2)
      (hhours : natural? front = some hours) (hminutes : natural? back = some minutes) :
      Spells (front ++ back) hours minutes
  | divided (front back : List Char) (hours minutes : Nat) (hhours : natural? front = some hours)
      (hminutes : natural? back = some minutes) : Spells (front ++ ':' :: back) hours minutes

-- A text that stands for an offset.
inductive Written : List Char → Offset → Prop where
  | east (mark digits : List Char) (hours minutes : Nat) (offset : Offset) (hmark : Mark mark)
      (hdigits : Spells digits hours minutes) (hhours : hours ≤ 23) (hminutes : minutes ≤ 59)
      (hseconds : offset.seconds = 3600 * hours + 60 * minutes) :
      Written (mark ++ '+' :: digits) offset
  | west (mark digits : List Char) (hours minutes : Nat) (offset : Offset) (hmark : Mark mark)
      (hdigits : Spells digits hours minutes) (hhours : hours ≤ 23) (hminutes : minutes ≤ 59)
      (hseconds : offset.seconds = -(3600 * hours + 60 * minutes)) :
      Written (mark ++ '-' :: digits) offset

theorem Written.natAbs_le {text : List Char} {offset : Offset} (hwritten : Written text offset) :
    offset.seconds.natAbs ≤ 86340 := by
  cases hwritten with
  | east mark digits hours minutes _ hmark hdigits hhours hminutes hseconds => omega
  | west mark digits hours minutes _ hmark hdigits hhours hminutes hseconds => omega

theorem sameLetters_gmt_iff (a b c : Char) :
    Text.sameLetters [a, b, c] ['G', 'M', 'T'] = true ↔
      (a = 'G' ∨ a = 'g') ∧ (b = 'M' ∨ b = 'm') ∧ (c = 'T' ∨ c = 't') := by
  rw [Text.sameLetters_iff]
  change [a.toUpper, b.toUpper, c.toUpper] = ['G', 'M', 'T'] ↔ _
  simp only [List.cons.injEq, and_true]
  rw [Text.toUpper_eq_iff a 'G' (by decide), Text.toUpper_eq_iff b 'M' (by decide),
    Text.toUpper_eq_iff c 'T' (by decide)]
  rfl

theorem sameLetters_utc_iff (a b c : Char) :
    Text.sameLetters [a, b, c] ['U', 'T', 'C'] = true ↔
      (a = 'U' ∨ a = 'u') ∧ (b = 'T' ∨ b = 't') ∧ (c = 'C' ∨ c = 'c') := by
  rw [Text.sameLetters_iff]
  change [a.toUpper, b.toUpper, c.toUpper] = ['U', 'T', 'C'] ↔ _
  simp only [List.cons.injEq, and_true]
  rw [Text.toUpper_eq_iff a 'U' (by decide), Text.toUpper_eq_iff b 'T' (by decide),
    Text.toUpper_eq_iff c 'C' (by decide)]
  rfl

-- What is dropped is a mark.
theorem exists_mark (text : List Char) : ∃ mark, Mark mark ∧ text = mark ++ dropMark text := by
  unfold dropMark
  split
  · rename_i a b c rest
    split
    · rename_i hletters
      rcases Bool.or_eq_true_iff.mp hletters with hgmt | hutc
      · obtain ⟨ha, hb, hc⟩ := (sameLetters_gmt_iff a b c).mp hgmt
        exact ⟨[a, b, c], .gmt a b c ha hb hc, rfl⟩
      · obtain ⟨ha, hb, hc⟩ := (sameLetters_utc_iff a b c).mp hutc
        exact ⟨[a, b, c], .utc a b c ha hb hc, rfl⟩
    · exact ⟨[], .absent, rfl⟩
  · exact ⟨[], .absent, rfl⟩

-- A sign is no letter of a mark, so that a text that begins with it has none.
theorem dropMark_append (mark digits : List Char) (sign : Char) (hmark : Mark mark)
    (hsign : sign = '+' ∨ sign = '-') :
    dropMark (mark ++ sign :: digits) = sign :: digits := by
  cases hmark with
  | absent =>
      rw [List.nil_append]
      unfold dropMark
      split
      · rename_i a b c rest heq
        obtain ⟨rfl, -⟩ := List.cons.inj heq
        rw [if_neg]
        rw [Bool.or_eq_true, sameLetters_gmt_iff, sameLetters_utc_iff]
        rcases hsign with rfl | rfl <;> simp
      · rfl
  | gmt g m t hg hm ht =>
      have hletters := (sameLetters_gmt_iff g m t).mpr ⟨hg, hm, ht⟩
      rw [List.cons_append, List.cons_append, List.cons_append, List.nil_append, dropMark,
        if_pos (by rw [hletters, Bool.true_or])]
  | utc u t c hu ht hc =>
      have hletters := (sameLetters_utc_iff u t c).mpr ⟨hu, ht, hc⟩
      rw [List.cons_append, List.cons_append, List.cons_append, List.nil_append, dropMark,
        if_pos (by rw [hletters, Bool.or_true])]

theorem colon_not_mem_of_natural? {digits : List Char} {value : Nat}
    (hdigits : Numeral.natural? digits = some value) : ':' ∉ digits := by
  intro hcolon
  exact absurd (Numeral.isDigit_of_natural? hdigits ':' hcolon) (by decide)

theorem spells_of_divide {digits : List Char} {hours minutes : Nat}
    (hhours : Numeral.natural? (divide digits).1 = some hours)
    (hminutes : Numeral.natural? (divide digits).2 = some minutes) :
    Spells digits hours minutes := by
  unfold divide at hhours hminutes
  split at hhours
  · rename_i hcolon
    rw [if_pos hcolon] at hminutes
    have hdrop : digits.dropWhile (· ≠ ':') = ':' :: (digits.dropWhile (· ≠ ':')).drop 1 := by
      cases hrest : digits.dropWhile (· ≠ ':') with
      | nil =>
          have hall := List.dropWhile_eq_nil_iff.mp hrest ':' hcolon
          simp at hall
      | cons c rest =>
          have hnot := List.head?_dropWhile_not (· ≠ ':') digits
          rw [hrest] at hnot
          have hc : c = ':' := by simpa using hnot
          rw [hc]
          rfl
    have hsplit := List.takeWhile_append_dropWhile (p := (· ≠ ':')) (l := digits)
    rw [hdrop] at hsplit
    rw [← hsplit]
    exact .divided _ _ hours minutes hhours hminutes
  · rename_i hcolon
    rw [if_neg hcolon] at hminutes
    split at hhours
    · rename_i hlength
      rw [if_pos hlength] at hminutes
      obtain rfl : 0 = minutes := Option.some.inj hminutes
      exact .hours digits hours hlength hhours
    · rename_i hlength
      rw [if_neg hlength] at hminutes
      rw [← List.take_append_drop (digits.length - 2) digits]
      refine .joined _ _ hours minutes ?_ hhours hminutes
      rw [List.length_drop]
      omega

theorem Spells.natural?_divide {digits : List Char} {hours minutes : Nat}
    (hspells : Spells digits hours minutes) :
    Numeral.natural? (divide digits).1 = some hours ∧
      Numeral.natural? (divide digits).2 = some minutes := by
  cases hspells with
  | hours _ _ hlength hhours =>
      rw [divide, if_neg (colon_not_mem_of_natural? hhours), if_pos hlength]
      exact ⟨hhours, rfl⟩
  | joined front back _ _ hlength hhours hminutes =>
      have hcolon : ':' ∉ front ++ back := by
        rw [List.mem_append, not_or]
        exact ⟨colon_not_mem_of_natural? hhours, colon_not_mem_of_natural? hminutes⟩
      have hfront : 0 < front.length :=
        List.length_pos_iff.mpr ((Numeral.natural?_eq_some_iff front hours).mp hhours).1
      have hcut : (front ++ back).length - 2 = front.length := by
        rw [List.length_append]
        omega
      rw [divide, if_neg hcolon, hcut, if_neg (by rw [List.length_append]; omega), List.take_left,
        List.drop_left]
      exact ⟨hhours, hminutes⟩
  | divided front back _ _ hhours hminutes =>
      rw [divide_colon front back (colon_not_mem_of_natural? hhours)]
      exact ⟨hhours, hminutes⟩

theorem ofHours?_eq_some_iff (isWest : Bool) (hours minutes : Nat) (offset : Offset) :
    ofHours? isWest hours minutes = some offset ↔
      hours ≤ 23 ∧ minutes ≤ 59 ∧
        offset.seconds =
          if isWest then -(3600 * hours + 60 * minutes : Int) else 3600 * hours + 60 * minutes := by
  obtain ⟨seconds, hlt⟩ := offset
  unfold ofHours?
  split
  · rename_i hbounds
    cases isWest with
    | false =>
        simp only [Bool.false_eq_true, if_false, Option.some.injEq, Offset.mk.injEq]
        omega
    | true =>
        simp only [if_true, Option.some.injEq, Offset.mk.injEq]
        omega
  · rename_i hbounds
    simp only [reduceCtorEq, false_iff]
    omega

theorem ofDigits?_eq_some_iff (isWest : Bool) (digits : List Char) (offset : Offset) :
    ofDigits? isWest digits = some offset ↔
      ∃ hours minutes,
        Spells digits hours minutes ∧ ofHours? isWest hours minutes = some offset := by
  unfold ofDigits?
  constructor
  · intro hsome
    dsimp only at hsome
    split at hsome
    · rename_i hours minutes hhours hminutes
      exact ⟨hours, minutes, spells_of_divide hhours hminutes, hsome⟩
    · cases hsome
  · rintro ⟨hours, minutes, hspells, hsome⟩
    obtain ⟨hhours, hminutes⟩ := hspells.natural?_divide
    simp only [hhours, hminutes, hsome]

theorem Written.ofText?_eq {text : List Char} {offset : Offset} (hwritten : Written text offset) :
    ofText? text = some offset := by
  cases hwritten with
  | east mark digits hours minutes _ hmark hdigits hhours hminutes hseconds =>
      rw [ofText?, dropMark_append mark digits '+' hmark (.inl rfl)]
      exact (ofDigits?_eq_some_iff false digits offset).mpr ⟨hours, minutes, hdigits,
        (ofHours?_eq_some_iff false hours minutes offset).mpr ⟨hhours, hminutes, hseconds⟩⟩
  | west mark digits hours minutes _ hmark hdigits hhours hminutes hseconds =>
      rw [ofText?, dropMark_append mark digits '-' hmark (.inr rfl)]
      exact (ofDigits?_eq_some_iff true digits offset).mpr ⟨hours, minutes, hdigits,
        (ofHours?_eq_some_iff true hours minutes offset).mpr ⟨hhours, hminutes, hseconds⟩⟩

theorem written_of_ofText? {text : List Char} {offset : Offset}
    (hsome : ofText? text = some offset) : Written text offset := by
  obtain ⟨mark, hmark, htext⟩ := exists_mark text
  unfold ofText? at hsome
  split at hsome
  · rename_i digits hrest
    obtain ⟨hours, minutes, hspells, hoffset⟩ :=
      (ofDigits?_eq_some_iff false digits offset).mp hsome
    obtain ⟨hhours, hminutes, hseconds⟩ := (ofHours?_eq_some_iff false _ _ offset).mp hoffset
    rw [htext, hrest]
    exact .east mark digits hours minutes offset hmark hspells hhours hminutes hseconds
  · rename_i digits hrest
    obtain ⟨hours, minutes, hspells, hoffset⟩ := (ofDigits?_eq_some_iff true digits offset).mp hsome
    obtain ⟨hhours, hminutes, hseconds⟩ := (ofHours?_eq_some_iff true _ _ offset).mp hoffset
    rw [htext, hrest]
    exact .west mark digits hours minutes offset hmark hspells hhours hminutes hseconds
  · cases hsome

-- The reader finds an offset in exactly the texts that stand for one.
theorem ofText?_eq_some_iff (text : List Char) (offset : Offset) :
    ofText? text = some offset ↔ Written text offset :=
  ⟨written_of_ofText?, Written.ofText?_eq⟩

end EventTime.Offset
