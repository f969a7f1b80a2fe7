import EventTime.Text.Blank
import Mathlib.Data.List.TakeWhile

-- Trimmed texts neither begin nor end with a blank, and those that do not stay as they are.
namespace EventTime.Text

theorem isBlank_of_isDigit (c : Char) (hdigit : c.isDigit = true) : isBlank c = false := by
  have hcode : 48 ≤ c.toNat ∧ c.toNat ≤ 57 := by
    simpa [Char.isDigit, UInt32.le_iff_toNat_le] using hdigit
  simp only [isBlank, Bool.or_eq_false_iff, Bool.and_eq_false_iff, decide_eq_false_iff_not,
    beq_eq_false_iff_ne]
  omega

theorem dropWhile_isBlank_eq_self (text : List Char) (hhead : ∀ c ∈ text.head?, isBlank c = false) :
    text.dropWhile isBlank = text := by
  cases text with
  | nil => rfl
  | cons c rest => rw [List.dropWhile_cons_of_neg (by simp [hhead c rfl])]

theorem isBlank_of_mem_head?_dropWhile (text : List Char) (c : Char)
    (hc : c ∈ (text.dropWhile isBlank).head?) : isBlank c = false := by
  have hnot := List.head?_dropWhile_not isBlank text
  rw [Option.mem_def.mp hc] at hnot
  exact hnot

theorem trim_eq_self (text : List Char) (hhead : ∀ c ∈ text.head?, isBlank c = false)
    (hlast : ∀ c ∈ text.getLast?, isBlank c = false) : trim text = text := by
  have hreverse : text.reverse.dropWhile isBlank = text.reverse :=
    dropWhile_isBlank_eq_self _ (by rwa [List.head?_reverse])
  rw [trim, trimStart, dropWhile_isBlank_eq_self text hhead, trimEnd, hreverse,
    List.reverse_reverse]

theorem isBlank_of_mem_getLast?_trim (text : List Char) (c : Char)
    (hc : c ∈ (trim text).getLast?) : isBlank c = false := by
  rw [trim, trimEnd, List.getLast?_reverse] at hc
  exact isBlank_of_mem_head?_dropWhile _ c hc

theorem isBlank_of_mem_head?_trim (text : List Char) (c : Char)
    (hc : c ∈ (trim text).head?) : isBlank c = false := by
  -- what is trimmed at its end begins as it began before
  have hstarts : trim text <+: trimStart text := by
    rw [trim, trimEnd, ← List.reverse_suffix, List.reverse_reverse]
    exact List.dropWhile_suffix _
  obtain ⟨rest, hrest⟩ := List.head?_eq_some_iff.mp hc
  rw [hrest] at hstarts
  obtain ⟨more, hmore⟩ := hstarts
  refine isBlank_of_mem_head?_dropWhile text c ?_
  rw [← trimStart, ← hmore]
  rfl

theorem trim_trim (text : List Char) : trim (trim text) = trim text :=
  trim_eq_self _ (isBlank_of_mem_head?_trim text) (isBlank_of_mem_getLast?_trim text)

theorem trim_eq_nil_iff (text : List Char) : trim text = [] ↔ ∀ c ∈ text, isBlank c = true := by
  have hstart : trim text = [] ↔ trimStart text = [] := by
    rw [trim, trimEnd, List.reverse_eq_nil_iff, List.dropWhile_eq_nil_iff]
    constructor
    · intro hall
      cases hrest : trimStart text with
      | nil => rfl
      | cons c rest =>
          -- what is left would begin with a character that is no blank
          have hc := isBlank_of_mem_head?_dropWhile text c (by rw [← trimStart, hrest]; rfl)
          have hblank := hall c (by simp [hrest])
          rw [hc] at hblank
          cases hblank
    · intro hnil
      simp [hnil]
  rw [hstart, trimStart, List.dropWhile_eq_nil_iff]

theorem trimmed_eq_empty_iff (text : String) :
    trimmed text = "" ↔ ∀ c ∈ text.toList, isBlank c = true := by
  rw [← trim_eq_nil_iff, ← toList_trimmed, ← String.toList_inj, String.toList_empty]

-- A text and what is left of it without the blanks at its two ends.
inductive Trims : List Char → List Char → Prop where
  | ends (before inner after : List Char) (hbefore : ∀ c ∈ before, isBlank c = true)
      (hafter : ∀ c ∈ after, isBlank c = true) (hhead : ∀ c ∈ inner.head?, isBlank c = false)
      (hlast : ∀ c ∈ inner.getLast?, isBlank c = false) : Trims (before ++ inner ++ after) inner

theorem trims_trim (text : List Char) : Trims text (trim text) := by
  have hstart := List.takeWhile_append_dropWhile (p := isBlank) (l := text)
  have hend := congrArg List.reverse
    (List.takeWhile_append_dropWhile (p := isBlank) (l := (trimStart text).reverse))
  rw [List.reverse_append, List.reverse_reverse] at hend
  have htext : text.takeWhile isBlank ++ trim text ++
      ((trimStart text).reverse.takeWhile isBlank).reverse = text := by
    rw [List.append_assoc, trim, trimEnd, hend]
    exact hstart
  have hbefore (c : Char) (hc : c ∈ text.takeWhile isBlank) : isBlank c = true :=
    List.all_eq_true.mp List.all_takeWhile c hc
  have hafter (c : Char) (hc : c ∈ ((trimStart text).reverse.takeWhile isBlank).reverse) :
      isBlank c = true :=
    List.all_eq_true.mp List.all_takeWhile c (List.mem_reverse.mp hc)
  have htrims := Trims.ends _ _ _ hbefore hafter (isBlank_of_mem_head?_trim text)
    (isBlank_of_mem_getLast?_trim text)
  rwa [htext] at htrims

theorem Trims.trim_eq {text inner : List Char} (htrims : Trims text inner) : trim text = inner := by
  cases htrims with
  | ends before inner after hbefore hafter hhead hlast =>
      cases inner with
      | nil =>
          rw [trim_eq_nil_iff, List.append_nil]
          intro c hc
          exact (List.mem_append.mp hc).elim (hbefore c) (hafter c)
      | cons c rest =>
          have hstart : trimStart (before ++ (c :: rest) ++ after) = (c :: rest) ++ after := by
            rw [trimStart, List.append_assoc, List.dropWhile_append_of_pos hbefore]
            exact dropWhile_isBlank_eq_self _ hhead
          have hreverse :
              ((c :: rest) ++ after).reverse.dropWhile isBlank = (c :: rest).reverse := by
            rw [List.reverse_append, List.dropWhile_append_of_pos (by simpa using hafter)]
            exact dropWhile_isBlank_eq_self _ (by rwa [List.head?_reverse])
          rw [trim, hstart, trimEnd, hreverse, List.reverse_reverse]

theorem trims_iff (text inner : List Char) : Trims text inner ↔ inner = trim text := by
  constructor
  · exact fun htrims => htrims.trim_eq.symm
  · rintro rfl
    exact trims_trim text

end EventTime.Text
