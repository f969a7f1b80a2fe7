import EventTime.Proofs.Template.Canonical
import EventTime.Template.Render

-- Canonical pieces can be written down so that they are read back as they were.
namespace EventTime

namespace Field

-- The letter of a field behind the letter `last`.
-- A month that follows the first letter of the months takes the second one.
def letterAfter (last : Option Char) (field : Field) : Char :=
  if field = .month ∧ last = some 'M' then 'L' else field.letter

theorem ofLetter?_letterAfter (last : Option Char) (field : Field) :
    ofLetter? (field.letterAfter last) = some field := by
  unfold letterAfter
  split
  · rename_i hmonth
    rw [hmonth.1]
    rfl
  · exact ofLetter?_letter field

theorem isAlpha_letterAfter (last : Option Char) (field : Field) :
    (field.letterAfter last).isAlpha = true := by
  unfold letterAfter
  split
  · rfl
  · cases field <;> rfl

theorem month_letterAfter_ne (last : Option Char) :
    month.letterAfter (some (month.letterAfter last)) ≠ month.letterAfter last := by
  by_cases hlast : last = some 'M'
  · rw [hlast]
    decide
  · have hfirst : month.letterAfter last = 'M' := if_neg fun hmonth => hlast hmonth.2
    rw [hfirst]
    decide

end Field

namespace Piece

def lastLetter (last : Option Char) : Piece → Option Char
  | text _ => none
  | field kind _ => some (kind.letterAfter last)

def initial (last : Option Char) : Piece → Char
  | text _ => '\''
  | field kind _ => kind.letterAfter last

-- How a piece is written behind the letter `last`.
-- Quotes at the start of a text stand outside the quoted rest, which must not begin with one.
def source (last : Option Char) : Piece → List Char
  | text chars =>
    let rest := chars.dropWhile (· = '\'')
    Item.doubleQuotes (chars.takeWhile (· = '\'')) ++
      if rest = [] then [] else '\'' :: Item.doubleQuotes rest ++ ['\'']
  | field kind width => List.replicate width (kind.letterAfter last)

theorem head?_source_append (piece : Piece) (last : Option Char) (more : List Char)
    (hproper : piece.Proper) : (piece.source last ++ more).head? = some (piece.initial last) := by
  cases piece with
  | text chars =>
      cases chars with
      | nil => exact absurd rfl hproper
      | cons c rest =>
          by_cases hc : c = '\''
          · simp [source, initial, hc, Item.doubleQuotes]
          · simp [source, initial, hc, Item.doubleQuotes]
  | field kind width =>
      obtain ⟨count, rfl⟩ := Nat.exists_eq_add_of_le' hproper.1
      rfl

-- Pieces that stay two are told apart by the first character of the second.
theorem initial_ne_of_apart (piece next : Piece) (last : Option Char) (hapart : piece.Apart next) :
    next.initial (piece.lastLetter last) ≠ piece.initial last := by
  cases piece with
  | text chars =>
      cases next with
      | text others => exact absurd hapart id
      | field kind width => exact Item.ne_quote_of_isAlpha _ (kind.isAlpha_letterAfter none)
  | field kind width =>
      cases next with
      | text chars => exact (Item.ne_quote_of_isAlpha _ (kind.isAlpha_letterAfter last)).symm
      | field other count =>
          intro hletter
          change other.letterAfter (some (kind.letterAfter last)) = kind.letterAfter last at hletter
          have hother := other.ofLetter?_letterAfter (some (kind.letterAfter last))
          rw [hletter, kind.ofLetter?_letterAfter, Option.some.injEq] at hother
          subst hother
          obtain rfl := hapart rfl
          exact Field.month_letterAfter_ne last hletter

end Piece

namespace Item

-- The items that a text is written in: the quotes at its start, and the rest between two more.
def ofText (text : List Char) : List Item :=
  let rest := text.dropWhile (· = '\'')
  (text.takeWhile (· = '\'')).map (fun _ => quote) ++ if rest = [] then [] else [quoted rest]

theorem isText_of_mem_ofText (text : List Char) (item : Item) (hitem : item ∈ ofText text) :
    item.isText = true := by
  rcases List.mem_append.mp hitem with hquote | hquoted
  · obtain ⟨c, -, rfl⟩ := List.mem_map.mp hquote
    rfl
  · split at hquoted
    · cases hquoted
    · rw [List.mem_singleton.mp hquoted]
      rfl

theorem flatMap_text_quotes (quotes : List Char) (hquotes : ∀ c ∈ quotes, c = '\'') :
    (quotes.map fun _ => quote).flatMap text = quotes := by
  induction quotes with
  | nil => rfl
  | cons c rest ih =>
      obtain ⟨rfl, hrest⟩ := List.forall_mem_cons.mp hquotes
      rw [List.map_cons, List.flatMap_cons, ih hrest]
      rfl

theorem flatMap_text_ofText (text : List Char) : (ofText text).flatMap Item.text = text := by
  have hrest : (if text.dropWhile (· = '\'') = [] then []
      else [quoted (text.dropWhile (· = '\''))]).flatMap Item.text =
        text.dropWhile (· = '\'') := by
    split
    · rename_i hnil
      exact hnil.symm
    · simp [Item.text]
  rw [ofText, List.flatMap_append, flatMap_text_quotes _ (eq_of_mem_takeWhile '\'' text), hrest,
    List.takeWhile_append_dropWhile]

theorem cut_quotes (quotes more : List Char) (hquotes : ∀ c ∈ quotes, c = '\'') :
    Cut (doubleQuotes quotes ++ more) (quotes.map fun _ => .quote) more := by
  induction quotes with
  | nil => exact .nil more
  | cons c rest ih =>
      obtain ⟨rfl, hrest⟩ := List.forall_mem_cons.mp hquotes
      exact .cons (.quote _) (ih hrest)

theorem starts_quoted (text more : List Char) (hne : text ≠ []) (hhead : text.head? ≠ some '\'')
    (hmore : more.head? ≠ some '\'') :
    Starts ('\'' :: doubleQuotes text ++ ['\''] ++ more) (.quoted text) more := by
  have hopen : doubleQuotes text ≠ [] ∧ (doubleQuotes text).head? ≠ some '\'' := by
    cases text with
    | nil => exact absurd rfl hne
    | cons c rest =>
        have hc : c ≠ '\'' := by simpa using hhead
        simp [doubleQuotes, hc]
  have hstarts := Starts.quoted _ text more hopen.2 hopen.1 ((units_iff _ text).mpr rfl) hmore
  simpa using hstarts

theorem cut_ofText (text : List Char) (last : Option Char) (more : List Char)
    (hmore : more.head? ≠ some '\'') :
    Cut ((Piece.text text).source last ++ more) (ofText text) more := by
  have hquotes := eq_of_mem_takeWhile '\'' text
  by_cases hrest : text.dropWhile (· = '\'') = []
  · simp only [Piece.source, ofText, hrest, if_true, List.append_nil]
    exact cut_quotes _ more hquotes
  · simp only [Piece.source, ofText, if_neg hrest, List.append_assoc]
    refine (cut_quotes _ _ hquotes).append (.cons ?_ (.nil more))
    simpa using starts_quoted _ more hrest (head?_dropWhile_ne '\'' text) hmore

end Item

theorem Piece.exists_cut_source (piece : Piece) (last : Option Char) (more : List Char)
    (hproper : piece.Proper) (hmore : more.head? ≠ some (piece.initial last)) :
    ∃ items, Item.Cut (piece.source last ++ more) items more ∧
      ∀ rest : List Piece, (∀ next ∈ rest.head?, piece.Apart next) →
        (items.map Item.piece).foldr cons rest = piece :: rest := by
  cases piece with
  | text chars =>
      have hcut := Item.cut_ofText chars last more hmore
      refine ⟨Item.ofText chars, hcut, ?_⟩
      intro rest hrest
      have htexts := Item.isText_of_mem_ofText chars
      rw [foldr_cons_texts _ rest htexts
        (fun item hitem => hcut.text_ne_nil item hitem (htexts item hitem))
        (fun text hhead => hrest (.text text) hhead), Item.flatMap_text_ofText,
        ofText_of_ne_nil chars hproper]
      rfl
  | field kind width =>
      have hoffset : kind.letterAfter last = 'X' → width ≤ 3 := by
        intro hletter
        have hkind := kind.ofLetter?_letterAfter last
        rw [hletter] at hkind
        cases hkind
        exact hproper.2 rfl
      have hstarts := Item.Starts.run _ kind width more (kind.isAlpha_letterAfter last)
        (kind.ofLetter?_letterAfter last) hproper.1 hoffset hmore
      exact ⟨[_], .cons hstarts (.nil more), fun rest _ => rfl⟩

namespace Template

def printFrom (last : Option Char) : List Piece → List Char
  | [] => []
  | piece :: rest => piece.source last ++ printFrom (piece.lastLetter last) rest

def print (pieces : List Piece) : String := String.ofList (printFrom none pieces)

theorem exists_cut_printFrom (pieces : List Piece) (last : Option Char)
    (hcanonical : Canonical pieces) :
    ∃ items, Item.Cut (printFrom last pieces) items [] ∧
      Piece.join (items.map Item.piece) = pieces := by
  induction pieces generalizing last with
  | nil => exact ⟨[], .nil [], rfl⟩
  | cons piece rest ih =>
      obtain ⟨back, hback, hjoin⟩ := ih (piece.lastLetter last) hcanonical.tail
      have hproper := hcanonical.proper piece List.mem_cons_self
      have hapart := hcanonical.head_apart
      -- what follows begins with another character, so that nothing of it is read into the piece
      have hmore : (printFrom (piece.lastLetter last) rest).head? ≠ some (piece.initial last) := by
        cases rest with
        | nil => simp [printFrom]
        | cons next tail =>
            have hnext := hcanonical.tail.proper next List.mem_cons_self
            rw [printFrom, next.head?_source_append _ _ hnext, ne_eq, Option.some.injEq]
            exact piece.initial_ne_of_apart next last (hapart next rfl)
      obtain ⟨front, hfront, hfold⟩ := piece.exists_cut_source last _ hproper hmore
      refine ⟨front ++ back, hfront.append hback, ?_⟩
      rw [Piece.join, List.map_append, List.foldr_append, ← Piece.join, hjoin, hfold rest hapart]

theorem parse_print (pieces : List Piece) (hcanonical : Canonical pieces) :
    parse (print pieces) = .ok ⟨print pieces, pieces⟩ := by
  obtain ⟨items, hcut, hjoin⟩ := exists_cut_printFrom pieces none hcanonical
  have hsource : (print pieces).toList = printFrom none pieces := String.toList_ofList
  rw [← hsource] at hcut
  rw [parse_of_cut hcut, hjoin]

theorem canonical_text (chars : List Char) (hne : chars ≠ []) : Canonical [.text chars] :=
  ⟨by simpa [Piece.Proper] using hne, .singleton _⟩

-- The canonical pieces are those of the templates, and each is read back from its printed form.
-- So every template can be written in that form, and every text can be had from some template.
theorem parse_print_canonical :
    (∀ pieces, Canonical pieces ↔
      ∃ source template, parse source = .ok template ∧ template.pieces = pieces) ∧
    (∀ pieces, Canonical pieces → parse (print pieces) = .ok ⟨print pieces, pieces⟩) ∧
    (∀ source template, parse source = .ok template →
      ∃ normal, parse (print template.pieces) = .ok normal ∧ normal.pieces = template.pieces ∧
        ∀ zone millis, normal.render zone millis = template.render zone millis) ∧
    (∀ text : String, text ≠ "" →
      ∃ source template, parse source = .ok template ∧
        ∀ zone millis, template.render zone millis = text) := by
  refine ⟨?_, parse_print, ?_, ?_⟩
  · intro pieces
    constructor
    · intro hcanonical
      exact ⟨_, _, parse_print pieces hcanonical, rfl⟩
    · rintro ⟨source, template, hok, rfl⟩
      exact canonical_of_parse source template hok
  · intro source template hok
    exact ⟨_, parse_print _ (canonical_of_parse source template hok), rfl, fun _ _ => rfl⟩
  · intro text hne
    have hchars : text.toList ≠ [] := by simpa using hne
    refine ⟨_, _, parse_print _ (canonical_text text.toList hchars), ?_⟩
    intro zone millis
    simp only [render, renderPieces, List.flatMap_cons, List.flatMap_nil, Piece.render,
      List.append_nil, String.ofList_toList]

-- Quotes at both ends of a text, between months that take turns.
theorem parse_print_canonical_months :
    let pieces : List Piece :=
      [.field .month 2, .field .month 1, .text ['\'', 'M', '\''], .field .month 3]
    Canonical pieces ∧ print pieces = "MML'''M'''MMM" ∧
      parse "MML'''M'''MMM" = .ok ⟨"MML'''M'''MMM", pieces⟩ ∧
      ∃ source template, parse source = .ok template ∧
        ∀ zone millis, template.render zone millis = "''" := by
  intro pieces
  have hcanonical : Canonical pieces := by
    refine ⟨?_, ?_⟩
    · simp [pieces, Piece.Proper]
    · simp [pieces, Piece.Apart]
  have hprint : print pieces = "MML'''M'''MMM" := by decide +kernel
  refine ⟨hcanonical, hprint, ?_, parse_print_canonical.2.2.2 "''" (by decide)⟩
  have hparse := parse_print_canonical.2.1 pieces hcanonical
  rw [hprint] at hparse
  exact hparse

end Template

end EventTime
