import EventTime.Proofs.Template.Grammar
import EventTime.Template.Basic

-- Templates are read by their grammar: the pieces of a sequence of items, and the first fault.
namespace EventTime

namespace Item

def isText : Item → Bool
  | run _ _ _ => false
  | _ => true

-- The text that an item stands for. A run stands for a field instead.
def text : Item → List Char
  | quote => ['\'']
  | quoted text => text
  | run _ _ _ => []
  | plain c => [c]

end Item

-- The piece for a text, if there is anything to write.
def Piece.ofText (text : List Char) : List Piece := if text = [] then [] else [.text text]

-- The pieces of items: a field for each run, and between the runs one text for all that is there.
inductive Item.Joined : List Item → List Piece → Prop where
  | texts (texts : List Item) (htexts : ∀ item ∈ texts, item.isText = true) :
      Joined texts (Piece.ofText (texts.flatMap Item.text))
  | run (texts : List Item) (letter : Char) (field : Field) (width : Nat) {rest : List Item}
      {pieces : List Piece} (htexts : ∀ item ∈ texts, item.isText = true)
      (hrest : Joined rest pieces) :
      Joined (texts ++ .run letter field width :: rest)
        (Piece.ofText (texts.flatMap Item.text) ++ .field field width :: pieces)

namespace Piece

theorem ofText_of_ne_nil (text : List Char) (hne : text ≠ []) : ofText text = [.text text] :=
  if_neg hne

theorem cons_text_ofText (first second : List Char) (rest : List Piece) (hfirst : first ≠ [])
    (hrest : ∀ text, rest.head? ≠ some (.text text)) :
    cons (.text first) (ofText second ++ rest) = ofText (first ++ second) ++ rest := by
  rw [ofText_of_ne_nil (first ++ second) (by simp [hfirst])]
  by_cases hsecond : second = []
  · subst hsecond
    simp only [ofText, if_true, List.nil_append, List.append_nil]
    cases rest with
    | nil => rfl
    | cons piece tail =>
        cases piece with
        | text text => exact absurd rfl (hrest text)
        | field kind width => rfl
  · rw [ofText_of_ne_nil second hsecond]
    rfl

theorem foldr_cons_texts (texts : List Item) (rest : List Piece)
    (htexts : ∀ item ∈ texts, item.isText = true) (hne : ∀ item ∈ texts, item.text ≠ [])
    (hrest : ∀ text, rest.head? ≠ some (.text text)) :
    (texts.map Item.piece).foldr cons rest = ofText (texts.flatMap Item.text) ++ rest := by
  induction texts with
  | nil => rfl
  | cons item tail ih =>
      have htail := ih (fun other hother => htexts other (List.mem_cons_of_mem _ hother))
        (fun other hother => hne other (List.mem_cons_of_mem _ hother))
      have hpiece : item.piece = .text item.text := by
        have htext := htexts item List.mem_cons_self
        cases item with
        | run letter field width => cases htext
        | _ => rfl
      rw [List.map_cons, List.foldr_cons, htail, hpiece, List.flatMap_cons]
      exact cons_text_ofText item.text _ rest (hne item List.mem_cons_self) hrest

end Piece

namespace Item

theorem Cut.text_ne_nil {source rest : List Char} {items : List Item}
    (hcut : Cut source items rest) (item : Item) (hitem : item ∈ items)
    (htext : item.isText = true) : item.text ≠ [] := by
  induction hcut with
  | nil rest => cases hitem
  | cons hfirst hitems ih =>
      rcases List.mem_cons.mp hitem with rfl | hitem
      · cases hfirst with
        | quoted written text rest hopen hne hunits hclose =>
            rintro rfl
            cases hunits
            exact hne rfl
        | run => cases htext
        | quote => simp [text]
        | plain => simp [text]
      · exact ih hitem

theorem exists_joined (items : List Item) : ∃ pieces, Joined items pieces := by
  induction items with
  | nil => exact ⟨_, .texts [] (by simp)⟩
  | cons item rest ih =>
      obtain ⟨pieces, hjoined⟩ := ih
      by_cases htext : item.isText = true
      · -- the item goes to the texts before the next run, or before the end
        cases hjoined with
        | texts _ htexts =>
            exact ⟨_, .texts (item :: rest) (List.forall_mem_cons.mpr ⟨htext, htexts⟩)⟩
        | run texts letter field width htexts hrest =>
            exact ⟨_, .run (item :: texts) letter field width
              (List.forall_mem_cons.mpr ⟨htext, htexts⟩) hrest⟩
      · cases item with
        | run letter field width => exact ⟨_, .run [] letter field width (by simp) hjoined⟩
        | _ => exact absurd rfl htext

theorem Joined.eq_join {items : List Item} {pieces : List Piece} (hjoined : Joined items pieces)
    (hne : ∀ item ∈ items, item.isText = true → item.text ≠ []) :
    pieces = Piece.join (items.map Item.piece) := by
  induction hjoined with
  | texts texts htexts =>
      rw [Piece.join, Piece.foldr_cons_texts texts [] htexts
        (fun item hitem => hne item hitem (htexts item hitem)) (by simp), List.append_nil]
  | @run texts letter field width rest pieces htexts hrest ih =>
      have htail := ih fun item hitem => hne item (by simp [hitem])
      rw [Piece.join, List.map_append, List.foldr_append, List.map_cons, List.foldr_cons,
        ← Piece.join, ← htail]
      exact (Piece.foldr_cons_texts texts _ htexts
        (fun item hitem => hne item (by simp [hitem]) (htexts item hitem)) (by simp)).symm

theorem joined_iff {items : List Item}
    (hne : ∀ item ∈ items, item.isText = true → item.text ≠ []) (pieces : List Piece) :
    Joined items pieces ↔ pieces = Piece.join (items.map Item.piece) := by
  constructor
  · exact fun hjoined => hjoined.eq_join hne
  · rintro rfl
    obtain ⟨pieces, hjoined⟩ := exists_joined items
    rw [← hjoined.eq_join hne]
    exact hjoined

end Item

namespace Template

open Item

theorem parse_of_cut {source : String} {items : List Item} (hcut : Cut source.toList items []) :
    parse source = .ok ⟨source, Piece.join (items.map Item.piece)⟩ := by
  rw [parse, hcut.readAll_eq_ok 0]
  rfl

theorem parse_eq_ok_iff (source : String) (template : Template) :
    parse source = .ok template ↔
      ∃ items, Cut source.toList items [] ∧
        template = ⟨source, Piece.join (items.map Item.piece)⟩ := by
  constructor
  · intro hok
    cases hread : readAll 0 source.toList with
    | error fault =>
        rw [parse, hread] at hok
        cases hok
    | ok items =>
        have hcut := (readAll_eq_ok_iff 0 source.toList items).mp hread
        rw [parse_of_cut hcut] at hok
        cases hok
        exact ⟨items, hcut, rfl⟩
  · rintro ⟨items, hcut, rfl⟩
    exact parse_of_cut hcut

theorem parse_eq_error_iff (source : String) (fault : Fault) :
    parse source = .error fault ↔
      ∃ items rest, Cut source.toList items rest ∧
        fault.At (items.flatMap Item.source).length rest := by
  have hread := readAll_eq_error_iff 0 source.toList fault
  simp only [Nat.zero_add] at hread
  rw [← hread, parse]
  cases readAll 0 source.toList with
  | error other => simp only [Except.map, Except.error.injEq]
  | ok items => simp only [Except.map, reduceCtorEq]

-- The texts that are templates are those that the grammar cuts into items, in one way only,
-- and their pieces are those that the items stand for.
-- For every other text, the longest row of items from its start ends at the fault that is told.
theorem parse_grammar (source : String) :
    ((∃ template, parse source = .ok template) ↔ ∃ items, Cut source.toList items []) ∧
    (∀ items, Cut source.toList items [] →
      (∀ others, Cut source.toList others [] → others = items) ∧
      ∃ pieces, parse source = .ok ⟨source, pieces⟩ ∧
        ∀ others, Joined items others ↔ others = pieces) ∧
    (∀ fault, parse source = .error fault ↔
      ∃ before items rest, source.toList = before ++ rest ∧ Cut source.toList items rest ∧
        (∀ others behind, Cut source.toList others behind → others <+: items) ∧
        fault.At before.length rest) := by
  refine ⟨?_, ?_, ?_⟩
  · constructor
    · rintro ⟨template, hok⟩
      obtain ⟨items, hcut, -⟩ := (parse_eq_ok_iff source template).mp hok
      exact ⟨items, hcut⟩
    · rintro ⟨items, hcut⟩
      exact ⟨_, parse_of_cut hcut⟩
  · intro items hcut
    exact ⟨fun others hothers => hcut.unique hothers, _, parse_of_cut hcut,
      joined_iff hcut.text_ne_nil⟩
  · intro fault
    rw [parse_eq_error_iff]
    constructor
    · rintro ⟨items, rest, hcut, hat⟩
      exact ⟨_, items, rest, hcut.eq_append, hcut, fun _ _ => hcut.isPrefix_of_at hat, hat⟩
    · rintro ⟨before, items, rest, hsource, hcut, -, hat⟩
      -- the items are as long as they are written
      have hbefore : before = items.flatMap Item.source :=
        List.append_cancel_right (hsource.symm.trans hcut.eq_append)
      rw [hbefore] at hat
      exact ⟨items, rest, hcut, hat⟩

-- Quotes alone, in a quoted text and beside it, around a run.
theorem parse_grammar_quotes :
    let source := String.ofList ['\'', '\'', 'h', 'h', ' ', '\'', 'o', '\'', '\'', 'c', '\'']
    let items : List Item :=
      [.quote, .run 'h' .hourFrom1To12 2, .plain ' ', .quoted ['o', '\'', 'c']]
    Cut source.toList items [] ∧
      Joined items
        [.text ['\''], .field .hourFrom1To12 2, .text [' ', 'o', '\'', 'c']] ∧
      parse source = .ok
        ⟨source, [.text ['\''], .field .hourFrom1To12 2, .text [' ', 'o', '\'', 'c']]⟩ := by
  intro source items
  have hcut : Cut source.toList items [] := by
    rw [String.toList_ofList]
    refine .cons (.quote _) (.cons (.run 'h' _ 2 _ rfl rfl (by decide) (by decide) (by decide))
      (.cons (.plain ' ' _ (by decide) rfl) (.cons ?_ (.nil []))))
    exact .quoted _ _ [] (by decide) (by decide)
      ((units_iff ['o', '\'', '\'', 'c'] _).mpr rfl) (by decide)
  obtain ⟨-, pieces, hparse, hjoined⟩ := (parse_grammar source).2.1 items hcut
  have hpieces : Joined items
      [.text ['\''], .field .hourFrom1To12 2, .text [' ', 'o', '\'', 'c']] :=
    .run [.quote] 'h' _ 2 (by decide) (.texts [.plain ' ', .quoted ['o', '\'', 'c']] (by decide))
  rw [← (hjoined _).mp hpieces] at hparse
  exact ⟨hcut, hpieces, hparse⟩

end Template

end EventTime
