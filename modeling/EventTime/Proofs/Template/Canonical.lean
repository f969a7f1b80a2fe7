import EventTime.Proofs.Template.Pieces
import Mathlib.Data.List.Chain

-- The piece lists that templates have: nothing empty, and nothing that could be one piece in two.
namespace EventTime

theorem Field.eq_month_of_ofLetter? (field : Field) (letter other : Char)
    (hletter : ofLetter? letter = some field) (hother : ofLetter? other = some field)
    (hne : letter ≠ other) : field = month := by
  rcases eq_letter_of_ofLetter? letter field hletter with rfl | ⟨hmonth, -⟩
  · rcases eq_letter_of_ofLetter? other field hother with rfl | ⟨hmonth, -⟩
    · exact absurd rfl hne
    · exact hmonth
  · exact hmonth

namespace Piece

-- A piece that writes something, and that a template has letters for.
def Proper : Piece → Prop
  | text chars => chars ≠ []
  | field kind width => 1 ≤ width ∧ (kind = .isoOffset → width ≤ 3)

-- Pieces that stay two when they stand side by side.
-- Months have two letters, so that one can end where the next begins.
def Apart : Piece → Piece → Prop
  | text _, text _ => False
  | field left _, field right _ => left = right → left = .month
  | _, _ => True

end Piece

structure Template.Canonical (pieces : List Piece) : Prop where
  proper : ∀ piece ∈ pieces, piece.Proper
  apart : pieces.IsChain Piece.Apart

namespace Template

theorem canonical_nil : Canonical [] := ⟨by simp, .nil⟩

theorem Canonical.tail {piece : Piece} {rest : List Piece}
    (hcanonical : Canonical (piece :: rest)) : Canonical rest :=
  ⟨fun other hother => hcanonical.proper other (List.mem_cons_of_mem _ hother),
    hcanonical.apart.tail⟩

theorem Canonical.head_apart {piece : Piece} {rest : List Piece}
    (hcanonical : Canonical (piece :: rest)) : ∀ next ∈ rest.head?, piece.Apart next :=
  (List.isChain_cons.mp hcanonical.apart).1

theorem Canonical.cons {piece : Piece} {rest : List Piece} (hproper : piece.Proper)
    (hapart : ∀ next ∈ rest.head?, piece.Apart next) (hrest : Canonical rest) :
    Canonical (piece :: rest) :=
  ⟨List.forall_mem_cons.mpr ⟨hproper, hrest.proper⟩, hrest.apart.cons hapart⟩

theorem Canonical.cons_text {chars : List Char} {pieces : List Piece} (hne : chars ≠ [])
    (hpieces : Canonical pieces) : Canonical (Piece.cons (.text chars) pieces) := by
  cases pieces with
  | nil => exact .cons hne (by simp) canonical_nil
  | cons piece rest =>
      cases piece with
      | field kind width =>
          refine .cons hne ?_ hpieces
          intro next hnext
          cases hnext
          trivial
      | text second =>
          -- the longer text stands before the piece that the shorter one stood before
          refine .cons (by simp [Piece.Proper, hne]) ?_ hpieces.tail
          intro next hnext
          have hsecond := hpieces.head_apart next hnext
          cases next with
          | text text => exact hsecond
          | field kind width => trivial

end Template

namespace Item

theorem Cut.head?_of_join {source rest : List Char} {items : List Item}
    (hcut : Cut source items rest) {kind : Field} {width : Nat}
    (hhead : (Piece.join (items.map Item.piece)).head? = some (.field kind width)) :
    ∃ letter, source.head? = some letter ∧ Field.ofLetter? letter = some kind := by
  have htext (chars : List Char) (pieces : List Piece) :
      (Piece.cons (.text chars) pieces).head? ≠ some (.field kind width) := by
    cases pieces with
    | nil => simp [Piece.cons]
    | cons piece tail => cases piece <;> simp [Piece.cons]
  cases hcut with
  | nil => cases hhead
  | cons hitem hitems =>
      cases hitem with
      | quote => exact absurd hhead (htext _ _)
      | quoted => exact absurd hhead (htext _ _)
      | plain => exact absurd hhead (htext _ _)
      | run letter field count behind hletter hfield hwidth hoffset hend =>
          obtain ⟨more, rfl⟩ := Nat.exists_eq_add_of_le' hwidth
          cases hhead
          exact ⟨letter, rfl, hfield⟩

theorem Cut.canonical {source rest : List Char} {items : List Item}
    (hcut : Cut source items rest) : Template.Canonical (Piece.join (items.map Item.piece)) := by
  have hne := hcut.text_ne_nil
  induction hcut with
  | nil => exact Template.canonical_nil
  | cons hitem hitems ih =>
      have hrest := ih fun other hother => hne other (List.mem_cons_of_mem _ hother)
      have htext := hne _ List.mem_cons_self
      cases hitem with
      | quote => exact hrest.cons_text (htext rfl)
      | quoted => exact hrest.cons_text (htext rfl)
      | plain => exact hrest.cons_text (htext rfl)
      | run letter field width behind hletter hfield hwidth hoffset hend =>
          refine .cons ⟨hwidth, ?_⟩ ?_ hrest
          · rintro rfl
            exact hoffset (eq_X_of_ofLetter?_eq_isoOffset letter hfield)
          · intro next hnext
            cases next with
            | text chars => trivial
            | field other count =>
                -- the run ended before the other letter, so that the field has two letters
                rintro rfl
                obtain ⟨behind, hbehind, hother⟩ := hitems.head?_of_join hnext
                refine Field.eq_month_of_ofLetter? field letter behind hfield hother ?_
                rintro rfl
                exact hend hbehind

end Item

theorem Template.canonical_of_parse (source : String) (template : Template)
    (hok : parse source = .ok template) : Canonical template.pieces := by
  obtain ⟨items, hcut, rfl⟩ := (parse_eq_ok_iff source template).mp hok
  exact hcut.canonical

end EventTime
