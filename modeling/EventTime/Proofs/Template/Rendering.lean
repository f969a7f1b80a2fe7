import EventTime.Proofs.Template.Printing

-- What the source of a template shows in a zone at an instant.
namespace EventTime

-- The instants that are shown as themselves.
def Millis.IsShown (millis : Int) : Prop := earliestShown ≤ millis ∧ millis ≤ latestShown

theorem Millis.shown_of_isShown {millis : Int} (hshown : IsShown millis) :
    shown millis = millis :=
  if_pos hshown

theorem Millis.isShown_shown (millis : Int) : IsShown (shown millis) := by
  unfold shown
  split
  · rename_i hshown
    exact hshown
  · unfold IsShown
    decide

namespace Template

-- The text of a source, if the source is a template.
def renderSource? (source : String) (zone : Zone) (millis : Int) : Option String :=
  (parse source).toOption.map fun template => template.render zone millis

-- Any other instant looks like the one that is shown for it.
theorem render_shown (template : Template) (zone : Zone) (millis : Int) :
    template.render zone (Millis.shown millis) = template.render zone millis := by
  simp only [render, renderPieces, Millis.shown_of_isShown (Millis.isShown_shown millis)]

theorem render_of_isShown (template : Template) (zone : Zone) {millis : Int}
    (hshown : Millis.IsShown millis) :
    template.render zone millis =
      String.ofList (template.pieces.flatMap (Piece.render (zone.read millis))) := by
  simp only [render, renderPieces, Millis.shown_of_isShown hshown]

theorem renderSource?_shown (source : String) (zone : Zone) (millis : Int) :
    renderSource? source zone (Millis.shown millis) = renderSource? source zone millis := by
  simp only [renderSource?, render_shown]

theorem renderSource?_of_parse {source : String} {pieces : List Piece}
    (hparse : parse source = .ok ⟨source, pieces⟩) (zone : Zone) {millis : Int}
    (hshown : Millis.IsShown millis) :
    renderSource? source zone millis =
      some (String.ofList (pieces.flatMap (Piece.render (zone.read millis)))) := by
  simp only [renderSource?, hparse, Except.toOption, Option.map_some,
    render_of_isShown _ zone hshown]

-- A run of letters alone shows its field.
theorem parse_run (field : Field) (width : Nat) (hwidth : 1 ≤ width)
    (hoffset : field = .isoOffset → width ≤ 3) :
    parse (String.ofList (List.replicate width field.letter)) =
      .ok ⟨String.ofList (List.replicate width field.letter), [.field field width]⟩ := by
  have hcanonical : Canonical [.field field width] :=
    .cons ⟨hwidth, hoffset⟩ (by simp) canonical_nil
  have hprint : print [.field field width] =
      String.ofList (List.replicate width field.letter) := by
    simp [print, printFrom, Piece.source, Field.letterAfter]
  rw [← hprint]
  exact parse_print _ hcanonical

theorem renderSource?_run (field : Field) (width : Nat) (hwidth : 1 ≤ width)
    (hoffset : field = .isoOffset → width ≤ 3) (zone : Zone) {millis : Int}
    (hshown : Millis.IsShown millis) :
    renderSource? (String.ofList (List.replicate width field.letter)) zone millis =
      some (String.ofList (field.render (zone.read millis) width)) := by
  rw [renderSource?_of_parse (parse_run field width hwidth hoffset) zone hshown,
    List.flatMap_singleton, Piece.render]

end Template

end EventTime
