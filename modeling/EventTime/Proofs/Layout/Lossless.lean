import EventTime.Preset
import EventTime.Proofs.Layout.Reading
import EventTime.Proofs.Template.Rendering

-- The presets that show a whole date and time tell the instant, up to the offset of the zone.
namespace EventTime

-- The date and time that a zone shows are as far from 1970 as the instant moved by the offset.
theorem Zone.millis_dateTime_read (zone : Zone) (millis : Int) :
    (zone.read millis).time.dateTime.millis =
      millis + 1000 * (zone.offsetAt (millis / 1000)).seconds := by
  rw [Calendar.LocalTime.millis_dateTime]
  exact Calendar.LocalTime.toMillis_ofMillis _

theorem Layout.read?_render (layout : Layout) (zone : Zone) (millis : Int) :
    ∃ time, layout.read? (layout.pieces.flatMap (Piece.render (zone.read millis))) = some time ∧
      time.millis = millis + 1000 * (zone.offsetAt (millis / 1000)).seconds := by
  refine ⟨_, ?_, zone.millis_dateTime_read millis⟩
  rw [layout.flatMap_render_pieces, layout.read?_write]

namespace Preset

-- The layouts of the presets that show all of a date and time.
def layout? : Preset → Option Layout
  | standard => some ⟨['-'], ['-'], [' '], [':'], [':'], [',']⟩
  | iso8601 => some ⟨['-'], ['-'], ['T'], [':'], [':'], [',']⟩
  | iso8601Basic => some ⟨[], [], ['T'], [], [], [',']⟩
  | compact => some ⟨[], [], [], [], [], []⟩
  | _ => none

-- The text of a preset that has a template.
def render? (preset : Preset) (zone : Zone) (millis : Int) : Option String :=
  preset.template?.bind fun source => Template.renderSource? source zone millis

theorem parse_of_layout? (preset : Preset) (layout : Layout)
    (hlayout : preset.layout? = some layout) :
    ∃ source, preset.template? = some source ∧
      Template.parse source = .ok ⟨source, layout.pieces⟩ := by
  cases preset with
  | standard =>
      cases hlayout
      exact ⟨_, rfl, by decide +kernel⟩
  | iso8601 =>
      cases hlayout
      exact ⟨_, rfl, by decide +kernel⟩
  | iso8601Basic =>
      cases hlayout
      exact ⟨_, rfl, by decide +kernel⟩
  | compact =>
      cases hlayout
      exact ⟨_, rfl, by decide +kernel⟩
  | absolute | date | epochSeconds | epochMillis => cases hlayout

theorem render?_of_layout? (preset : Preset) (layout : Layout)
    (hlayout : preset.layout? = some layout) (zone : Zone) {millis : Int}
    (hshown : Millis.IsShown millis) :
    preset.render? zone millis =
      some (String.ofList (layout.pieces.flatMap (Piece.render (zone.read millis)))) := by
  obtain ⟨source, htemplate, hparse⟩ := preset.parse_of_layout? layout hlayout
  rw [render?, htemplate, Option.bind_some, Template.renderSource?_of_parse hparse zone hshown]

theorem exists_read?_render? (preset : Preset) (layout : Layout)
    (hlayout : preset.layout? = some layout) (zone : Zone) {millis : Int}
    (hshown : Millis.IsShown millis) :
    ∃ text time, preset.render? zone millis = some text ∧
      layout.read? text.toList = some time ∧
      time.millis = millis + 1000 * (zone.offsetAt (millis / 1000)).seconds := by
  obtain ⟨time, hread, hmillis⟩ := layout.read?_render zone millis
  refine ⟨_, time, preset.render?_of_layout? layout hlayout zone hshown, ?_, hmillis⟩
  rw [String.toList_ofList, hread]

-- Texts tell instants apart at which the zone has the same offset.
theorem eq_of_render?_eq (preset : Preset) (layout : Layout)
    (hlayout : preset.layout? = some layout) (zone : Zone) {first second : Int}
    (hfirst : Millis.IsShown first) (hsecond : Millis.IsShown second)
    (hoffset : zone.offsetAt (first / 1000) = zone.offsetAt (second / 1000))
    (hsame : preset.render? zone first = preset.render? zone second) : first = second := by
  obtain ⟨text, time, htext, hread, hmillis⟩ :=
    preset.exists_read?_render? layout hlayout zone hfirst
  obtain ⟨other, otherTime, hother, hotherRead, hotherMillis⟩ :=
    preset.exists_read?_render? layout hlayout zone hsecond
  obtain rfl : text = other := Option.some.inj (htext.symm.trans (hsame.trans hother))
  obtain rfl : time = otherTime := Option.some.inj (hread.symm.trans hotherRead)
  rw [hoffset] at hmillis
  omega

-- What a full preset writes splits into a year and a tail of numbers, which are a date and a time
-- of day. They lie as far from 1970 as the instant, moved by the offset that is in force.
-- Where the offset is fixed, no two instants look the same.
theorem layout_lossless (preset : Preset) (layout : Layout)
    (hlayout : preset.layout? = some layout) :
    (∀ zone millis, Millis.IsShown millis →
      ∃ text time, preset.render? zone millis = some text ∧
        layout.read? text.toList = some time ∧
        time.millis = millis + 1000 * (zone.offsetAt (millis / 1000)).seconds) ∧
    (∀ offset first second, Millis.IsShown first → Millis.IsShown second →
      preset.render? (.fixed offset) first = preset.render? (.fixed offset) second →
      first = second) := by
  refine ⟨?_, ?_⟩
  · intro zone millis hshown
    exact preset.exists_read?_render? layout hlayout zone hshown
  · intro offset first second hfirst hsecond hsame
    exact preset.eq_of_render?_eq layout hlayout (.fixed offset) hfirst hsecond rfl hsame

-- The first instant of all, which the host sees on the last day of the year before.
theorem layout_lossless_earliest :
    Millis.IsShown Millis.earliestShown ∧
    Preset.compact.layout? = some ⟨[], [], [], [], [], []⟩ ∧
    Preset.compact.render? .host Millis.earliestShown = some "-2621441231203000000" ∧
    ∃ time, Layout.read? ⟨[], [], [], [], [], []⟩ "-2621441231203000000".toList = some time ∧
      time.millis = Millis.earliestShown - 12600000 := by
  have hshown : Millis.IsShown Millis.earliestShown := by
    unfold Millis.IsShown
    decide
  have htext : Preset.compact.render? .host Millis.earliestShown =
      some "-2621441231203000000" := by decide +kernel
  obtain ⟨text, time, hrender, hread, hmillis⟩ :=
    (layout_lossless .compact _ rfl).1 .host Millis.earliestShown hshown
  obtain rfl := Option.some.inj (htext.symm.trans hrender)
  exact ⟨hshown, rfl, htext, time, hread, hmillis⟩

end Preset

end EventTime
