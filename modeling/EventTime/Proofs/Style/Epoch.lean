import EventTime.Proofs.Selection.Resolution
import EventTime.Proofs.Text.Integers
import EventTime.Style

-- Options that name an epoch number come to a style that writes it in decimal, in any zone.
namespace EventTime

-- The selector is the keyword of the preset, in letters of either case.
def Preset.NamedBy (preset : Preset) (options : List String) : Prop :=
  ∃ selector, options[0]? = some selector ∧
    Text.sameLetters preset.keyword.toList selector.toList = true

theorem Selection.ofList_of_namedBy {preset : Preset} {options : List String}
    (hnamed : preset.NamedBy options) : ofList options = ofPreset preset options[1]? := by
  obtain ⟨selector, hselector, hsame⟩ := hnamed
  have hfind := (Preset.find?_eq_some_iff selector preset).mpr hsame
  have hne : selector ≠ "" := by
    rintro rfl
    have hnone : Preset.find? "" = none := by decide
    rw [hnone] at hfind
    cases hfind
  simp only [ofList, hselector, ofSelector, if_neg hne, hfind]

namespace Style

theorem write_of_epochMillis {options : List String} (hnamed : Preset.epochMillis.NamedBy options)
    (millis : Int) :
    (ofSelection (Selection.ofList options)).1.write millis = toString millis := by
  rw [Selection.ofList_of_namedBy hnamed]
  exact Decimal.ofList_integer millis

theorem write_of_epochSeconds {options : List String}
    (hnamed : Preset.epochSeconds.NamedBy options) (millis : Int) :
    (ofSelection (Selection.ofList options)).1.write millis = toString (millis / 1000) := by
  rw [Selection.ofList_of_namedBy hnamed]
  exact Decimal.ofList_integer (millis / 1000)

end Style

end EventTime
