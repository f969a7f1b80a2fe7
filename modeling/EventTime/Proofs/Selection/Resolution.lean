import EventTime.Selection
import Mathlib.Logic.Basic

-- What selectors come to.
namespace EventTime

namespace Preset

-- No two keywords agree in their letters, so the order in which they are tried is of no account.
theorem find?_eq_some_iff (text : String) (preset : Preset) :
    find? text = some preset ↔ Text.sameLetters preset.keyword.toList text.toList = true := by
  constructor
  · intro hfind
    have hsame := List.find?_some hfind
    exact hsame
  · intro hsame
    have hupper := (Text.sameLetters_iff _ _).mp hsame
    simp only [find?, Text.sameLetters, ← hupper]
    cases preset <;> decide

-- The text is the keyword of an epoch number, in letters of either case.
def NamesEpoch (text : String) : Prop :=
  Text.sameLetters epochSeconds.keyword.toList text.toList = true ∨
    Text.sameLetters epochMillis.keyword.toList text.toList = true

instance (text : String) : Decidable (NamesEpoch text) := inferInstanceAs (Decidable (_ ∨ _))

theorem namesEpoch_iff (text : String) :
    NamesEpoch text ↔ ∃ preset, find? text = some preset ∧ preset.template? = none := by
  rw [NamesEpoch, ← find?_eq_some_iff, ← find?_eq_some_iff]
  constructor
  · rintro (hfind | hfind)
    · exact ⟨_, hfind, rfl⟩
    · exact ⟨_, hfind, rfl⟩
  · rintro ⟨preset, hfind, hnone⟩
    cases preset with
    | epochSeconds => exact .inl hfind
    | epochMillis => exact .inr hfind
    | _ => cases hnone

-- A template that a keyword stands for is not itself taken for a keyword.
theorem find?_template (preset : Preset) (source : String)
    (htemplate : preset.template? = some source) : source ≠ "" ∧ find? source = none := by
  cases preset with
  | epochSeconds => cases htemplate
  | epochMillis => cases htemplate
  | _ =>
      cases htemplate
      decide

end Preset

namespace Selection

-- A selector names an epoch number, or else asks for a template that stands for itself.
theorem ofSelector_cases (selector zone : Option String) :
    (Preset.NamesEpoch (selector.getD "") ∧
      (ofSelector selector zone = epochSeconds ∨ ofSelector selector zone = epochMillis)) ∨
    (¬ Preset.NamesEpoch (selector.getD "") ∧
      ∃ source, source ≠ "" ∧ Preset.find? source = none ∧
        ofSelector selector zone = calendar source zone) := by
  have hstandard := Preset.standard.find?_template Template.standard.source rfl
  cases selector with
  | none => exact .inr ⟨by decide, _, hstandard.1, hstandard.2, rfl⟩
  | some text =>
      rw [Option.getD_some]
      by_cases hempty : text = ""
      · refine .inr ⟨by rw [hempty]; decide, _, hstandard.1, hstandard.2, ?_⟩
        rw [ofSelector, if_pos hempty]
      · rw [ofSelector, if_neg hempty]
        cases hfind : Preset.find? text with
        | none =>
            refine .inr ⟨?_, text, hempty, hfind, rfl⟩
            rw [Preset.namesEpoch_iff, hfind]
            rintro ⟨preset, hsome, -⟩
            cases hsome
        | some preset =>
            simp only [ofPreset, Preset.namesEpoch_iff, hfind]
            cases htemplate : preset.template? with
            | none =>
                exact .inl ⟨⟨preset, rfl, htemplate⟩, ite_eq_or_eq _ _ _⟩
            | some source =>
                have hself := preset.find?_template source htemplate
                refine .inr ⟨?_, source, hself.1, hself.2, rfl⟩
                rintro ⟨other, hother, hnone⟩
                cases hother
                rw [htemplate] at hnone
                cases hnone

theorem ofSelector_of_find?_eq_none {source : String} (zone : Option String) (hne : source ≠ "")
    (hfind : Preset.find? source = none) :
    ofSelector (some source) zone = calendar source zone := by
  simp only [ofSelector, if_neg hne, hfind]

end Selection

end EventTime
