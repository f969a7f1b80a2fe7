import EventTime.Proofs.Selection.Resolution
import EventTime.Proofs.Text.Letters

-- A selector is taken for a keyword if the two differ in nothing but the case of ASCII letters.
namespace EventTime

namespace Preset

theorem find?_eq_some_iff_alike (text : String) (preset : Preset) :
    find? text = some preset ↔ Text.Alike preset.keyword text := by
  rw [find?_eq_some_iff, Text.sameLetters_iff_alike]

theorem find?_eq_none_iff_alike (text : String) :
    find? text = none ↔ ∀ preset : Preset, ¬ Text.Alike preset.keyword text := by
  rw [Option.eq_none_iff_forall_ne_some]
  simp only [ne_eq, find?_eq_some_iff_alike]

theorem eq_of_alike {first second : Preset} {text : String}
    (hfirst : Text.Alike first.keyword text) (hsecond : Text.Alike second.keyword text) :
    first = second := by
  rw [← find?_eq_some_iff_alike] at hfirst hsecond
  exact Option.some.inj (hfirst.symm.trans hsecond)

theorem ne_empty_of_alike {preset : Preset} {text : String}
    (halike : Text.Alike preset.keyword text) : text ≠ "" := by
  rintro rfl
  have hlength := halike.1
  cases preset <;> cases hlength

-- Presets that are tried in another order, or more than once, give the same one.
theorem find?_of_forall_mem {order : List Preset} (hall : ∀ preset, preset ∈ order)
    (text : String) :
    order.find? (fun preset => Text.sameLetters preset.keyword.toList text.toList) =
      find? text := by
  cases hfind : find? text with
  | none =>
      rw [find?_eq_none_iff_alike] at hfind
      apply List.find?_eq_none.mpr
      intro preset _
      rw [Text.sameLetters_iff_alike]
      exact hfind preset
  | some preset =>
      have halike := (find?_eq_some_iff_alike text preset).mp hfind
      cases horder : order.find? (fun other =>
          Text.sameLetters other.keyword.toList text.toList) with
      | none =>
          have hnot := List.find?_eq_none.mp horder preset (hall preset)
          exact absurd ((Text.sameLetters_iff_alike _ _).mpr halike) hnot
      | some other =>
          have hsame : Text.sameLetters other.keyword.toList text.toList = true := by
            have hfound := List.find?_some horder
            exact hfound
          rw [eq_of_alike ((Text.sameLetters_iff_alike _ _).mp hsame) halike]

end Preset

namespace Selection

-- The template that a selector stands for.
inductive Names : Option String → String → Prop where
  | missing : Names none "yyyy-MM-dd HH:mm:ss,SSS"
  | empty : Names (some "") "yyyy-MM-dd HH:mm:ss,SSS"
  | keyword (preset : Preset) {text template : String} (halike : Text.Alike preset.keyword text)
      (htemplate : preset.template? = some template) : Names (some text) template
  | literal {text : String} (hne : text ≠ "")
      (hnone : ∀ preset : Preset, ¬ Text.Alike preset.keyword text) : Names (some text) text

-- What a selector asks for in a zone.
inductive Asks (zone : Option String) : Option String → Selection → Prop where
  | template {selector : Option String} {template : String} (hnames : Names selector template) :
      Asks zone selector (calendar template zone)
  | seconds {text : String} (halike : Text.Alike Preset.epochSeconds.keyword text) :
      Asks zone (some text) epochSeconds
  | millis {text : String} (halike : Text.Alike Preset.epochMillis.keyword text) :
      Asks zone (some text) epochMillis

section OfSelector

variable (zone : Option String)

theorem ofSelector_of_alike {preset : Preset} {text : String}
    (halike : Text.Alike preset.keyword text) :
    ofSelector (some text) zone = ofPreset preset zone := by
  have hfind := (Preset.find?_eq_some_iff_alike text preset).mpr halike
  simp only [ofSelector, if_neg (Preset.ne_empty_of_alike halike), hfind]

theorem ofSelector_of_not_alike {text : String} (hne : text ≠ "")
    (hnone : ∀ preset : Preset, ¬ Text.Alike preset.keyword text) :
    ofSelector (some text) zone = calendar text zone :=
  ofSelector_of_find?_eq_none zone hne ((Preset.find?_eq_none_iff_alike text).mpr hnone)

theorem asks_of_alike {preset : Preset} {text : String}
    (halike : Text.Alike preset.keyword text) : Asks zone (some text) (ofPreset preset zone) := by
  cases preset with
  | epochSeconds => exact .seconds halike
  | epochMillis => exact .millis halike
  | _ => exact .template (.keyword _ halike rfl)

theorem asks_ofSelector (selector : Option String) :
    Asks zone selector (ofSelector selector zone) := by
  cases selector with
  | none => exact .template .missing
  | some text =>
      by_cases hempty : text = ""
      · subst hempty
        exact .template .empty
      · by_cases hkeyword : ∃ preset : Preset, Text.Alike preset.keyword text
        · obtain ⟨preset, halike⟩ := hkeyword
          rw [ofSelector_of_alike zone halike]
          exact asks_of_alike zone halike
        · have hnone := not_exists.mp hkeyword
          rw [ofSelector_of_not_alike zone hempty hnone]
          exact .template (.literal hempty hnone)

theorem ofSelector_of_names {selector : Option String} {template : String}
    (hnames : Names selector template) : ofSelector selector zone = calendar template zone := by
  cases hnames with
  | missing => rfl
  | empty => rfl
  | keyword preset halike htemplate =>
      rw [ofSelector_of_alike zone halike]
      simp only [ofPreset, htemplate]
  | literal hne hnone => exact ofSelector_of_not_alike zone hne hnone

theorem ofSelector_eq_iff_asks (selector : Option String) (selection : Selection) :
    ofSelector selector zone = selection ↔ Asks zone selector selection := by
  constructor
  · rintro rfl
    exact asks_ofSelector zone selector
  · intro hasks
    cases hasks with
    | template hnames => exact ofSelector_of_names zone hnames
    | seconds halike => exact ofSelector_of_alike zone halike
    | millis halike => exact ofSelector_of_alike zone halike

-- Only for a keyword does the case of its letters make no difference.
theorem ofSelector_eq_iff_of_alike {first second : String} (halike : Text.Alike first second) :
    ofSelector (some first) zone = ofSelector (some second) zone ↔
      (∃ preset : Preset, Text.Alike preset.keyword first) ∨ first = second := by
  by_cases hkeyword : ∃ preset : Preset, Text.Alike preset.keyword first
  · obtain ⟨preset, hfirst⟩ := hkeyword
    rw [ofSelector_of_alike zone hfirst, ofSelector_of_alike zone (hfirst.trans halike)]
    exact ⟨fun _ => .inl ⟨preset, hfirst⟩, fun _ => rfl⟩
  · have hnone := not_exists.mp hkeyword
    have hother : ∀ preset : Preset, ¬ Text.Alike preset.keyword second :=
      fun preset hsecond => hnone preset (hsecond.trans halike.symm)
    rw [or_iff_right hkeyword]
    constructor
    · intro hsame
      by_cases hempty : first = ""
      · have hlength : "".length = second.length := hempty ▸ halike.1
        rw [hempty, eq_comm, ← String.length_eq_zero_iff, ← hlength, String.length_empty]
      · have hne : second ≠ "" := by
          rintro rfl
          exact hempty (String.length_eq_zero_iff.mp halike.1)
        rw [ofSelector_of_not_alike zone hempty hnone, ofSelector_of_not_alike zone hne hother]
          at hsame
        exact (Selection.calendar.inj hsame).1
    · rintro rfl
      rfl

end OfSelector

-- A text is the keyword of one preset at most: of the one whose keyword has its length and its
-- letters, in either case. So it does not matter in which order the keywords are tried.
-- A selector asks for an epoch number if it is one of their two keywords. Any other asks for a
-- template in the zone as it is given: the standard one if it is missing or empty, that of its
-- keyword, or else itself.
-- Two selectors that differ in the case of their letters only ask for the same if they are the
-- same or a keyword.
theorem ofSelector_exact (zone : Option String) :
    (∀ text preset, Preset.find? text = some preset ↔ Text.Alike preset.keyword text) ∧
    (∀ text (first second : Preset), Text.Alike first.keyword text →
      Text.Alike second.keyword text → first = second) ∧
    (∀ order : List Preset, (∀ preset, preset ∈ order) → ∀ text,
      order.find? (fun preset => Text.sameLetters preset.keyword.toList text.toList) =
        Preset.find? text) ∧
    (∀ selector, ofSelector selector zone = epochSeconds ↔
      ∃ text, selector = some text ∧ Text.Alike "UNIX" text) ∧
    (∀ selector, ofSelector selector zone = epochMillis ↔
      ∃ text, selector = some text ∧ Text.Alike "UNIX_MILLIS" text) ∧
    (∀ selector template option, ofSelector selector zone = calendar template option ↔
      option = zone ∧ Names selector template) ∧
    (∀ first second, Text.Alike first second →
      (ofSelector (some first) zone = ofSelector (some second) zone ↔
        (∃ preset : Preset, Text.Alike preset.keyword first) ∨ first = second)) ∧
    ∀ left right, (Lines.encode left).map Text.upperByte = (Lines.encode right).map Text.upperByte ↔
      Text.Alike left right := by
  refine ⟨Preset.find?_eq_some_iff_alike, fun _ _ _ => Preset.eq_of_alike,
    fun _ => Preset.find?_of_forall_mem, ?_, ?_, ?_, fun _ _ => ofSelector_eq_iff_of_alike zone,
    Text.map_upperByte_encode_eq_iff⟩
  · intro selector
    rw [ofSelector_eq_iff_asks]
    constructor
    · rintro (_ | halike)
      exact ⟨_, rfl, halike⟩
    · rintro ⟨text, rfl, halike⟩
      exact .seconds halike
  · intro selector
    rw [ofSelector_eq_iff_asks]
    constructor
    · rintro (_ | _ | halike)
      exact ⟨_, rfl, halike⟩
    · rintro ⟨text, rfl, halike⟩
      exact .millis halike
  · intro selector template option
    rw [ofSelector_eq_iff_asks]
    constructor
    · rintro (hnames | _)
      exact ⟨rfl, hnames⟩
    · rintro ⟨rfl, hnames⟩
      exact .template hnames

-- Letters of either case, a keyword with a letter more, one with a letter that only other rules
-- than those of ASCII take for an s, and a template that means something else in the other case.
theorem ofSelector_exact_lookalikes :
    Text.Alike "UNIX_MILLIS" "unix_Millis" ∧ Text.Alike "hh:MM" "HH:mm" ∧
    ofSelector (some "unix_Millis") (some "UTC") = epochMillis ∧
    ofSelector (some "unix_") none = calendar "unix_" none ∧
    ofSelector (some "i\u017fo8601") none = calendar "i\u017fo8601" none ∧
    Preset.all.reverse.find?
      (fun preset => Text.sameLetters preset.keyword.toList "Iso8601_Basic".toList) =
        some .iso8601Basic ∧
    ofSelector (some "hh:MM") none ≠ ofSelector (some "HH:mm") none := by
  have hmillis : Text.Alike "UNIX_MILLIS" "unix_Millis" := by decide
  have hcases : Text.Alike "hh:MM" "HH:mm" := by decide
  have hbasic : Text.Alike Preset.iso8601Basic.keyword "Iso8601_Basic" := by decide
  have hlonger : ∀ preset : Preset, ¬ Text.Alike preset.keyword "unix_" := by
    intro preset
    cases preset <;> decide
  have hlong : ∀ preset : Preset, ¬ Text.Alike preset.keyword "i\u017fo8601" := by
    intro preset
    cases preset <;> decide
  have hclock : ∀ preset : Preset, ¬ Text.Alike preset.keyword "hh:MM" := by
    intro preset
    cases preset <;> decide
  obtain ⟨hfind, -, horder, -, -, hcalendar, hsame, -⟩ := ofSelector_exact none
  obtain ⟨-, -, -, -, hepoch, -⟩ := ofSelector_exact (some "UTC")
  refine ⟨hmillis, hcases, (hepoch _).mpr ⟨_, rfl, hmillis⟩, ?_, ?_, ?_, ?_⟩
  · exact (hcalendar _ _ _).mpr ⟨rfl, .literal (by decide) hlonger⟩
  · exact (hcalendar _ _ _).mpr ⟨rfl, .literal (by decide) hlong⟩
  · rw [horder _ (fun preset => List.mem_reverse.mpr preset.mem_all)]
    exact (hfind _ _).mpr hbasic
  · rw [Ne, hsame _ _ hcases]
    rintro (⟨preset, halike⟩ | heq)
    · exact hclock preset halike
    · exact absurd heq (by decide)

end Selection

end EventTime
