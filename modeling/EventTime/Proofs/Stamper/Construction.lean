import EventTime.Command.Run
import EventTime.Proofs.Selection.Resolution
import EventTime.Proofs.Style.Warnings
import EventTime.Proofs.Zone.Resolution

-- What is built from options, and what is told about those that cannot be used.
namespace EventTime

namespace Template

theorem source_of_parse {source : String} {template : Template}
    (hparse : parse source = .ok template) : template.source = source := by
  rw [parse] at hparse
  cases hread : Item.readAll 0 source.toList with
  | error fault =>
      rw [hread] at hparse
      cases hparse
  | ok items =>
      rw [hread] at hparse
      cases hparse
      rfl

-- The standard template is what is read from its own source.
theorem parse_standard : parse standard.source = .ok standard := by decide +kernel

end Template

namespace Zone

-- An option names no zone if it is neither blank, nor an id of the database, nor an offset.
def IsUnknown (option : Option String) : Prop :=
  optionId option ≠ [] ∧ Region.find? (String.ofList (optionId option)) = none ∧
    Offset.ofText? (optionId option) = none

instance (option : Option String) : Decidable (IsUnknown option) :=
  inferInstanceAs (Decidable (_ ∧ _ ∧ _))

theorem ofOption_of_isUnknown {option : Option String} (hunknown : IsUnknown option) :
    (ofOption option).1 = .region .gmt := by
  obtain ⟨hne, hfind, htext⟩ := hunknown
  simp only [optionId] at hne hfind htext
  simp only [ofOption, if_neg hne, ofId?, hfind, htext, Option.map_none]

end Zone

namespace Style

-- The warning about a zone option, if there is one.
def zoneWarnings (option : Option String) : List Warning :=
  if Zone.IsUnknown option then [.unknownZone (String.ofList (Zone.optionId option))] else []

theorem zoneOf_eq (option : Option String) :
    zoneOf option = ((Zone.ofOption option).1, zoneWarnings option) := by
  unfold zoneWarnings
  rcases Zone.ofOption_cases option with ⟨hblank, hoption⟩ | ⟨place, -, hfind, hoption⟩ |
    ⟨offset, -, -, htext, hoption⟩ | ⟨hne, hfind, htext, hoption⟩
  · rw [if_neg (fun hunknown => hunknown.1 hblank), zoneOf, hoption]
  · rw [if_neg, zoneOf, hoption]
    rintro ⟨-, hnone, -⟩
    rw [hfind] at hnone
    cases hnone
  · rw [if_neg, zoneOf, hoption]
    rintro ⟨-, -, hnone⟩
    rw [htext] at hnone
    cases hnone
  · rw [if_pos ⟨hne, hfind, htext⟩, zoneOf, hoption]

theorem templateOf_of_ok {source : String} {template : Template}
    (hparse : Template.parse source = .ok template) : templateOf source = (template, []) := by
  simp only [templateOf, hparse]

theorem templateOf_of_error {source : String} {fault : Template.Fault}
    (hparse : Template.parse source = .error fault) :
    templateOf source = (Template.standard, [.badTemplate source fault]) := by
  simp only [templateOf, hparse]

end Style

-- A run tells the warnings about its options and no others.
theorem Command.warnings_run (command : Command) (hlist : command.listFormats = false)
    (store : Store) (standardInput : List UInt8) (clock : Int) :
    (command.run store standardInput clock).warnings =
      (Stamper.ofList command.options.toList .own clock).2 := by
  rw [run, if_neg (by simp [hlist])]
  cases hpath : command.output with
  | none => rfl
  | some path =>
      simp only
      cases hlocate : store.locate path with
      | error fault => rfl
      | ok name => rfl

namespace Stamper

section OfList

variable (options : List String) (policy : Policy) (seed : Int)

theorem ofList_of_calendar {source : String} {option : Option String}
    (hselection : Selection.ofList options = .calendar source option) :
    ofList options policy seed =
      (⟨Memo.ofStyle (.calendar (Style.templateOf source).1 (Zone.ofOption option).1) policy seed⟩,
        Style.zoneWarnings option ++ (Style.templateOf source).2) := by
  simp only [ofList, hselection, Style.ofSelection, Style.zoneOf_eq]

-- Either the selector names an epoch number, and the zone counts for nothing, or it comes to a
-- source that stands for itself.
theorem ofList_cases :
    (Preset.NamesEpoch (options[0]?.getD "") ∧ ∃ style : Style, style.template? = none ∧
      ofList options policy seed = (⟨Memo.ofStyle style policy seed⟩, [])) ∨
    (¬ Preset.NamesEpoch (options[0]?.getD "") ∧
      ∃ source, source ≠ "" ∧ Preset.find? source = none ∧
        Selection.ofList options = .calendar source options[1]?) := by
  rcases Selection.ofSelector_cases options[0]? options[1]? with
    ⟨hepoch, hselection | hselection⟩ | hcalendar
  · refine .inl ⟨hepoch, .epochSeconds, rfl, ?_⟩
    simp only [ofList, Selection.ofList, hselection, Style.ofSelection]
  · refine .inl ⟨hepoch, .epochMillis, rfl, ?_⟩
    simp only [ofList, Selection.ofList, hselection, Style.ofSelection]
  · exact .inr hcalendar

theorem ofList_standard (hselector : options[0]? = some Preset.standard.keyword) :
    ofList options policy seed =
      (⟨Memo.ofStyle (.calendar Template.standard (Zone.ofOption options[1]?).1) policy seed⟩,
        Style.zoneWarnings options[1]?) := by
  have hselection : Selection.ofList options = .calendar Template.standard.source options[1]? := by
    rw [Selection.ofList, hselector]
    rfl
  rw [ofList_of_calendar options policy seed hselection,
    Style.templateOf_of_ok Template.parse_standard, List.append_nil]

end OfList

-- There is a stamper for all options. An epoch number is never warned about, whatever the zone.
-- Otherwise the zone is warned about if it is unknown, and then the template if it is at fault.
-- A template at fault gives way to the standard one, as if that had been asked for by its
-- keyword. Its warning quotes it and says what the fault is, and no other template is warned about
-- in the same words. Nothing that a stamper does later adds a warning.
theorem ofList_warnings (options : List String) (policy : Policy) (seed : Int) :
    let stamper := (ofList options policy seed).1
    let warnings := (ofList options policy seed).2
    let zone := (Zone.ofOption options[1]?).1
    (Preset.NamesEpoch (options[0]?.getD "") → stamper.template? = none ∧ warnings = []) ∧
    (¬ Preset.NamesEpoch (options[0]?.getD "") → ∃ source,
      (Selection.ofList options).template? = some source ∧
      (∀ template, Template.parse source = .ok template →
        stamper.memo.style = .calendar template zone ∧
        stamper.template? = some source ∧
        warnings = Style.zoneWarnings options[1]?) ∧
      ∀ fault, Template.parse source = .error fault →
        stamper.memo.style = .calendar Template.standard zone ∧
        warnings = Style.zoneWarnings options[1]? ++ [.badTemplate source fault] ∧
        (Warning.badTemplate source fault).message =
          "Could not use date pattern '" ++ source ++ "': " ++ fault.message ++
            "; using the default pattern" ∧
        (∀ other otherFault, Template.parse other = .error otherFault →
          ((Warning.badTemplate other otherFault).message =
            (Warning.badTemplate source fault).message ↔ other = source)) ∧
        ∀ others, others[0]? = some Preset.standard.keyword → others[1]? = options[1]? →
          ofList others policy seed = (stamper, Style.zoneWarnings options[1]?)) ∧
    ((∀ position, (Template.Fault.unterminatedQuote position).message =
        "unterminated quote starting at position " ++ toString position) ∧
      (∀ letter position, (Template.Fault.unknownLetter letter position).message =
        "illegal pattern letter '" ++ toString letter ++ "' at position " ++ toString position) ∧
      ∀ width, (Template.Fault.isoOffsetWidth width).message =
        "ISO offset field 'X' accepts at most 3 letters, got " ++ toString width) ∧
    (Zone.IsUnknown options[1]? → zone = .region .gmt) ∧
    ∀ command : Command, command.options.toList = options → command.listFormats = false →
      ∀ store standardInput clock,
        (command.run store standardInput clock).warnings = warnings := by
  intro stamper warnings zone
  refine ⟨fun hepoch => ?_, fun hepoch => ?_, Template.Fault.message_eq,
    Zone.ofOption_of_isUnknown, ?_⟩
  · obtain ⟨-, style, hnone, hbuilt⟩ | ⟨hnot, -⟩ := ofList_cases options policy seed
    · have hstamper : stamper = ⟨Memo.ofStyle style policy seed⟩ := congrArg Prod.fst hbuilt
      refine ⟨?_, congrArg Prod.snd hbuilt⟩
      rw [hstamper]
      exact hnone
    · exact absurd hepoch hnot
  · obtain ⟨hnamed, -⟩ | ⟨-, source, -, -, hselection⟩ := ofList_cases options policy seed
    · exact absurd hnamed hepoch
    · have hbuilt := ofList_of_calendar options policy seed hselection
      refine ⟨source, congrArg Selection.template? hselection, fun template hparse => ?_,
        fun fault hparse => ?_⟩
      · rw [Style.templateOf_of_ok hparse, List.append_nil] at hbuilt
        have hstamper : stamper = _ := congrArg Prod.fst hbuilt
        refine ⟨congrArg (·.memo.style) hstamper, ?_, congrArg Prod.snd hbuilt⟩
        rw [hstamper, ← Template.source_of_parse hparse]
        rfl
      · rw [Style.templateOf_of_error hparse] at hbuilt
        have hstamper : stamper = _ := congrArg Prod.fst hbuilt
        refine ⟨congrArg (·.memo.style) hstamper, congrArg Prod.snd hbuilt,
          Warning.message_badTemplate source fault,
          fun _ _ => Warning.message_badTemplate_eq_iff hparse, ?_⟩
        intro others hselector hzone
        rw [ofList_standard others policy seed hselector, hzone, hstamper]
  · intro command hoptions hlist store standardInput clock
    rw [command.warnings_run hlist, hoptions]
    rfl

-- A keyword of an epoch number beside a zone that is unknown, a template that can be used, and one
-- that is at fault, in a run that prints to a file as well.
theorem ofList_warnings_faulty :
    let faulty := ["yyyy-MM-dd 'oops", " Mars/Olympus "]
    let warnings := [Warning.unknownZone "Mars/Olympus",
      .badTemplate "yyyy-MM-dd 'oops" (.unterminatedQuote 11)]
    let command : Command := ⟨faulty[0]?, faulty[1]?, 0, some "out.txt", false, false, ["0"]⟩
    (ofList ["unix_Millis", " Mars/Olympus "] .own 0).2 = [] ∧
    (ofList ["HH:mm", "utc-3:30"] .own 0).2 = [] ∧
    (ofList ["HH:mm", "utc-3:30"] .own 0).1.template? = some "HH:mm" ∧
    (ofList faulty .own 0).2 = warnings ∧
    ofList ["DEFAULT", " Mars/Olympus "] .own 0 =
      ((ofList faulty .own 0).1, [.unknownZone "Mars/Olympus"]) ∧
    (Warning.badTemplate "yyyy-MM-dd 'oops" (.unterminatedQuote 11)).message =
      "Could not use date pattern 'yyyy-MM-dd 'oops': " ++
        "unterminated quote starting at position 11; using the default pattern" ∧
    (command.run ⟨[]⟩ [] 5).warnings = warnings := by
  intro faulty warnings command
  have hshort : (Selection.ofList ["HH:mm", "utc-3:30"]).template? = some "HH:mm" := by decide
  have hshortParse : Template.parse "HH:mm" =
      .ok ⟨"HH:mm", [.field .hourFrom0To23 2, .text [':'], .field .minute 2]⟩ := by
    decide +kernel
  have hquoted : (Selection.ofList faulty).template? = some "yyyy-MM-dd 'oops" := by decide
  have hquotedParse : Template.parse "yyyy-MM-dd 'oops" = .error (.unterminatedQuote 11) := by
    decide +kernel
  have hzone : Style.zoneWarnings faulty[1]? = [.unknownZone "Mars/Olympus"] := by decide +kernel
  obtain ⟨hepoch, -⟩ := ofList_warnings ["unix_Millis", " Mars/Olympus "] .own 0
  obtain ⟨-, hcalendar, -⟩ := ofList_warnings ["HH:mm", "utc-3:30"] .own 0
  obtain ⟨source, hsource, husable, -⟩ := hcalendar (by decide)
  obtain rfl := Option.some.inj (hshort.symm.trans hsource)
  obtain ⟨-, htemplate, hnone⟩ := husable _ hshortParse
  obtain ⟨-, hfaulty, ⟨hquote, -⟩, -, hlater⟩ := ofList_warnings faulty .own 0
  obtain ⟨source, hsource, -, hfault⟩ := hfaulty (by decide)
  obtain rfl := Option.some.inj (hquoted.symm.trans hsource)
  obtain ⟨-, hwarnings, hmessage, -, hstandard⟩ := hfault _ hquotedParse
  rw [hzone] at hwarnings hstandard
  refine ⟨(hepoch (by decide)).2, ?_, htemplate, hwarnings, hstandard _ rfl rfl, ?_, ?_⟩
  · rw [hnone]
    decide +kernel
  · rw [hmessage, hquote]
    decide +kernel
  · rw [hlater command rfl rfl, hwarnings]
    rfl

end Stamper

end EventTime
