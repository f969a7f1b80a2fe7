import EventTime.Proofs.Stamper.Construction

-- A stamper with a template tells by itself the options that build it again.
namespace EventTime

namespace Zone

theorem ofOption_none : ofOption none = (.host, none) := by
  rw [ofOption, if_pos (by decide)]

end Zone

namespace Style

-- What a source comes to is read again from its own source, also where the standard template
-- stands in.
theorem parse_templateOf (source : String) :
    Template.parse (templateOf source).1.source = .ok (templateOf source).1 := by
  cases hparse : Template.parse source with
  | ok template =>
      rw [templateOf_of_ok hparse]
      simp only [Template.source_of_parse hparse, hparse]
  | error fault =>
      rw [templateOf_of_error hparse]
      exact Template.parse_standard

-- No style has a source that would be taken for a keyword or for a missing selector.
theorem find?_templateOf (source : String) (hne : source ≠ "")
    (hfind : Preset.find? source = none) :
    (templateOf source).1.source ≠ "" ∧ Preset.find? (templateOf source).1.source = none := by
  cases hparse : Template.parse source with
  | ok template =>
      rw [templateOf_of_ok hparse]
      simp only [Template.source_of_parse hparse]
      exact ⟨hne, hfind⟩
  | error fault =>
      rw [templateOf_of_error hparse]
      exact Preset.standard.find?_template Template.standard.source rfl

theorem zoneWarnings_of_ofOption {option : Option String} {zone : Zone}
    (hoption : Zone.ofOption option = (zone, none)) : zoneWarnings option = [] := by
  have hzone := zoneOf_eq option
  rw [zoneOf, hoption] at hzone
  exact (congrArg Prod.snd hzone).symm

end Style

namespace Stamper

theorem of_style_eq_calendar {options : List String} {policy : Policy} {seed : Int}
    {template : Template} {zone : Zone}
    (hstyle : (ofList options policy seed).1.memo.style = .calendar template zone) :
    (Zone.ofOption options[1]?).1 = zone ∧ template.source ≠ "" ∧
      Preset.find? template.source = none ∧ Template.parse template.source = .ok template := by
  rcases ofList_cases options policy seed with
    ⟨-, style, hnone, hbuilt⟩ | ⟨-, source, hne, hfind, hselection⟩
  · rw [hbuilt] at hstyle
    obtain rfl : style = .calendar template zone := hstyle
    cases hnone
  · rw [ofList_of_calendar options policy seed hselection] at hstyle
    cases hstyle
    have hself := Style.find?_templateOf source hne hfind
    exact ⟨rfl, hself.1, hself.2, Style.parse_templateOf source⟩

theorem ofList_of_parse {template : Template} {zone : Zone} {options : List String}
    (option : Option String) (hne : template.source ≠ "")
    (hfind : Preset.find? template.source = none)
    (hparse : Template.parse template.source = .ok template)
    (hselector : options[0]? = some template.source) (hoption : options[1]? = option)
    (hzone : Zone.ofOption option = (zone, none)) (policy : Policy) (seed : Int) :
    ofList options policy seed = (⟨Memo.ofStyle (.calendar template zone) policy seed⟩, []) := by
  have hselection : Selection.ofList options = .calendar template.source option := by
    rw [Selection.ofList, hselector, hoption]
    exact Selection.ofSelector_of_find?_eq_none _ hne hfind
  rw [ofList_of_calendar options policy seed hselection, Style.templateOf_of_ok hparse,
    Style.zoneWarnings_of_ofOption hzone, hzone, List.append_nil]

-- The source and the label of the zone, as options, build a stamper of the same style again, and
-- nothing is warned about. The label of the host's zone names no zone, but none has to be named.
-- So the source and the zone tell styles with a template apart.
theorem ofList_self_description (options : List String) (policy : Policy) (seed : Int)
    (template : Template) (zone : Zone)
    (hstyle : (ofList options policy seed).1.memo.style = .calendar template zone) :
    (ofList options policy seed).1.template? = some template.source ∧
    Template.parse template.source = .ok template ∧
    (zone = .host → ∀ other count, ofList [template.source] other count =
      (⟨Memo.ofStyle (.calendar template zone) other count⟩, [])) ∧
    (zone ≠ .host → ∀ other count, ofList [template.source, String.ofList zone.label] other count =
      (⟨Memo.ofStyle (.calendar template zone) other count⟩, [])) ∧
    (∀ option, (Zone.ofOption option).1 ≠ .host →
      Zone.ofOption (some (String.ofList (Zone.ofOption option).1.label)) =
        ((Zone.ofOption option).1, none)) ∧
    (template.source ≠ "" ∧ Preset.find? template.source = none ∧
      ∀ option, Selection.ofSelector (some template.source) option =
        .calendar template.source option) ∧
    ∀ others other count otherTemplate otherZone,
      (ofList others other count).1.memo.style = .calendar otherTemplate otherZone →
      (Style.calendar template zone = .calendar otherTemplate otherZone ↔
        template.source = otherTemplate.source ∧ zone = otherZone) := by
  obtain ⟨hzone, hne, hfind, hparse⟩ := of_style_eq_calendar hstyle
  refine ⟨?_, hparse, ?_, ?_, Zone.ofOption_label, ⟨hne, hfind, ?_⟩, ?_⟩
  · rw [template?, hstyle]
    rfl
  · intro hhost other count
    rw [hhost]
    exact ofList_of_parse none hne hfind hparse rfl rfl Zone.ofOption_none other count
  · intro hlabeled other count
    have hlabel := Zone.ofOption_label options[1]? (by rw [hzone]; exact hlabeled)
    rw [hzone] at hlabel
    exact ofList_of_parse (some _) hne hfind hparse rfl rfl hlabel other count
  · intro option
    exact Selection.ofSelector_of_find?_eq_none option hne hfind
  · intro others other count otherTemplate otherZone hother
    constructor
    · intro hsame
      cases hsame
      exact ⟨rfl, rfl⟩
    · rintro ⟨hsource, rfl⟩
      have hagain := (of_style_eq_calendar hother).2.2.2
      rw [← hsource, hparse] at hagain
      cases hagain
      rfl

-- The standard template in place of one at fault, in the zone of an offset, and a template in the
-- zone of the host.
theorem ofList_self_description_fallback :
    let zone := Zone.fixed (.ofSeconds (-19800))
    let clock : Template := ⟨"HH:mm", [.field .hourFrom0To23 2, .text [':'], .field .minute 2]⟩
    (ofList ["yyyy-MM-dd 'oops", " utc-530 "] .own 0).1.memo.style =
      .calendar Template.standard zone ∧
    ofList ["yyyy-MM-dd HH:mm:ss,SSS", "GMT-05:30"] .installed 7 =
      (⟨Memo.ofStyle (.calendar Template.standard zone) .installed 7⟩, []) ∧
    Zone.ofOption (some "GMT+00:00") = (.fixed (.ofSeconds 0), none) ∧
    (ofList ["HH:mm", " ", "UTC"] .own 0).1.memo.style = .calendar clock .host ∧
    ofList ["HH:mm"] .own 0 = (⟨Memo.ofStyle (.calendar clock .host) .own 0⟩, []) ∧
    Style.calendar Template.standard zone ≠ .calendar clock .host := by
  intro zone clock
  have hrejected : (ofList ["yyyy-MM-dd 'oops", " utc-530 "] .own 0).1.memo.style =
      .calendar Template.standard zone := by decide +kernel
  have hblank : (ofList ["HH:mm", " ", "UTC"] .own 0).1.memo.style = .calendar clock .host := by
    decide +kernel
  obtain ⟨-, -, -, hlabeled, hzones, -, hequal⟩ :=
    ofList_self_description ["yyyy-MM-dd 'oops", " utc-530 "] .own 0 _ _ hrejected
  obtain ⟨-, -, hhost, -⟩ := ofList_self_description ["HH:mm", " ", "UTC"] .own 0 _ _ hblank
  refine ⟨hrejected, hlabeled (by decide) .installed 7, hzones (some "-0") ?_, hblank,
    hhost rfl .own 0, ?_⟩
  · decide +kernel
  · rw [Ne, hequal _ .own 0 clock .host hblank]
    decide

end Stamper

end EventTime
