import EventTime.Proofs.Stamper.Construction

-- Options by name and options by position ask for the same, and the summary of them tells what is
-- built from them.
namespace EventTime

-- The keyword of the standard format stands for a selector that is missing.
theorem Selection.ofSelector_getD (selector zone : Option String) :
    ofSelector (some (selector.getD Preset.standard.keyword)) zone = ofSelector selector zone := by
  cases selector with
  | none =>
      have hfind : Preset.find? Preset.standard.keyword = some .standard := by decide
      have hne : Preset.standard.keyword ≠ "" := by decide
      simp only [Option.getD_none, ofSelector, if_neg hne, hfind, ofPreset, Preset.template?]
  | some text => rw [Option.getD_some]

namespace Style

theorem template?_ofSelection {selection : Selection}
    (husable : ∀ source, selection.template? = some source →
      ∃ template, Template.parse source = .ok template) :
    (ofSelection selection).1.template? = selection.template? := by
  cases selection with
  | epochSeconds => rfl
  | epochMillis => rfl
  | calendar source zone =>
      obtain ⟨template, hparse⟩ := husable source rfl
      simp only [ofSelection, templateOf_of_ok hparse, template?, Selection.template?,
        Template.source_of_parse hparse]

-- A style of an epoch number comes from nothing else.
theorem ofSelection_eq_epochSeconds_iff (selection : Selection) :
    (ofSelection selection).1 = .epochSeconds ↔ selection = .epochSeconds := by
  cases selection <;> simp [ofSelection]

theorem ofSelection_eq_epochMillis_iff (selection : Selection) :
    (ofSelection selection).1 = .epochMillis ↔ selection = .epochMillis := by
  cases selection <;> simp [ofSelection]

theorem template?_eq_none_iff (style : Style) :
    style.template? = none ↔ style = .epochSeconds ∨ style = .epochMillis := by
  cases style <;> simp [template?]

end Style

namespace Options

section Round

variable (options : Options)

theorem ofList_toList :
    ofList options.toList =
      if options.format = none ∧ options.zone ≠ none
      then { options with format := some Preset.standard.keyword } else options := by
  obtain ⟨format, zone⟩ := options
  cases format <;> cases zone <;> simp [toList, ofList]

theorem selection_toList : Selection.ofList options.toList = options.selection := by
  obtain ⟨format, zone⟩ := options
  cases zone with
  | none => cases format <;> rfl
  | some zone =>
      simp only [toList, Selection.ofList, selection, List.getElem?_cons_zero,
        List.getElem?_cons_succ]
      exact Selection.ofSelector_getD format (some zone)

theorem toList_ofList (list : List String) : (ofList list).toList = list.take 2 := by
  cases list with
  | nil => rfl
  | cons format rest => cases rest <;> simp [ofList, toList]

theorem style_ofList_toList (policy : Policy) (seed : Int) :
    (Stamper.ofList options.toList policy seed).1.memo.style =
      (Style.ofSelection options.selection).1 := by
  rw [← options.selection_toList]
  rfl

end Round

-- A summary that quotes a template begins with another letter than those of the epoch numbers.
theorem quoting_ne_epoch (source zone : String) :
    s!"pattern \"{source}\" ({zone})" ≠ "epoch seconds" ∧
      s!"pattern \"{source}\" ({zone})" ≠ "epoch milliseconds" := by
  have hletter : (s!"pattern \"{source}\" ({zone})").toList.head? = some 'p' := by
    simp only [toString, String.toList_append, List.append_assoc]
    rfl
  constructor
  · intro heq
    rw [heq] at hletter
    cases hletter
  · intro heq
    rw [heq] at hletter
    cases hletter

theorem quoting_inj (first second zone : String) :
    s!"pattern \"{first}\" ({zone})" = s!"pattern \"{second}\" ({zone})" ↔ first = second := by
  simp [toString]

section Summary

variable (options : Options)

theorem summary_eq_epochSeconds_iff :
    options.summary = "epoch seconds" ↔ options.selection = .epochSeconds := by
  unfold summary
  cases options.selection with
  | calendar source zone => simp [(quoting_ne_epoch source (options.zone.getD "local")).1]
  | epochSeconds => simp
  | epochMillis => simp

theorem summary_eq_epochMillis_iff :
    options.summary = "epoch milliseconds" ↔ options.selection = .epochMillis := by
  unfold summary
  cases options.selection with
  | calendar source zone => simp [(quoting_ne_epoch source (options.zone.getD "local")).2]
  | epochSeconds => simp
  | epochMillis => simp

theorem summary_eq_quoting_iff (source : String) :
    let zone := options.zone.getD "local"
    options.summary = s!"pattern \"{source}\" ({zone})" ↔
      options.selection.template? = some source := by
  have hepoch := quoting_ne_epoch source (options.zone.getD "local")
  unfold summary
  cases options.selection with
  | calendar other zone =>
      rw [Selection.template?, Option.some.injEq]
      exact quoting_inj other source _
  | epochSeconds => simp [Selection.template?, hepoch.1.symm]
  | epochMillis => simp [Selection.template?, hepoch.2.symm]

end Summary

end Options

-- The first line that a run prints sums up the options that its stamper is built from.
theorem Command.style_stamper_and_settings (command : Command) (clock : Int) :
    (command.stamper clock).1.memo.style = (Style.ofSelection command.options.selection).1 ∧
      (settings command.options command.workers).head? =
        some s!"Format: {command.options.summary}" := by
  refine ⟨command.options.style_ofList_toList .own clock, ?_⟩
  unfold settings
  split <;> rfl

namespace Options

-- Options put in their positions ask for what they ask for by name, and come back as they were,
-- except that a format missing before a zone is given by the keyword of the standard one. Of a list
-- of options the first two come back.
-- A stamper of the options has the template that the summary of them quotes, where that is one, and
-- it writes an epoch number if and only if the summary names that epoch number.
theorem toList_faithful (options : Options) (policy : Policy) (seed : Int) :
    let stamper := (Stamper.ofList options.toList policy seed).1
    let zone := options.zone.getD "local"
    Selection.ofList options.toList = options.selection ∧
    (ofList options.toList = if options.format = none ∧ options.zone ≠ none
      then { options with format := some "DEFAULT" } else options) ∧
    (ofList options.toList).selection = options.selection ∧
    (∀ list, (ofList list).selection = Selection.ofList list ∧
      (ofList list).toList = list.take 2) ∧
    ((∀ source, options.selection.template? = some source →
        ∃ template, Template.parse source = .ok template) →
      ∀ source, stamper.template? = some source ↔
        options.summary = s!"pattern \"{source}\" ({zone})") ∧
    (stamper.memo.style = .epochSeconds ↔ options.summary = "epoch seconds") ∧
    (stamper.memo.style = .epochMillis ↔ options.summary = "epoch milliseconds") ∧
    (stamper.template? = none ↔
      options.summary = "epoch seconds" ∨ options.summary = "epoch milliseconds") ∧
    ∀ (command : Command) (clock : Int), command.options = options →
      (command.stamper clock).1.memo.style = stamper.memo.style ∧
        (Command.settings options command.workers).head? = some s!"Format: {options.summary}" := by
  intro stamper zone
  have hstyle : stamper.memo.style = (Style.ofSelection options.selection).1 :=
    options.style_ofList_toList policy seed
  have hseconds : stamper.memo.style = .epochSeconds ↔ options.summary = "epoch seconds" := by
    rw [hstyle, Style.ofSelection_eq_epochSeconds_iff, summary_eq_epochSeconds_iff]
  have hmillis : stamper.memo.style = .epochMillis ↔ options.summary = "epoch milliseconds" := by
    rw [hstyle, Style.ofSelection_eq_epochMillis_iff, summary_eq_epochMillis_iff]
  refine ⟨options.selection_toList, options.ofList_toList, options.selection_toList,
    fun list => ⟨rfl, toList_ofList list⟩, ?_, hseconds, hmillis, ?_, ?_⟩
  · intro husable source
    rw [Stamper.template?, hstyle, Style.template?_ofSelection husable]
    exact (options.summary_eq_quoting_iff source).symm
  · rw [Stamper.template?, Style.template?_eq_none_iff, hseconds, hmillis]
  · rintro command clock rfl
    rw [hstyle]
    exact command.style_stamper_and_settings clock

-- A zone without a format, a template with a quotation mark in it beside an empty zone, and an
-- epoch number in an unknown zone.
theorem toList_faithful_zone_alone :
    let zoned : Options := ⟨none, some "Europe/Berlin"⟩
    let marked : Options := ⟨some "HH'h \"'mm", some ""⟩
    zoned.toList = ["DEFAULT", "Europe/Berlin"] ∧
    Selection.ofList zoned.toList = zoned.selection ∧
    ofList zoned.toList = ⟨some "DEFAULT", some "Europe/Berlin"⟩ ∧
    (Stamper.ofList zoned.toList .own 0).1.template? = some "yyyy-MM-dd HH:mm:ss,SSS" ∧
    (Stamper.ofList marked.toList .installed 5).1.template? = some "HH'h \"'mm" ∧
    (Stamper.ofList ["unix", "Mars"] .own 0).1.template? = none := by
  intro zoned marked
  have hzoned : zoned.selection.template? = some "yyyy-MM-dd HH:mm:ss,SSS" := by decide
  have hmarked : marked.selection.template? = some "HH'h \"'mm" := by decide
  have hread : ∃ template, Template.parse "HH'h \"'mm" = .ok template :=
    ⟨⟨"HH'h \"'mm", [.field .hourFrom0To23 2, .text ['h', ' ', '"'], .field .minute 2]⟩, by
      decide +kernel⟩
  obtain ⟨hselection, hplaced, -, -, hquoted, -⟩ := toList_faithful zoned .own 0
  obtain ⟨-, -, -, -, hquotedMarked, -⟩ := toList_faithful marked .installed 5
  obtain ⟨-, -, -, -, -, -, -, hnone, -⟩ := toList_faithful ⟨some "unix", some "Mars"⟩ .own 0
  refine ⟨rfl, hselection, ?_, ?_, ?_, ?_⟩
  · rw [hplaced]
    rfl
  · apply (hquoted ?_ _).mpr
    · exact (zoned.summary_eq_quoting_iff _).mpr hzoned
    · intro source hsource
      obtain rfl := Option.some.inj (hzoned.symm.trans hsource)
      exact ⟨_, Template.parse_standard⟩
  · apply (hquotedMarked ?_ _).mpr
    · exact (marked.summary_eq_quoting_iff _).mpr hmarked
    · intro source hsource
      obtain rfl := Option.some.inj (hmarked.symm.trans hsource)
      exact hread
  · exact hnone.mpr (.inl ((summary_eq_epochSeconds_iff _).mpr (by decide)))

end Options

end EventTime
