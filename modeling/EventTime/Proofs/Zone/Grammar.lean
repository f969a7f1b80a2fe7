import EventTime.Proofs.Zone.OffsetBytes
import EventTime.Style
import Mathlib.Data.List.Nodup

-- What the texts of zone options stand for: the host, a place, an offset, or nothing that is known.
namespace EventTime

namespace Region

theorem nodup_ids : (database.map Region.id).Nodup := by decide +kernel

-- No two places of the database share an id, so that it does not matter where the search starts.
theorem find?_eq_some_iff (id : String) (place : Region) :
    find? id = some place ↔ place ∈ database ∧ place.id = id := by
  constructor
  · intro hfind
    exact ⟨List.mem_of_find?_eq_some hfind, id_eq_of_find? hfind⟩
  · rintro ⟨hplace, rfl⟩
    cases hfind : find? place.id with
    | none =>
        have hnone := List.find?_eq_none.mp hfind place hplace
        exact absurd (decide_eq_true rfl) hnone
    | some other =>
        have hother := List.mem_of_find?_eq_some hfind
        rw [List.inj_on_of_nodup_map nodup_ids hother hplace (id_eq_of_find? hfind)]

theorem find?_eq_none_iff (id : String) :
    find? id = none ↔ ∀ place ∈ database, place.id ≠ id := by
  simp [find?]

theorem id_ne_nil : ∀ place ∈ database, place.id.toList ≠ [] := by decide +kernel

end Region

namespace Zone

-- The zone that an option asks for, and the warnings that come with it.
-- Blanks around a text do not matter, and an id of the database comes before an offset.
inductive Asked : Option String → Zone → List Warning → Prop where
  | host (option : Option String)
      (hblank : ∀ text ∈ option, ∀ c ∈ text.toList, Text.isBlank c = true) : Asked option .host []
  | place (text : String) (place : Region) (hplace : place ∈ Region.database)
      (htrims : Text.Trims text.toList place.id.toList) : Asked (some text) (.region place) []
  | offset (text : String) (id : List Char) (offset : Offset) (htrims : Text.Trims text.toList id)
      (hunlisted : ∀ place ∈ Region.database, place.id.toList ≠ id)
      (hwritten : Offset.Written id offset) : Asked (some text) (.fixed offset) []
  | unknown (text : String) (id : List Char) (htrims : Text.Trims text.toList id) (hne : id ≠ [])
      (hunlisted : ∀ place ∈ Region.database, place.id.toList ≠ id)
      (hunwritten : ∀ offset, ¬ Offset.Written id offset) :
      Asked (some text) (.region .gmt) [.unknownZone (String.ofList id)]

theorem optionId_eq_nil_iff (option : Option String) :
    optionId option = [] ↔ ∀ text ∈ option, ∀ c ∈ text.toList, Text.isBlank c = true := by
  rw [optionId, Text.trim_eq_nil_iff]
  cases option with
  | none => simp
  | some text => simp

-- Only an option with a text has an id.
theorem exists_trims_of_optionId_ne_nil {option : Option String} (hne : optionId option ≠ []) :
    ∃ text, option = some text ∧ Text.Trims text.toList (optionId option) := by
  cases option with
  | none => exact absurd rfl hne
  | some text => exact ⟨text, rfl, (Text.trims_iff _ _).mpr rfl⟩

theorem unlisted_iff (id : List Char) :
    Region.find? (String.ofList id) = none ↔ ∀ place ∈ Region.database, place.id.toList ≠ id := by
  simp only [Region.find?_eq_none_iff, ne_eq, ← String.toList_inj, String.toList_ofList]

end Zone

namespace Style

open Zone

theorem asked_zoneOf (option : Option String) :
    Asked option (zoneOf option).1 (zoneOf option).2 := by
  rcases ofOption_cases option with ⟨hblank, hoption⟩ | ⟨place, hne, hfind, hoption⟩ |
    ⟨offset, hne, hfind, htext, hoption⟩ | ⟨hne, hfind, htext, hoption⟩
  · simp only [zoneOf, hoption]
    exact .host option ((optionId_eq_nil_iff option).mp hblank)
  · obtain ⟨text, rfl, htrims⟩ := exists_trims_of_optionId_ne_nil hne
    obtain ⟨hplace, hid⟩ := (Region.find?_eq_some_iff _ place).mp hfind
    simp only [zoneOf, hoption]
    refine .place text place hplace ?_
    rwa [hid, String.toList_ofList]
  · obtain ⟨text, rfl, htrims⟩ := exists_trims_of_optionId_ne_nil hne
    simp only [zoneOf, hoption]
    exact .offset text _ offset htrims ((unlisted_iff _).mp hfind)
      ((Offset.ofText?_eq_some_iff _ offset).mp htext)
  · obtain ⟨text, rfl, htrims⟩ := exists_trims_of_optionId_ne_nil hne
    simp only [zoneOf, hoption]
    refine .unknown text _ htrims hne ((unlisted_iff _).mp hfind) ?_
    intro offset hwritten
    rw [(Offset.ofText?_eq_some_iff _ offset).mpr hwritten] at htext
    cases htext

theorem zoneOf_of_asked {option : Option String} {zone : Zone} {warnings : List Warning}
    (hasked : Asked option zone warnings) : zoneOf option = (zone, warnings) := by
  cases hasked with
  | host _ hblank =>
      have hnil := (optionId_eq_nil_iff option).mpr hblank
      rw [optionId] at hnil
      simp only [zoneOf, ofOption, if_pos hnil]
  | place text place hplace htrims =>
      have hne := Region.id_ne_nil place hplace
      have hfind := (Region.find?_eq_some_iff place.id place).mpr ⟨hplace, rfl⟩
      simp only [zoneOf, ofOption, Option.getD_some, htrims.trim_eq, if_neg hne, ofId?,
        String.ofList_toList, hfind]
  | offset text id offset htrims hunlisted hwritten =>
      have hne : id ≠ [] := by cases hwritten <;> simp
      have hfind := (unlisted_iff id).mpr hunlisted
      have htext := (Offset.ofText?_eq_some_iff id offset).mpr hwritten
      simp only [zoneOf, ofOption, Option.getD_some, htrims.trim_eq, if_neg hne, ofId?, hfind,
        htext, Option.map_some]
  | unknown text id htrims hne hunlisted hunwritten =>
      have hfind := (unlisted_iff id).mpr hunlisted
      have htext : Offset.ofText? id = none := by
        cases hsome : Offset.ofText? id with
        | none => rfl
        | some offset =>
            exact absurd ((Offset.ofText?_eq_some_iff id offset).mp hsome) (hunwritten offset)
      simp only [zoneOf, ofOption, Option.getD_some, htrims.trim_eq, if_neg hne, ofId?, hfind,
        htext, Option.map_none]

-- A zone option comes to the one zone that it asks for by the rules, with the warnings that the
-- rules give, and the one warning there can be quotes the id.
-- The offsets that can be asked for are less than a day. No text leads the reading of offsets into
-- the middle of a character or out of the range of its numbers.
theorem zoneOf_grammar (option : Option String) (zone : Zone) (warnings : List Warning) :
    (zoneOf option = (zone, warnings) ↔ Asked option zone warnings) ∧
    (∀ id, (Warning.unknownZone id).message = "Unknown time zone '" ++ id ++ "', using GMT") ∧
    (∀ text offset, Offset.Written text offset → offset.seconds.natAbs ≤ 86340) ∧
    ∀ text, Offset.scan text = .ok (Offset.ofText? text) := by
  refine ⟨⟨?_, zoneOf_of_asked⟩, ?_, ?_, Offset.scan_eq⟩
  · intro hzone
    have hasked := asked_zoneOf option
    rwa [hzone] at hasked
  · intro id
    rfl
  · intro text offset hwritten
    exact hwritten.natAbs_le

-- Small letters and zeros before the hours, a day of 24 hours, and a character that three bytes do
-- not reach to the end of.
theorem zoneOf_grammar_bounds :
    zoneOf (some " utc-0005:030\t") = (.fixed (.ofSeconds (-19800)), []) ∧
    zoneOf (some "GMT+2400") = (.region .gmt, [.unknownZone "GMT+2400"]) ∧
    Text.cut? 3 ['G', 'M', '€', '+', '1'] = none ∧
    Offset.scan ['G', 'M', '€', '+', '1'] = .ok none := by
  have hwritten : Offset.Written "utc-0005:030".toList (.ofSeconds (-19800)) :=
    .west ['u', 't', 'c'] ['0', '0', '0', '5', ':', '0', '3', '0'] 5 30 _
      (.utc 'u' 't' 'c' (.inr rfl) (.inr rfl) (.inr rfl))
      (.divided ['0', '0', '0', '5'] ['0', '3', '0'] 5 30 rfl rfl) (by decide) (by decide) rfl
  have hasked : Asked (some " utc-0005:030\t") (.fixed (.ofSeconds (-19800))) [] :=
    .offset _ "utc-0005:030".toList _ ((Text.trims_iff _ _).mpr (by decide)) (by decide +kernel)
      hwritten
  have hunwritten : ∀ offset, ¬ Offset.Written "GMT+2400".toList offset := by
    intro offset hoffset
    have hsome := (Offset.ofText?_eq_some_iff _ offset).mpr hoffset
    have hnone : Offset.ofText? "GMT+2400".toList = none := by decide
    rw [hnone] at hsome
    cases hsome
  have hunknown : Asked (some "GMT+2400") (.region .gmt) [.unknownZone "GMT+2400"] :=
    .unknown _ "GMT+2400".toList ((Text.trims_iff _ _).mpr (by decide)) (by decide)
      (by decide +kernel) hunwritten
  obtain ⟨hfirst, -, -, -⟩ :=
    zoneOf_grammar (some " utc-0005:030\t") (.fixed (.ofSeconds (-19800))) []
  obtain ⟨hsecond, -, -, hscan⟩ :=
    zoneOf_grammar (some "GMT+2400") (.region .gmt) [.unknownZone "GMT+2400"]
  refine ⟨hfirst.mpr hasked, hsecond.mpr hunknown, by decide, ?_⟩
  rw [hscan]
  decide

end Style

end EventTime
