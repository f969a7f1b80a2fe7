import EventTime.Proofs.Text.Trimming
import EventTime.Proofs.Zone.OffsetText
import EventTime.Zone.Reader

-- What zone options come to, and how the label of a zone leads back to it.
namespace EventTime

namespace Region

theorem id_eq_of_find? {id : String} {place : Region} (hfind : find? id = some place) :
    place.id = id := by
  simpa using List.find?_some hfind

-- No id looks like the label of an offset.
theorem find?_eq_none_of_colon (id : String) (hcolon : ':' ∈ id.toList) : find? id = none := by
  have hnone : ∀ place ∈ database, ':' ∉ place.id.toList := by decide
  rw [find?, List.find?_eq_none]
  intro place hplace heq
  obtain rfl : place.id = id := by simpa using heq
  exact hnone place hplace hcolon

end Region

namespace Offset

theorem ofHours?_whole {isWest : Bool} {hours minutes : Nat} {offset : Offset}
    (hsome : ofHours? isWest hours minutes = some offset) : offset.seconds % 60 = 0 := by
  unfold ofHours? at hsome
  split at hsome
  · cases isWest with
    | false =>
        cases hsome
        simp only
        omega
    | true =>
        cases hsome
        simp only
        omega
  · cases hsome

theorem ofDigits?_whole {isWest : Bool} {digits : List Char} {offset : Offset}
    (hsome : ofDigits? isWest digits = some offset) : offset.seconds % 60 = 0 := by
  unfold ofDigits? at hsome
  dsimp only at hsome
  split at hsome
  · exact ofHours?_whole hsome
  · cases hsome

-- The offsets that can be asked for have whole minutes.
theorem ofText?_whole {text : List Char} {offset : Offset} (hsome : ofText? text = some offset) :
    offset.seconds % 60 = 0 := by
  unfold ofText? at hsome
  split at hsome
  · exact ofDigits?_whole hsome
  · exact ofDigits?_whole hsome
  · cases hsome

theorem ofHours?_minutes (offset : Offset) (hwhole : offset.seconds % 60 = 0) :
    ofHours? (offset.seconds < 0) (offset.minutes / 60) (offset.minutes % 60) = some offset := by
  have hday := offset.lt_day
  have hbounds : offset.minutes / 60 ≤ 23 ∧ offset.minutes % 60 ≤ 59 := by
    unfold minutes
    omega
  have hdistance : (3600 * (offset.minutes / 60 : Nat) + 60 * (offset.minutes % 60 : Nat) : Int) =
      offset.seconds.natAbs := by
    unfold minutes
    omega
  obtain ⟨seconds, hlt⟩ := offset
  simp only at hdistance ⊢
  rw [ofHours?, dif_pos hbounds]
  simp only [hdistance]
  by_cases hwest : seconds < 0
  · rw [if_pos (by simp [hwest])]
    simp only [Option.some.injEq, Offset.mk.injEq]
    omega
  · rw [if_neg (by simp [hwest])]
    simp only [Option.some.injEq, Offset.mk.injEq]
    omega

theorem divide_colon (hours minutes : List Char) (hhours : ':' ∉ hours) :
    divide (hours ++ ':' :: minutes) = (hours, minutes) := by
  have hbefore : ∀ c ∈ hours, decide (c ≠ ':') = true := by
    intro c hc
    have hne : c ≠ ':' := by
      rintro rfl
      exact hhours hc
    simpa using hne
  rw [divide, if_pos (by simp), List.takeWhile_append_of_pos hbefore,
    List.dropWhile_append_of_pos hbefore, List.takeWhile_cons_of_neg (by simp),
    List.dropWhile_cons_of_neg (by simp), List.append_nil, List.drop_one, List.tail_cons]

theorem ofDigits?_extended (offset : Offset) (hwhole : offset.seconds % 60 = 0) :
    ofDigits? (offset.seconds < 0)
      (Decimal.padded 2 (offset.minutes / 60 : Nat) ++ ':' :: offset.minuteText) =
        some offset := by
  have hcolon : ':' ∉ Decimal.padded 2 (offset.minutes / 60 : Nat) := by
    intro hmem
    exact absurd (Decimal.isDigit_of_mem_padded 2 _ ':' hmem) (by decide)
  simp only [ofDigits?, divide_colon _ offset.minuteText hcolon]
  simp only [minuteText, Decimal.natural?_padded, ofHours?_minutes offset hwhole]

theorem ofText?_gmt_extendedText (offset : Offset) (hwhole : offset.seconds % 60 = 0) :
    ofText? ('G' :: 'M' :: 'T' :: offset.extendedText) = some offset := by
  have hread := offset.ofDigits?_extended hwhole
  have hmark : dropMark ('G' :: 'M' :: 'T' :: offset.extendedText) = offset.extendedText := by
    rw [dropMark, if_pos (by decide)]
  rw [ofText?, hmark, extendedText, hourText, sign, List.cons_append]
  by_cases hwest : offset.seconds < 0
  · rw [decide_eq_true hwest] at hread
    rw [if_pos hwest]
    exact hread
  · rw [decide_eq_false hwest] at hread
    rw [if_neg hwest]
    exact hread

end Offset

namespace Zone

-- The id that a zone option gives.
def optionId (option : Option String) : List Char := Text.trim (option.getD "").toList

-- The four ways that a zone option can go.
theorem ofOption_cases (option : Option String) :
    (optionId option = [] ∧ ofOption option = (.host, none)) ∨
    (∃ place, optionId option ≠ [] ∧
      Region.find? (String.ofList (optionId option)) = some place ∧
      ofOption option = (.region place, none)) ∨
    (∃ offset, optionId option ≠ [] ∧
      Region.find? (String.ofList (optionId option)) = none ∧
      Offset.ofText? (optionId option) = some offset ∧
      ofOption option = (.fixed offset, none)) ∨
    (optionId option ≠ [] ∧ Region.find? (String.ofList (optionId option)) = none ∧
      Offset.ofText? (optionId option) = none ∧
      ofOption option = (.region .gmt, some (String.ofList (optionId option)))) := by
  unfold ofOption optionId
  generalize Text.trim (option.getD "").toList = id
  by_cases hblank : id = []
  · exact .inl ⟨hblank, if_pos hblank⟩
  · simp only [if_neg hblank, ofId?]
    cases hfind : Region.find? (String.ofList id) with
    | some place => exact .inr (.inl ⟨place, hblank, rfl, rfl⟩)
    | none =>
        cases hoffset : Offset.ofText? id with
        | some offset => exact .inr (.inr (.inl ⟨offset, hblank, rfl, rfl, rfl⟩))
        | none => exact .inr (.inr (.inr ⟨hblank, rfl, rfl, rfl⟩))

theorem whole_of_ofOption {option : Option String} {offset : Offset}
    (hfixed : (ofOption option).1 = .fixed offset) : offset.seconds % 60 = 0 := by
  rcases ofOption_cases option with ⟨-, hoption⟩ | ⟨place, -, -, hoption⟩ |
    ⟨other, -, -, htext, hoption⟩ | ⟨-, -, -, hoption⟩
  · rw [hoption] at hfixed
    cases hfixed
  · rw [hoption] at hfixed
    cases hfixed
  · rw [hoption] at hfixed
    cases hfixed
    exact Offset.ofText?_whole htext
  · rw [hoption] at hfixed
    cases hfixed

theorem ofOption_of_ofId? {id : List Char} {zone : Zone} (htrim : Text.trim id = id)
    (hne : id ≠ []) (hid : ofId? id = some zone) :
    ofOption (some (String.ofList id)) = (zone, none) := by
  simp only [ofOption, Option.getD_some, String.toList_ofList, htrim, if_neg hne, hid]

theorem ofId?_of_find? {id : List Char} {place : Region}
    (hfind : Region.find? (String.ofList id) = some place) :
    ofId? id = some (.region place) := by
  simp only [ofId?, hfind]

section Label

variable (offset : Offset) (hwhole : offset.seconds % 60 = 0)
include hwhole

theorem label_fixed :
    (Zone.fixed offset).label = 'G' :: 'M' :: 'T' :: offset.extendedText := by
  rw [label, offset.fullText_of_whole hwhole]

theorem trim_label_fixed : Text.trim (Zone.fixed offset).label = (Zone.fixed offset).label := by
  rw [label_fixed offset hwhole]
  refine Text.trim_eq_self _ ?_ ?_
  · intro c hc
    cases hc
    decide
  · -- the last digit of the minutes ends the label
    obtain ⟨last, hlast, hdigit⟩ := offset.exists_getLast?_extendedText
    intro c hc
    change c ∈ (['G', 'M', 'T'] ++ offset.extendedText).getLast? at hc
    rw [List.getLast?_append, hlast] at hc
    cases hc
    exact Text.isBlank_of_isDigit last hdigit

theorem ofId?_label_fixed : ofId? (Zone.fixed offset).label = some (.fixed offset) := by
  have hlabel := label_fixed offset hwhole
  have hcolon : ':' ∈ (String.ofList (Zone.fixed offset).label).toList := by
    rw [String.toList_ofList, hlabel, Offset.extendedText]
    simp
  have htext : Offset.ofText? (Zone.fixed offset).label = some offset := by
    rw [hlabel]
    exact offset.ofText?_gmt_extendedText hwhole
  simp only [ofId?, Region.find?_eq_none_of_colon _ hcolon, htext, Option.map_some]

end Label

-- The label of every zone but the host's names that zone, whatever option it was asked for by.
theorem ofOption_label (option : Option String) (hzone : (ofOption option).1 ≠ .host) :
    ofOption (some (String.ofList (ofOption option).1.label)) = ((ofOption option).1, none) := by
  rcases ofOption_cases option with ⟨-, hoption⟩ | ⟨place, hne, hfind, hoption⟩ |
    ⟨offset, -, -, htext, hoption⟩ | ⟨-, -, -, hoption⟩
  · rw [hoption] at hzone
    exact absurd rfl hzone
  · have hid : (Zone.region place).label = optionId option := by
      rw [label, Region.id_eq_of_find? hfind, String.toList_ofList]
    rw [hoption]
    simp only
    rw [hid]
    exact ofOption_of_ofId? (Text.trim_trim _) hne (ofId?_of_find? hfind)
  · have hwhole := Offset.ofText?_whole htext
    rw [hoption]
    exact ofOption_of_ofId? (trim_label_fixed offset hwhole) (List.cons_ne_nil _ _)
      (ofId?_label_fixed offset hwhole)
  · have hgmt : ofId? Region.gmt.id.toList = some (.region .gmt) :=
      ofId?_of_find? Region.find?_gmt
    have htrim : Text.trim Region.gmt.id.toList = Region.gmt.id.toList := by decide
    rw [hoption]
    exact ofOption_of_ofId? htrim (List.cons_ne_nil _ _) hgmt

end Zone

end EventTime
