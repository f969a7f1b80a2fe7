import EventTime.Proofs.Calendar.Order
import EventTime.Proofs.Layout.Lossless
import EventTime.Proofs.Text.Order

-- The presets that show a whole date and time put later instants behind earlier ones,
-- as texts are compared character by character.
namespace EventTime

open Calendar

namespace Slot

variable {slots : List Slot} {numbers others : List Nat}

-- The first numbers that differ decide, as every slot keeps its length.
theorem writeAll_lt_writeAll (hnumbers : List.Forall₂ Fits slots numbers)
    (hothers : List.Forall₂ Fits slots others) (hlt : numbers < others) :
    writeAll slots numbers < writeAll slots others := by
  induction hnumbers generalizing others with
  | nil =>
      cases hothers
      cases hlt
  | @cons slot number slots numbers hfit hfits ih =>
      cases hothers with
      | @cons _ other _ others hother hrest =>
          simp only [writeAll, List.zipWith_cons_cons, List.flatten_cons]
          rcases List.cons_lt_cons_iff.mp hlt with hless | ⟨rfl, htail⟩
          · refine List.append_lt_append ?_ ?_ _ _
            · exact List.append_left_lt (Decimal.padded_lt_padded slot.width hfit.1 hless hother.2)
            · rw [slot.length_write number hfit, slot.length_write other hother]
          · exact List.append_left_lt (ih hrest htail)

end Slot

namespace Layout

-- In one year, the later time has the first greater number.
theorem numbers_lt_numbers {first second : DateTime} (hyear : first.date.year = second.date.year)
    (hlt : first.millis < second.millis) : numbers first < numbers second := by
  have hdate := DateTime.toDay_le_of_millis_lt hlt
  have hmonth := Date.month_le_of_toDay_le hyear hdate
  simp only [numbers, List.cons_lt_cons_iff, List.lt_irrefl, and_false, or_false]
  rcases Nat.lt_or_eq_of_le hmonth with hless | hsame
  · exact .inl hless
  · refine .inr ⟨hsame, ?_⟩
    have hdays := Date.day_sub_day hyear hsame
    rcases Nat.lt_or_ge first.date.day second.date.day with hday | hday
    · exact .inl hday
    · -- on one day, the time of day decides
      have hsameDay : first.date.toDay = second.date.toDay := by omega
      refine .inr ⟨by omega, Clock.cases_of_toMillis_lt ?_⟩
      simp only [DateTime.millis, Date.count_eq_toDay, hsameDay] at hlt
      omega

-- A later time in the years of four digits is a later text, and as long.
theorem write_lt_write (layout : Layout) {first second : DateTime}
    (hlt : first.millis < second.millis) (hfirst : 0 ≤ first.date.year)
    (hsecond : second.date.year ≤ 9999) :
    layout.write first < layout.write second ∧
      (layout.write first).length = (layout.write second).length := by
  have hyear := Date.year_le_of_toDay_le (DateTime.toDay_le_of_millis_lt hlt)
  have hfits := layout.numbers_fit first
  have hotherFits := layout.numbers_fit second
  obtain ⟨early, hearly⟩ := Int.eq_ofNat_of_zero_le hfirst
  obtain ⟨late, hlate⟩ := Int.eq_ofNat_of_zero_le (Int.le_trans hfirst hyear)
  have hearlyLength := Decimal.length_padded_of_lt 4 early (by decide) (by omega)
  have hlateLength := Decimal.length_padded_of_lt 4 late (by decide) (by omega)
  simp only [write, hearly, hlate]
  refine ⟨?_, ?_⟩
  · rcases Nat.lt_or_ge early late with hless | hmore
    · refine List.append_lt_append ?_ (hearlyLength.trans hlateLength.symm) _ _
      exact Decimal.padded_lt_padded 4 (by decide) hless (by omega)
    · obtain rfl : early = late := by omega
      refine List.append_left_lt (Slot.writeAll_lt_writeAll hfits hotherFits ?_)
      exact numbers_lt_numbers (hearly.trans hlate.symm) hlt
  · rw [List.length_append, List.length_append, hearlyLength, hlateLength,
      Slot.length_writeAll hfits, Slot.length_writeAll hotherFits]

end Layout

namespace Preset

-- The presets that show a date and time whole.
def full : List Preset := [standard, iso8601, iso8601Basic, compact]

theorem exists_layout?_of_mem_full {preset : Preset} (hfull : preset ∈ full) :
    ∃ layout, preset.layout? = some layout := by
  simp only [full, List.mem_cons, List.not_mem_nil, or_false] at hfull
  rcases hfull with rfl | rfl | rfl | rfl <;> exact ⟨_, rfl⟩

-- Texts of a full preset stand in the order of their instants, where the offset is the same and the
-- years have four digits, and they are all of one length.
theorem render?_lt (preset : Preset) (hfull : preset ∈ full) (zone : Zone) (first second : Int)
    (hfirst : Millis.IsShown first) (hsecond : Millis.IsShown second) (hlt : first < second)
    (hoffset : zone.offsetAt (first / 1000) = zone.offsetAt (second / 1000))
    (hearliest : 0 ≤ (zone.read first).time.date.year)
    (hlatest : (zone.read second).time.date.year ≤ 9999) :
    ∃ early late, preset.render? zone first = some early ∧ preset.render? zone second = some late ∧
      early < late ∧ early.length = late.length := by
  obtain ⟨layout, hlayout⟩ := exists_layout?_of_mem_full hfull
  have hmillis : (zone.read first).time.dateTime.millis <
      (zone.read second).time.dateTime.millis := by
    rw [zone.millis_dateTime_read, zone.millis_dateTime_read, hoffset]
    omega
  obtain ⟨hless, hlength⟩ := layout.write_lt_write hmillis hearliest hlatest
  refine ⟨_, _, preset.render?_of_layout? layout hlayout zone hfirst,
    preset.render?_of_layout? layout hlayout zone hsecond, ?_, ?_⟩
  · rw [String.lt_iff, String.toList_ofList, String.toList_ofList, layout.flatMap_render_pieces,
      layout.flatMap_render_pieces]
    exact hless
  · rw [String.length_ofList, String.length_ofList, layout.flatMap_render_pieces,
      layout.flatMap_render_pieces]
    exact hlength

-- The last millisecond of a year and the first of the next.
theorem render?_lt_new_year :
    compact ∈ full ∧ Millis.IsShown 12599999 ∧ Millis.IsShown 12600000 ∧
    (Zone.host.read 12599999).time.date.year = 1969 ∧
    (Zone.host.read 12600000).time.date.year = 1970 ∧
    compact.render? .host 12599999 = some "19691231235959999" ∧
    compact.render? .host 12600000 = some "19700101000000000" ∧
    "19691231235959999" < "19700101000000000" := by
  have hfirst : Millis.IsShown 12599999 := by unfold Millis.IsShown; decide
  have hsecond : Millis.IsShown 12600000 := by unfold Millis.IsShown; decide
  have hearliest : (Zone.host.read 12599999).time.date.year = 1969 := by decide +kernel
  have hlatest : (Zone.host.read 12600000).time.date.year = 1970 := by decide +kernel
  have hearly : compact.render? .host 12599999 = some "19691231235959999" := by decide +kernel
  have hlate : compact.render? .host 12600000 = some "19700101000000000" := by decide +kernel
  obtain ⟨early, late, hrender, hother, hlt, -⟩ :=
    render?_lt compact (by decide) .host 12599999 12600000 hfirst hsecond (by decide) rfl
      (by rw [hearliest]; decide) (by rw [hlatest]; decide)
  obtain rfl := Option.some.inj (hearly.symm.trans hrender)
  obtain rfl := Option.some.inj (hlate.symm.trans hother)
  exact ⟨by decide, hfirst, hsecond, hearliest, hlatest, hearly, hlate, hlt⟩

end Preset

end EventTime
