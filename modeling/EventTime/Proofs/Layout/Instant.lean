import EventTime.Proofs.Layout.Lossless
import EventTime.Proofs.Zone.Resolution

-- The letters of a template that show the offset agree with each other and with the clock,
-- so that a date and time with its offset tells the instant.
namespace EventTime

namespace Layout

-- Where the offset at the end of a text begins: at the letter Z, or six characters from the end.
def offsetStart (text : List Char) : Nat :=
  if text.getLast? = some 'Z' then text.length - 1 else text.length - 6

-- Reads the instant of a date and time that an offset follows.
def readInstant? (layout : Layout) (text : List Char) : Option Int :=
  let cut := offsetStart text
  match layout.read? (text.take cut), Shift.read? (text.drop cut) with
  | some time, some shift => some (time.millis - 60000 * shift.total)
  | _, _ => none

-- The pieces of a layout, and an offset behind them.
def instantPieces (layout : Layout) : List Piece := layout.pieces ++ [.field .isoOffset 3]

theorem offsetStart_append (front : List Char) (offset : Offset) :
    offsetStart (front ++ Field.isoOffsetText 3 offset) = front.length := by
  unfold offsetStart
  by_cases hzero : offset.seconds = 0
  · rw [Field.isoOffsetText_of_zero 3 offset hzero, if_pos (by simp)]
    simp
  · obtain ⟨last, hlast, hdigit⟩ := offset.exists_getLast?_extendedText
    have hne : (front ++ offset.extendedText).getLast? ≠ some 'Z' := by
      rw [List.getLast?_append, hlast, Option.some_or]
      intro heq
      cases heq
      cases hdigit
    rw [Field.isoOffsetText_three offset hzero, if_neg hne, List.length_append,
      offset.length_extendedText, Nat.add_sub_cancel]

theorem readInstant?_render (layout : Layout) (zone : Zone) (millis : Int)
    (hwhole : (zone.offsetAt (millis / 1000)).seconds % 60 = 0) :
    layout.readInstant? (layout.instantPieces.flatMap (Piece.render (zone.read millis))) =
      some millis := by
  obtain ⟨time, hread, hmillis⟩ := layout.read?_render zone millis
  have hoffset := Field.read?_isoOffsetText 3 (zone.offsetAt (millis / 1000)) (by decide)
  have htotal := Shift.total_ofOffset (zone.offsetAt (millis / 1000))
  have hminutes := Int.tdiv_mul_cancel (Int.dvd_of_emod_eq_zero hwhole)
  have htext : layout.instantPieces.flatMap (Piece.render (zone.read millis)) =
      layout.pieces.flatMap (Piece.render (zone.read millis)) ++
        Field.isoOffsetText 3 (zone.offsetAt (millis / 1000)) := by
    rw [instantPieces, List.flatMap_append, List.flatMap_singleton]
    rfl
  rw [htext, readInstant?, offsetStart_append]
  simp only [List.take_left, List.drop_left, hread, hoffset, Option.some.injEq]
  omega

-- Date and time as ISO 8601 writes them, with a point before the milliseconds.
def extended : Layout := ⟨['-'], ['-'], ['T'], [':'], [':'], ['.']⟩

theorem parse_extended :
    Template.parse "yyyy-MM-dd'T'HH:mm:ss.SSSXXX" =
      .ok ⟨"yyyy-MM-dd'T'HH:mm:ss.SSSXXX", extended.instantPieces⟩ := by
  decide +kernel

end Layout

namespace Template

section OffsetLetters

variable (zone : Zone) {millis : Int} (hshown : Millis.IsShown millis)
include hshown

theorem renderSource?_basicOffset :
    renderSource? "Z" zone millis =
      some (String.ofList (zone.offsetAt (millis / 1000)).basicText) :=
  renderSource?_run .zoneOffset 1 (by decide) nofun zone hshown

theorem renderSource?_extendedOffset :
    renderSource? "ZZ" zone millis =
      some (String.ofList (zone.offsetAt (millis / 1000)).extendedText) :=
  renderSource?_run .zoneOffset 2 (by decide) nofun zone hshown

theorem renderSource?_isoOffset (width : Nat) (hwidth : 1 ≤ width) (hnarrow : width ≤ 3) :
    renderSource? (String.ofList (List.replicate width 'X')) zone millis =
      some (String.ofList (Field.isoOffsetText width (zone.offsetAt (millis / 1000)))) :=
  renderSource?_run .isoOffset width hwidth (fun _ => hnarrow) zone hshown

-- Each way to write hours and minutes reads as the same ones.
theorem exists_read?_offset (source : String) (hsource : source ∈ ["Z", "ZZ", "XX", "XXX"]) :
    ∃ text, renderSource? source zone millis = some text ∧
      Shift.read? text.toList = some (Shift.ofOffset (zone.offsetAt (millis / 1000))) := by
  simp only [List.mem_cons, List.not_mem_nil, or_false] at hsource
  rcases hsource with rfl | rfl | rfl | rfl
  · refine ⟨_, renderSource?_basicOffset zone hshown, ?_⟩
    rw [String.toList_ofList, Offset.read?_basicText]
  · refine ⟨_, renderSource?_extendedOffset zone hshown, ?_⟩
    rw [String.toList_ofList, Offset.read?_extendedText]
  · refine ⟨_, renderSource?_isoOffset zone hshown 2 (by decide) (by decide), ?_⟩
    rw [String.toList_ofList, Field.read?_isoOffsetText 2 _ (by decide)]
  · refine ⟨_, renderSource?_isoOffset zone hshown 3 (by decide) (by decide), ?_⟩
    rw [String.toList_ofList, Field.read?_isoOffsetText 3 _ (by decide)]

theorem renderSource?_isoOffset_eq_Z_iff (width : Nat) (hwidth : 1 ≤ width)
    (hnarrow : width ≤ 3) :
    renderSource? (String.ofList (List.replicate width 'X')) zone millis = some "Z" ↔
      (zone.offsetAt (millis / 1000)).seconds = 0 := by
  rw [renderSource?_isoOffset zone hshown width hwidth hnarrow, Option.some.injEq,
    ← Field.isoOffsetText_eq_Z_iff width, ← String.toList_inj, String.toList_ofList]
  rfl

-- A zone without names of its own is named by its offset.
theorem renderSource?_zoneName (hunnamed : ∀ place, zone ≠ .region place) (width : Nat)
    (hwidth : 1 ≤ width) :
    renderSource? (String.ofList (List.replicate width 'z')) zone millis =
      (renderSource? "ZZ" zone millis).map ("GMT" ++ ·) := by
  have hname : zone.nameAt (millis / 1000) =
      ['G', 'M', 'T'] ++ (zone.offsetAt (millis / 1000)).extendedText := by
    cases zone with
    | host => rfl
    | region place => exact absurd rfl (hunnamed place)
    | fixed offset => rfl
  have hrun := renderSource?_run .zoneName width hwidth nofun zone hshown
  rw [renderSource?_extendedOffset zone hshown, Option.map_some]
  refine hrun.trans ?_
  rw [Field.render, Zone.read, hname, String.ofList_append]

theorem renderSource?_wideOffset_host (hzone : zone = .host) (width : Nat) (hwidth : 3 ≤ width) :
    renderSource? (String.ofList (List.replicate width 'Z')) zone millis =
      renderSource? "ZZ" zone millis := by
  have hrun := renderSource?_run .zoneOffset width (by omega) nofun zone hshown
  refine hrun.trans ?_
  rw [Field.render, Field.zoneOffsetText, if_neg (by omega), if_neg (by omega),
    renderSource?_extendedOffset zone hshown, hzone]
  rfl

theorem renderSource?_wideOffset_label (hzone : zone ≠ .host) (width : Nat) (hwidth : 3 ≤ width) :
    renderSource? (String.ofList (List.replicate width 'Z')) zone millis =
      some (String.ofList zone.label) := by
  have hrun := renderSource?_run .zoneOffset width (by omega) nofun zone hshown
  refine hrun.trans ?_
  rw [Field.render, Field.zoneOffsetText, if_neg (by omega), if_neg (by omega)]
  cases zone with
  | host => exact absurd rfl hzone
  | region place => rfl
  | fixed offset => rfl

-- The label of an offset that an option asks for has whole minutes only.
theorem renderSource?_wideOffset_of_ofOption (option : Option String) (offset : Offset)
    (hoption : (Zone.ofOption option).1 = .fixed offset) (hzone : zone = .fixed offset)
    (width : Nat) (hwidth : 3 ≤ width) :
    renderSource? (String.ofList (List.replicate width 'Z')) zone millis =
      (renderSource? "ZZ" zone millis).map ("GMT" ++ ·) := by
  subst hzone
  rw [renderSource?_wideOffset_label (.fixed offset) hshown nofun width hwidth,
    renderSource?_extendedOffset (.fixed offset) hshown, Option.map_some,
    Zone.label_fixed offset (Zone.whole_of_ofOption hoption)]
  change some (String.ofList (['G', 'M', 'T'] ++ offset.extendedText)) = _
  rw [String.ofList_append]
  rfl

theorem exists_readInstant?_extended
    (hwhole : (zone.offsetAt (millis / 1000)).seconds % 60 = 0) :
    ∃ text, renderSource? "yyyy-MM-dd'T'HH:mm:ss.SSSXXX" zone millis = some text ∧
      Layout.extended.readInstant? text.toList = some millis := by
  refine ⟨_, renderSource?_of_parse Layout.parse_extended zone hshown, ?_⟩
  rw [String.toList_ofList, Layout.extended.readInstant?_render zone millis hwhole]

-- Texts with the offset in whole minutes come from one instant, even out of different zones.
theorem eq_of_renderSource?_extended_eq (hwhole : (zone.offsetAt (millis / 1000)).seconds % 60 = 0)
    (otherZone : Zone) {other : Int} (hother : Millis.IsShown other)
    (hotherWhole : (otherZone.offsetAt (other / 1000)).seconds % 60 = 0)
    (hsame : renderSource? "yyyy-MM-dd'T'HH:mm:ss.SSSXXX" otherZone other =
      renderSource? "yyyy-MM-dd'T'HH:mm:ss.SSSXXX" zone millis) : other = millis := by
  obtain ⟨text, htext, hread⟩ := exists_readInstant?_extended zone hshown hwhole
  obtain ⟨otherText, hotherText, hotherRead⟩ :=
    exists_readInstant?_extended otherZone hother hotherWhole
  obtain rfl : otherText = text := Option.some.inj (hotherText.symm.trans (hsame.trans htext))
  exact Option.some.inj (hotherRead.symm.trans hread)

end OffsetLetters

-- The letters for the offset tell the whole minutes of the offset that moves the clock, the same
-- ones in each form. With the offset behind it, a date and time tells the instant, also where the
-- clock of the zone shows one hour twice.
theorem offset_letters_agree (zone : Zone) (millis : Int) (hshown : Millis.IsShown millis) :
    let seconds := (zone.offsetAt (millis / 1000)).seconds
    let text := fun source => renderSource? source zone millis
    let full := "yyyy-MM-dd'T'HH:mm:ss.SSSXXX"
    (∃ shift : Shift, shift.total = seconds.tdiv 60 ∧
      (∀ source ∈ ["Z", "ZZ", "XX", "XXX"], ∃ shown, text source = some shown ∧
        Shift.read? shown.toList = some shift) ∧
      (seconds ≠ 0 →
        text "X" = some (String.ofList (shift.sign :: Decimal.padded 2 shift.hours)))) ∧
    (∀ source ∈ ["X", "XX", "XXX"], text source = some "Z" ↔ seconds = 0) ∧
    (seconds ≠ 0 → text "XX" = text "Z" ∧ text "XXX" = text "ZZ") ∧
    ((∀ place, zone ≠ .region place) → ∀ width, 1 ≤ width →
      text (String.ofList (List.replicate width 'z')) = (text "ZZ").map ("GMT" ++ ·)) ∧
    (∀ width, 3 ≤ width →
      (zone = .host → text (String.ofList (List.replicate width 'Z')) = text "ZZ") ∧
      (zone ≠ .host →
        text (String.ofList (List.replicate width 'Z')) = some (String.ofList zone.label)) ∧
      ∀ option offset, (Zone.ofOption option).1 = .fixed offset → zone = .fixed offset →
        text (String.ofList (List.replicate width 'Z')) = (text "ZZ").map ("GMT" ++ ·)) ∧
    (seconds % 60 = 0 →
      (∃ shown, text full = some shown ∧
        Layout.extended.readInstant? shown.toList = some millis) ∧
      ∀ otherZone other, Millis.IsShown other →
        (otherZone.offsetAt (other / 1000)).seconds % 60 = 0 →
        renderSource? full otherZone other = text full → other = millis) := by
  intro seconds text full
  refine ⟨⟨Shift.ofOffset (zone.offsetAt (millis / 1000)), ?_, ?_, ?_⟩, ?_, ?_, ?_, ?_, ?_⟩
  · exact Shift.total_ofOffset _
  · exact exists_read?_offset zone hshown
  · intro hne
    refine (renderSource?_isoOffset zone hshown 1 (by decide) (by decide)).trans ?_
    rw [Field.isoOffsetText_one _ hne, Offset.hourText, Shift.sign_ofOffset]
    rfl
  · intro source hsource
    simp only [List.mem_cons, List.not_mem_nil, or_false] at hsource
    rcases hsource with rfl | rfl | rfl
    · exact renderSource?_isoOffset_eq_Z_iff zone hshown 1 (by decide) (by decide)
    · exact renderSource?_isoOffset_eq_Z_iff zone hshown 2 (by decide) (by decide)
    · exact renderSource?_isoOffset_eq_Z_iff zone hshown 3 (by decide) (by decide)
  · intro hne
    constructor
    · refine (renderSource?_isoOffset zone hshown 2 (by decide) (by decide)).trans ?_
      rw [Field.isoOffsetText_two _ hne, ← renderSource?_basicOffset zone hshown]
    · refine (renderSource?_isoOffset zone hshown 3 (by decide) (by decide)).trans ?_
      rw [Field.isoOffsetText_three _ hne, ← renderSource?_extendedOffset zone hshown]
  · exact renderSource?_zoneName zone hshown
  · intro width hwidth
    refine ⟨?_, ?_, ?_⟩
    · intro hzone
      exact renderSource?_wideOffset_host zone hshown hzone width hwidth
    · intro hzone
      exact renderSource?_wideOffset_label zone hshown hzone width hwidth
    · intro option offset hoption hzone
      exact renderSource?_wideOffset_of_ofOption zone hshown option offset hoption hzone width
        hwidth
  · intro hwhole
    refine ⟨exists_readInstant?_extended zone hshown hwhole, ?_⟩
    intro otherZone other hother hotherWhole hsame
    exact eq_of_renderSource?_extended_eq zone hshown hwhole otherZone hother hotherWhole hsame

-- One hour apart on the night when the clocks of New York went back, and an offset that an option
-- asks for.
theorem offset_letters_agree_overlap :
    let zone := Zone.region ⟨"America/New_York", .newYork⟩
    let full := "yyyy-MM-dd'T'HH:mm:ss.SSSXXX"
    let fixed := Zone.fixed (.ofSeconds (-19800))
    Millis.IsShown 1699162200000 ∧ Millis.IsShown 1699165800000 ∧
    (zone.offsetAt (1699162200000 / 1000)).seconds = -14400 ∧
    (zone.offsetAt (1699165800000 / 1000)).seconds = -18000 ∧
    renderSource? full zone 1699165800000 = some "2023-11-05T01:30:00.000-05:00" ∧
    Layout.extended.readInstant? "2023-11-05T01:30:00.000-05:00".toList = some 1699165800000 ∧
    renderSource? full zone 1699162200000 ≠ renderSource? full zone 1699165800000 ∧
    renderSource? "XX" zone 1699165800000 = renderSource? "Z" zone 1699165800000 ∧
    (Zone.ofOption (some "utc-5:30")).1 = fixed ∧
    renderSource? "zz" fixed 1699165800000 =
      (renderSource? "ZZ" fixed 1699165800000).map ("GMT" ++ ·) ∧
    renderSource? "ZZZZ" fixed 1699165800000 =
      (renderSource? "ZZ" fixed 1699165800000).map ("GMT" ++ ·) := by
  intro zone full fixed
  have hfirst : Millis.IsShown 1699162200000 := by unfold Millis.IsShown; decide
  have hsecond : Millis.IsShown 1699165800000 := by unfold Millis.IsShown; decide
  have hsummer : (zone.offsetAt (1699162200000 / 1000)).seconds = -14400 := by decide +kernel
  have hwinter : (zone.offsetAt (1699165800000 / 1000)).seconds = -18000 := by decide +kernel
  have htext : renderSource? full zone 1699165800000 = some "2023-11-05T01:30:00.000-05:00" := by
    decide +kernel
  have hoption : (Zone.ofOption (some "utc-5:30")).1 = fixed := by decide +kernel
  obtain ⟨-, -, hforms, -, -, hinstant⟩ := offset_letters_agree zone 1699165800000 hsecond
  obtain ⟨⟨shown, hshown, hread⟩, hunique⟩ := hinstant (by rw [hwinter]; decide)
  obtain rfl := Option.some.inj (hshown.symm.trans htext)
  obtain ⟨-, -, -, hname, hwide, -⟩ := offset_letters_agree fixed 1699165800000 hsecond
  refine ⟨hfirst, hsecond, hsummer, hwinter, htext, hread, ?_, ?_, hoption, ?_, ?_⟩
  · intro hsame
    exact absurd (hunique zone 1699162200000 hfirst (by rw [hsummer]; decide) hsame) (by decide)
  · exact (hforms (by rw [hwinter]; decide)).1
  · exact hname nofun 2 (by decide)
  · exact (hwide 4 (by decide)).2.2 (some "utc-5:30") _ hoption rfl

end Template

end EventTime
