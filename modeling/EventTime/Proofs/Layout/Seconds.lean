import EventTime.Proofs.Style.Epoch
import EventTime.Proofs.Template.Numbers

-- Dates and times tell the second that the epoch numbers count, on both sides of 1970.
namespace EventTime

open Calendar

namespace Calendar.DateTime

-- The date and time at the start of the second.
def wholeSecond (time : DateTime) : DateTime :=
  { time with clock := { time.clock with milli := 0, milli_lt := by decide } }

theorem millis_wholeSecond (time : DateTime) :
    time.wholeSecond.millis = time.millis - time.clock.milli := by
  simp only [wholeSecond, millis, Clock.toMillis]
  omega

-- Days are whole numbers of seconds.
theorem milli_eq_emod (time : DateTime) : (time.clock.milli : Int) = time.millis % 1000 := by
  have hmilli := time.clock.milli_lt
  simp only [millis, Clock.toMillis, millisPerDay]
  omega

end Calendar.DateTime

namespace Layout

-- The slots up to that of the seconds.
def secondSlots (layout : Layout) : List Slot := layout.slots.take 5

def secondPieces (layout : Layout) : List Piece :=
  .field .year 4 :: layout.secondSlots.flatMap Slot.pieces

-- Reads a date and time that ends in its seconds.
def readSecond? (layout : Layout) (text : List Char) : Option DateTime :=
  (Slot.readBehindYear? layout.secondSlots text).bind fun (year, numbers) =>
    dateTime? year (numbers ++ [0])

theorem flatMap_render_secondPieces (layout : Layout) (reading : Reading) :
    layout.secondPieces.flatMap (Piece.render reading) =
      Decimal.padded 4 reading.time.dateTime.date.year ++
        Slot.writeAll layout.secondSlots ((numbers reading.time.dateTime).take 5) := by
  rw [secondPieces, List.flatMap_cons, List.flatMap_assoc]
  simp only [Slot.flatMap_render_pieces]
  rfl

theorem readSecond?_render (layout : Layout) (reading : Reading) :
    layout.readSecond? (layout.secondPieces.flatMap (Piece.render reading)) =
      some reading.time.dateTime.wholeSecond := by
  have hfits := List.forall₂_take 5 (layout.numbers_fit reading.time.dateTime)
  rw [readSecond?, flatMap_render_secondPieces, secondSlots, Slot.readBehindYear?_write hfits]
  exact dateTime?_numbers reading.time.dateTime.wholeSecond

-- Date and time with a blank between them.
def spaced : Layout := ⟨['-'], ['-'], [' '], [':'], [':'], [',']⟩

end Layout

namespace Style

theorem ofSelection_spaced :
    (ofSelection (Selection.ofList ["yyyy-MM-dd HH:mm:ss", "UTC"])).1 =
      calendar ⟨"yyyy-MM-dd HH:mm:ss", Layout.spaced.secondPieces⟩ (.region ⟨"UTC", .utc⟩) := by
  decide +kernel

section Calendar

variable (template : Template) (zone : Zone) {millis : Int}

theorem write_calendar_of_isShown (hshown : Millis.IsShown millis) :
    (calendar template zone).write millis =
      String.ofList (template.pieces.flatMap (Piece.render (zone.read millis))) :=
  template.render_of_isShown zone hshown

theorem write_calendar_of_not_isShown (hnot : ¬ Millis.IsShown millis) :
    (calendar template zone).write millis = (calendar template zone).write 0 := by
  have hshown : Millis.shown millis = 0 := if_neg hnot
  rw [write, ← template.render_shown, hshown]
  rfl

end Calendar

-- The clock of a zone is moved by whole seconds, which leaves the milliseconds alone.
theorem number?_milli (zone : Zone) {millis : Int} (hshown : Millis.IsShown millis) (width : Nat)
    (hwidth : 1 ≤ width) :
    Template.number? (String.ofList (List.replicate width 'S')) zone millis =
      some (millis % 1000) := by
  have htime := zone.shows_read millis
  have hmilli : ((zone.read millis).time.dateTime.clock.milli : Int) = millis % 1000 := by
    rw [DateTime.milli_eq_emod, htime]
    omega
  exact Template.number?_run .milli width hwidth trivial zone hshown _ htime _
    (congrArg some hmilli)

theorem exists_readSecond?_spaced {millis : Int} (hshown : Millis.IsShown millis) :
    ∃ time, Layout.spaced.readSecond?
        ((ofSelection (Selection.ofList ["yyyy-MM-dd HH:mm:ss", "UTC"])).1.write millis).toList =
          some time ∧
      time.millis = 1000 * (millis / 1000) := by
  let reading := (Zone.region ⟨"UTC", .utc⟩).read millis
  have htime : reading.time.dateTime.millis = millis + 1000 * 0 :=
    Zone.millis_dateTime_read _ millis
  refine ⟨reading.time.dateTime.wholeSecond, ?_, ?_⟩
  · rw [ofSelection_spaced, write_calendar_of_isShown _ _ hshown, String.toList_ofList]
    exact Layout.spaced.readSecond?_render reading
  · rw [DateTime.millis_wholeSecond, DateTime.milli_eq_emod, htime]
    omega

-- The epoch numbers are exact for every instant. Date and time to the second, in UTC, lie as many
-- seconds from 1970 as the number of seconds says, and the milliseconds are what is left.
-- Templates show the instants that calendars reach as themselves, and any other like the first
-- one of 1970.
theorem epoch_calendar_agree (millis : Int) :
    let style := fun options => (ofSelection (Selection.ofList options)).1
    ∃ second : Int,
      (∀ other : Int, 1000 * other ≤ millis ∧ millis < 1000 * other + 1000 ↔ other = second) ∧
      (∀ options, Preset.epochMillis.NamedBy options →
        (style options).write millis = toString millis) ∧
      (∀ options, Preset.epochSeconds.NamedBy options →
        (style options).write millis = toString second) ∧
      (-8334601228800000 ≤ millis ∧ millis ≤ 8210266876799999 →
        (∃ time, Layout.spaced.readSecond?
            ((style ["yyyy-MM-dd HH:mm:ss", "UTC"]).write millis).toList = some time ∧
          time.millis = 1000 * second) ∧
        (∀ zone width, 1 ≤ width →
          Template.number? (String.ofList (List.replicate width 'S')) zone millis =
            some (millis - 1000 * second)) ∧
        ∀ template zone,
          (calendar template zone).write millis =
            String.ofList (template.pieces.flatMap (Piece.render (zone.read millis))) ∧
          zone.Shows millis (zone.read millis).time.dateTime) ∧
      (millis < -8334601228800000 ∨ 8210266876799999 < millis → ∀ template zone,
        (calendar template zone).write millis = (calendar template zone).write 0) := by
  intro style
  refine ⟨millis / 1000, fun other => by omega, ?_, ?_, ?_, ?_⟩
  · intro options hnamed
    exact write_of_epochMillis hnamed millis
  · intro options hnamed
    exact write_of_epochSeconds hnamed millis
  · intro hshown
    refine ⟨exists_readSecond?_spaced hshown, ?_, ?_⟩
    · intro zone width hwidth
      rw [number?_milli zone hshown width hwidth, Int.emod_def]
    · intro template zone
      exact ⟨write_calendar_of_isShown template zone hshown, zone.shows_read millis⟩
  · intro hbeyond template zone
    apply write_calendar_of_not_isShown
    simp only [Millis.IsShown, Millis.earliestShown, Millis.latestShown]
    omega

-- The last millisecond before 1970, and the last instant before all that are shown.
theorem epoch_calendar_agree_last_second :
    let style := fun options => (ofSelection (Selection.ofList options)).1
    Preset.epochSeconds.NamedBy ["unix"] ∧ (style ["unix"]).write (-1) = "-1" ∧
    (style ["yyyy-MM-dd HH:mm:ss", "UTC"]).write (-1) = "1969-12-31 23:59:59" ∧
    (∃ time, Layout.spaced.readSecond? "1969-12-31 23:59:59".toList = some time ∧
      time.millis = -1000) ∧
    Template.number? "SS" .host (-1) = some 999 ∧
    (calendar .standard .host).write (-8334601228800001) =
      (calendar .standard .host).write 0 := by
  intro style
  have hnamed : Preset.epochSeconds.NamedBy ["unix"] := ⟨"unix", rfl, by decide⟩
  have htext : (style ["yyyy-MM-dd HH:mm:ss", "UTC"]).write (-1) = "1969-12-31 23:59:59" := by
    decide +kernel
  obtain ⟨second, hsecond, -, hseconds, hshown, -⟩ := epoch_calendar_agree (-1)
  obtain rfl : -1 = second := (hsecond (-1)).mp (by decide)
  obtain ⟨hread, hmilli, -⟩ := hshown (by decide)
  obtain ⟨-, -, -, -, -, hbeyond⟩ := epoch_calendar_agree (-8334601228800001)
  refine ⟨hnamed, hseconds _ hnamed, htext, ?_, hmilli .host 2 (by decide),
    hbeyond (by decide) .standard .host⟩
  rw [← htext]
  exact hread

end Style

end EventTime
