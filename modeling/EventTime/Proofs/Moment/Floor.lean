import EventTime.Moment
import EventTime.Proofs.Template.Rendering
import EventTime.Proofs.Text.Numerals

-- Dates of every kind count the whole milliseconds up to their instant, before 1970 as after it.
namespace EventTime

-- A distance in time as clocks give it, in whole seconds and a part of the next.
structure Distance where
  seconds : Nat
  nanos : Nat
  nanos_lt : nanos < 1000000000

namespace Distance

def ofNanos (nanos : Nat) : Distance :=
  { seconds := nanos / 1000000000
    nanos := nanos % 1000000000
    nanos_lt := Nat.mod_lt _ (by omega) }

def millis (distance : Distance) : Nat :=
  1000 * distance.seconds + distance.nanos / nanosPerMilli

-- The milliseconds as a signed count of 128 bits, the largest one where they are too many.
def wideMillis (distance : Distance) : Int :=
  min distance.millis 170141183460469231731687303715884105727

theorem millis_ofNanos (nanos : Nat) : (ofNanos nanos).millis = nanos / nanosPerMilli := by
  simp only [millis, ofNanos, nanosPerMilli]
  omega

-- A second is a whole number of milliseconds.
theorem nanos_ofNanos_mod (nanos : Nat) :
    (ofNanos nanos).nanos % nanosPerMilli = nanos % nanosPerMilli := by
  simp only [ofNanos, nanosPerMilli]
  omega

end Distance

namespace ClockTime

-- The nanoseconds from the start of 1970 to the reading.
def nanos : ClockTime → Int
  | after nanos => nanos
  | before nanos => -nanos

-- The milliseconds by way of seconds, and of counts of 128 bits that are clamped at the end.
def millisByDistance : ClockTime → Int
  | after nanos => Millis.clamp (Distance.ofNanos nanos).wideMillis
  | before nanos =>
    let distance := Distance.ofNanos nanos
    let whole := distance.wideMillis
    Millis.clamp (if distance.nanos % nanosPerMilli = 0 then -whole else -whole - 1)

-- A count that is too large for 128 bits is clamped in any case.
theorem millisByDistance_eq_millis (time : ClockTime) : time.millisByDistance = time.millis := by
  cases time with
  | after nanos =>
      simp only [millisByDistance, millis, Distance.wideMillis, Distance.millis_ofNanos,
        Millis.clamp, Millis.least, Millis.greatest]
      omega
  | before nanos =>
      simp only [millisByDistance, millis, Distance.wideMillis, Distance.millis_ofNanos,
        Distance.nanos_ofNanos_mod, Millis.clamp, Millis.least, Millis.greatest]
      split <;> omega

-- Before 1970 the quotient of the distance is rounded up, which the part of a millisecond undoes.
theorem millis_eq_clamp (time : ClockTime) :
    time.millis = Millis.clamp (time.nanos / 1000000) := by
  cases time with
  | after nanos => rfl
  | before nanos =>
      have hfloor : (if nanos % nanosPerMilli = 0 then -((nanos / nanosPerMilli : Nat) : Int)
          else -((nanos / nanosPerMilli : Nat) : Int) - 1) = -(nanos : Int) / 1000000 := by
        by_cases hwhole : nanos % nanosPerMilli = 0
        · rw [if_pos hwhole]
          simp only [nanosPerMilli] at hwhole ⊢
          omega
        · rw [if_neg hwhole]
          simp only [nanosPerMilli] at hwhole ⊢
          omega
      simp only [millis, ClockTime.nanos, hfloor]

theorem nanos_ofNanos (nanos : Int) : (ofNanos nanos).nanos = nanos := by
  rw [ofNanos]
  by_cases hafter : 0 ≤ nanos
  · rw [if_pos hafter, ClockTime.nanos]
    omega
  · rw [if_neg hafter, ClockTime.nanos]
    omega

end ClockTime

namespace ZonedTime

-- The nanoseconds from the start of 1970 to the time.
def nanos (time : ZonedTime) : Int := 1000000000 * time.second + time.nano

theorem millis_eq (time : ZonedTime) : time.millis = time.nanos / 1000000 := by
  simp only [millis, nanos, nanosPerMilli]
  omega

theorem nanos_ofNanos (nanos : Int) (zone : Zone) : (ofNanos nanos zone).nanos = nanos := by
  simp only [ofNanos, ZonedTime.nanos]
  omega

-- No time is given as a leap second.
theorem nano_ofNanos_lt (nanos : Int) (zone : Zone) : (ofNanos nanos zone).nano < 1000000000 := by
  simp only [ofNanos]
  omega

end ZonedTime

namespace Millis

theorem clamp_eq_self_iff (count : Int) : clamp count = count ↔ Fits count := by
  simp only [clamp, Fits, least, greatest]
  omega

theorem clamp_mono {first second : Int} (hle : first ≤ second) : clamp first ≤ clamp second := by
  simp only [clamp]
  omega

theorem fits_of_isShown {count : Int} (hshown : IsShown count) : Fits count := by
  simp only [IsShown, earliestShown, latestShown] at hshown
  simp only [Fits, least, greatest]
  omega

end Millis

namespace Moment

def nanos : Moment → Int
  | clock time => time.nanos
  | zoned time => time.nanos

-- Clocks are read at any distance. Times in a zone end with the calendar.
def Held : Moment → Prop
  | clock _ => True
  | zoned time => Millis.IsShown (time.nanos / 1000000)

theorem millis_eq_clamp {moment : Moment} (hheld : moment.Held) :
    moment.millis = Millis.clamp (moment.nanos / 1000000) := by
  cases moment with
  | clock time => exact time.millis_eq_clamp
  | zoned time =>
      have hfits := Millis.fits_of_isShown hheld
      exact time.millis_eq.trans ((Millis.clamp_eq_self_iff _).mpr hfits).symm

theorem millis_le_millis {first second : Moment} (hfirst : first.Held) (hsecond : second.Held)
    (hle : first.nanos ≤ second.nanos) : first.millis ≤ second.millis := by
  rw [millis_eq_clamp hfirst, millis_eq_clamp hsecond]
  apply Millis.clamp_mono
  omega

end Moment

namespace Value

-- Dates and nothing else give milliseconds.
theorem millis?_eq_some_iff (value : Value) (count : Int) :
    value.millis? = some count ↔ ∃ moment, value = .moment moment ∧ moment.millis = count := by
  cases value with
  | moment date => simp [millis?]
  | _ => simp [millis?]

-- A date gives the whole milliseconds from the start of 1970 up to it, as many as fit for a clock.
-- So the dates of all types agree, and later ones never give less.
theorem millis?_floor :
    (∀ (value : Value) count, value.millis? = some count ↔
      (∃ time : ClockTime, value = .moment (.clock time) ∧
        count = max (-9223372036854775808) (min 9223372036854775807 (time.nanos / 1000000))) ∨
      ∃ time : ZonedTime, value = .moment (.zoned time) ∧ count = time.nanos / 1000000) ∧
    (∀ time : ClockTime, time.millisByDistance = time.millis) ∧
    (∀ second nano, (unzoned second nano).millis? = none) ∧
    (∀ nanos, (ClockTime.ofNanos nanos).nanos = nanos ∧
      ∀ zone, (ZonedTime.ofNanos nanos zone).nanos = nanos ∧
        (ZonedTime.ofNanos nanos zone).nano < 1000000000 ∧
        (ZonedTime.ofNanos nanos zone).zone = zone ∧
        ((moment (.clock (.ofNanos nanos))).millis? =
            (moment (.zoned (.ofNanos nanos zone))).millis? ↔
          Millis.Fits (nanos / 1000000))) ∧
    ∀ first second : Moment, first.Held → second.Held →
      (first.nanos = second.nanos → first.millis = second.millis) ∧
      (first.nanos ≤ second.nanos → first.millis ≤ second.millis) := by
  refine ⟨fun value count => ?_, ClockTime.millisByDistance_eq_millis, fun _ _ => rfl,
    fun nanos => ⟨ClockTime.nanos_ofNanos nanos, fun zone => ⟨ZonedTime.nanos_ofNanos nanos zone,
      ZonedTime.nano_ofNanos_lt nanos zone, rfl, ?_⟩⟩, ?_⟩
  · rw [millis?_eq_some_iff]
    constructor
    · rintro ⟨date, rfl, rfl⟩
      cases date with
      | clock time => exact .inl ⟨time, rfl, time.millis_eq_clamp⟩
      | zoned time => exact .inr ⟨time, rfl, time.millis_eq⟩
    · rintro (⟨time, rfl, rfl⟩ | ⟨time, rfl, rfl⟩)
      · exact ⟨_, rfl, time.millis_eq_clamp⟩
      · exact ⟨_, rfl, time.millis_eq⟩
  · simp only [millis?, Moment.millis, Option.some.injEq]
    rw [ClockTime.millis_eq_clamp, ZonedTime.millis_eq, ClockTime.nanos_ofNanos,
      ZonedTime.nanos_ofNanos]
    exact Millis.clamp_eq_self_iff _
  · intro first second hfirst hsecond
    refine ⟨fun heq => ?_, Moment.millis_le_millis hfirst hsecond⟩
    rw [Moment.millis_eq_clamp hfirst, Moment.millis_eq_clamp hsecond, heq]

-- A clock that was read before all 64-bit counts, and a time half a millisecond before a whole one.
theorem millis?_floor_clamped :
    let earliest := Moment.clock (.before 9223372036854775808000001)
    let early := Moment.zoned (.ofNanos (-1500000) (.region .gmt))
    earliest.Held ∧ early.Held ∧ earliest.nanos ≤ early.nanos ∧ earliest.millis ≤ early.millis ∧
    Millis.Fits (-1500000 / 1000000) ∧
    (moment (.clock (.ofNanos (-1500000)))).millis? = (moment early).millis? ∧
    (moment early).millis? = some (-2) := by
  intro earliest early
  obtain ⟨hgiven, -, -, hofNanos, hmono⟩ := millis?_floor
  have hearliest : earliest.Held := trivial
  have hearly : early.Held := by
    show Millis.IsShown (-1500000 / 1000000)
    exact ⟨by decide, by decide⟩
  have hle : earliest.nanos ≤ early.nanos := by decide
  have hfits : Millis.Fits (-1500000 / 1000000) := by decide
  refine ⟨hearliest, hearly, hle, (hmono _ _ hearliest hearly).2 hle, hfits, ?_, ?_⟩
  · exact ((hofNanos (-1500000)).2 (.region .gmt)).2.2.2.mpr hfits
  · exact (hgiven _ _).mpr (.inr ⟨_, rfl, by decide⟩)

end Value

end EventTime
