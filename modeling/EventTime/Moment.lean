import EventTime.Text.Numeral
import EventTime.Zone.Basic

namespace EventTime

def nanosPerMilli : Nat := 1000000

-- A reading of the system clock: its distance from the start of 1970, after it or before.
inductive ClockTime where
  | after (nanos : Nat)
  | before (nanos : Nat)
  deriving DecidableEq, Repr

namespace ClockTime

def ofNanos (nanos : Int) : ClockTime :=
  if 0 ≤ nanos then after nanos.natAbs else before nanos.natAbs

-- The whole milliseconds. Before 1970, a part of a millisecond belongs to the one it follows.
def millis : ClockTime → Int
  | after nanos => Millis.clamp (nanos / nanosPerMilli : Nat)
  | before nanos =>
    let whole : Int := (nanos / nanosPerMilli : Nat)
    Millis.clamp (if nanos % nanosPerMilli = 0 then -whole else -whole - 1)

end ClockTime

-- A second after 1970-01-01T00:00:00Z and a part of it, seen from a zone.
structure ZonedTime where
  second : Int
  nano : Nat
  zone : Zone
  deriving DecidableEq, Repr

namespace ZonedTime

def ofNanos (nanos : Int) (zone : Zone) : ZonedTime :=
  ⟨nanos / 1000000000, (nanos % 1000000000).toNat, zone⟩

-- The zone does not matter for the instant.
def millis (time : ZonedTime) : Int := 1000 * time.second + (time.nano / nanosPerMilli : Nat)

end ZonedTime

-- A date that stands for an instant.
inductive Moment where
  | clock (time : ClockTime)
  | zoned (time : ZonedTime)
  deriving DecidableEq, Repr

def Moment.millis : Moment → Int
  | clock time => time.millis
  | zoned time => time.millis

-- A value that may be a date.
-- A date and time without a zone stands for no instant.
inductive Value where
  | moment (date : Moment)
  | unzoned (second : Int) (nano : Nat)
  | text (text : String)
  | number (number : Int)
  | unit
  deriving DecidableEq, Repr

def Value.millis? : Value → Option Int
  | .moment date => some date.millis
  | _ => none

-- Of a log event, only the time matters.
structure Event where
  millis : Int
  deriving DecidableEq, Repr

end EventTime
