import EventTime.Calendar.LocalTime
import EventTime.Zone.Basic

namespace EventTime

namespace Millis

-- The instants that have a date. The others are shown as the first millisecond of 1970.
def earliestShown : Int := -8334601228800000

def latestShown : Int := 8210266876799999

def shown (millis : Int) : Int :=
  if earliestShown ≤ millis ∧ millis ≤ latestShown then millis else 0

end Millis

-- What the calendars and clocks of a zone show at an instant.
structure Reading where
  zone : Zone
  offset : Offset
  zoneName : List Char
  time : Calendar.LocalTime

-- Reads a zone `millis` milliseconds after 1970-01-01T00:00:00Z.
-- The local time is the instant moved by the offset in force.
def Zone.read (zone : Zone) (millis : Int) : Reading :=
  let second := millis / 1000
  let offset := zone.offsetAt second
  { zone
    offset
    zoneName := zone.nameAt second
    time := Calendar.LocalTime.ofMillis (millis + 1000 * offset.seconds) }

end EventTime
