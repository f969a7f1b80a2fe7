import EventTime.Zone.Database

namespace EventTime

-- Where a local time is read.
inductive Zone where
  | host
  | region (place : Region)
  | fixed (offset : Offset)
  deriving DecidableEq, Repr

-- The clocks of the host stand three and a half hours behind UTC, all year.
def Offset.host : Offset := .ofSeconds (-12600)

-- Greenwich mean time stands in for a place that is not known.
def Region.gmt : Region := ⟨"GMT", .gmt⟩

theorem Region.find?_gmt : Region.find? "GMT" = some Region.gmt := rfl

namespace Zone

-- The offset in force at a second after 1970-01-01T00:00:00Z.
def offsetAt (zone : Zone) (second : Int) : Offset :=
  match zone with
  | .host => Offset.host
  | .region place => (place.history.reckoningAt second).offset
  | .fixed offset => offset

-- The short name at a second. A zone without names of its own is named by its offset.
def nameAt (zone : Zone) (second : Int) : List Char :=
  match zone with
  | .region place => (place.history.reckoningAt second).abbreviation.toList
  | _ => 'G' :: 'M' :: 'T' :: (zone.offsetAt second).extendedText

-- The text that names the zone itself.
def label : Zone → List Char
  | .host => ['l', 'o', 'c', 'a', 'l']
  | .region place => place.id.toList
  | .fixed offset => 'G' :: 'M' :: 'T' :: offset.fullText

end Zone

end EventTime
