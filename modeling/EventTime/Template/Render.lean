import EventTime.Template.Basic
import EventTime.Zone.Reading

namespace EventTime

open Calendar

namespace Field

-- A year of two letters shows its last two digits. Any other shows four digits at least.
def yearText (width : Nat) (year : Int) : List Char :=
  if width = 2 then Decimal.padded 2 (year % 100) else Decimal.padded (max width 4) year

-- A month is a number in up to two letters, a short name in three, else a full name.
def monthText (width : Nat) (month : Month) : List Char :=
  if width ≤ 2 then Decimal.padded width month.number
  else if width = 3 then month.shortName.toList
  else month.name.toList

def weekdayText (width : Nat) (weekday : Weekday) : List Char :=
  if 4 ≤ width then weekday.name.toList else weekday.shortName.toList

-- An hour that reads `last` in place of 0.
def hourTo (last hour : Nat) : Nat := if hour = 0 then last else hour

-- In three letters and more, a zone other than the host's stands by its label.
def zoneOffsetText (width : Nat) (reading : Reading) : List Char :=
  if width = 1 then reading.offset.basicText
  else if width = 2 then reading.offset.extendedText
  else
    match reading.zone with
    | .host => reading.offset.extendedText
    | zone => zone.label

-- No offset at all is written Z.
def isoOffsetText (width : Nat) (offset : Offset) : List Char :=
  if offset.seconds = 0 then ['Z']
  else if width = 1 then offset.hourText
  else if width = 3 then offset.extendedText
  else offset.basicText

-- The field in `width` letters.
def render (reading : Reading) (width : Nat) : Field → List Char
  | era => if 0 < reading.time.date.year then ['A', 'D'] else ['B', 'C']
  | year => yearText width reading.time.date.year
  | weekYear => yearText width reading.time.weekDate.year
  | month => monthText width reading.time.date.month
  | weekOfYear => Decimal.padded width reading.time.weekDate.week
  | weekOfMonth => Decimal.padded width reading.time.weekOfMonth
  | dayOfYear => Decimal.padded width reading.time.dayOfYear
  | day => Decimal.padded width reading.time.date.day
  | weekdayOfMonth => Decimal.padded width reading.time.weekdayOfMonth
  | weekday => weekdayText width reading.time.weekday
  | weekdayNumber => Decimal.padded width reading.time.weekday.number
  | halfDay => if reading.time.clock.isMorning then ['A', 'M'] else ['P', 'M']
  | hourFrom0To23 => Decimal.padded width reading.time.clock.hour
  | hourFrom1To24 => Decimal.padded width (hourTo 24 reading.time.clock.hour)
  | hourFrom0To11 => Decimal.padded width reading.time.clock.hourOfHalfDay
  | hourFrom1To12 => Decimal.padded width (hourTo 12 reading.time.clock.hourOfHalfDay)
  | minute => Decimal.padded width reading.time.clock.minute
  | second => Decimal.padded width reading.time.clock.second
  | milli => Decimal.padded width reading.time.clock.milli
  | zoneName => reading.zoneName
  | zoneOffset => zoneOffsetText width reading
  | isoOffset => isoOffsetText width reading.offset

end Field

def Piece.render (reading : Reading) : Piece → List Char
  | .text chars => chars
  | .field kind width => kind.render reading width

namespace Template

-- The pieces in their order, each as the zone shows it at the instant.
def renderPieces (pieces : List Piece) (zone : Zone) (millis : Int) : List Char :=
  pieces.flatMap (Piece.render (zone.read (Millis.shown millis)))

def render (template : Template) (zone : Zone) (millis : Int) : String :=
  String.ofList (renderPieces template.pieces zone millis)

end Template

end EventTime
