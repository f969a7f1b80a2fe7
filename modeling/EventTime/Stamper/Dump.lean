import EventTime.Stamper.Basic
import EventTime.Text.Quoted

-- The parts of a stamper spelled out on one line, for those who look for a mistake in them.
namespace EventTime.Dump

def quoted (text : String) : String := String.ofList (Quoted.encode text.toList)

-- A named value with its parts, each under its own name.
def record (name : String) (parts : List (String × String)) : String :=
  let inner := ", ".intercalate (parts.map fun (label, text) => s!"{label}: {text}")
  s!"{name} \x7b {inner} \x7d"

def list (items : List String) : String :=
  let inner := ", ".intercalate items
  s!"[{inner}]"

def field : Field → String
  | .era => "Era"
  | .year => "Year"
  | .weekYear => "WeekYear"
  | .month => "Month"
  | .weekOfYear => "WeekOfYear"
  | .weekOfMonth => "WeekOfMonth"
  | .dayOfYear => "DayOfYear"
  | .day => "Day"
  | .weekdayOfMonth => "DayOfWeekInMonth"
  | .weekday => "Weekday"
  | .weekdayNumber => "WeekdayNumber"
  | .halfDay => "AmPm"
  | .hourFrom0To23 => "Hour0To23"
  | .hourFrom1To24 => "Hour1To24"
  | .hourFrom0To11 => "Hour0To11"
  | .hourFrom1To12 => "Hour1To12"
  | .minute => "Minute"
  | .second => "Second"
  | .milli => "Millis"
  | .zoneName => "ZoneName"
  | .zoneOffset => "ZoneOffset"
  | .isoOffset => "IsoOffset"

def piece : Piece → String
  | .text chars =>
    let text := quoted (String.ofList chars)
    s!"Literal({text})"
  | .field kind width => record "Field" [("field", field kind), ("width", toString width)]

def zone : Zone → String
  | .host => "Local"
  | .region place => s!"Named({place.id})"
  | .fixed offset =>
    let text := String.ofList offset.fullText
    s!"Fixed({text})"

def style : Style → String
  | .epochSeconds => "UnixSeconds"
  | .epochMillis => "UnixMillis"
  | .calendar template place =>
    let parts := record "CalendarPattern"
      [("source", quoted template.source), ("zone", zone place),
        ("tokens", list (template.pieces.map piece))]
    s!"Pattern({parts})"

def policy : Policy → String
  | .own => "KeepOwn"
  | .installed => "AdoptInstalled"

def entry (entry : Entry) : String :=
  record "CacheEntry"
    [("timestamp_millis", toString entry.millis), ("formatted", quoted entry.text)]

def memo (memo : Memo) : String :=
  record "TimestampCache"
    [("formatter", style memo.style), ("policy", policy memo.policy), ("cached", entry memo.entry)]

def stamper (stamper : Stamper) : String :=
  record "DatePatternConverter" [("cache", memo stamper.memo)]

end EventTime.Dump
