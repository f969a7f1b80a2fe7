import EventTime.Selection
import EventTime.Template.Render
import EventTime.Text.Terminal
import EventTime.Zone.Reader

namespace EventTime

-- What had to be given up to make a style out of a selection.
inductive Warning where
  | unknownZone (id : String)
  | badTemplate (source : String) (fault : Template.Fault)
  deriving DecidableEq, Repr

def Warning.message : Warning → String
  | .unknownZone id => s!"Unknown time zone '{id}', using GMT"
  | .badTemplate source fault =>
    s!"Could not use date pattern '{source}': {fault.message}; using the default pattern"

-- The message as it goes to a terminal, which the texts of a user cannot command.
def Warning.notice (warning : Warning) : String :=
  String.ofList (Terminal.encode warning.message.toList)

-- A way to write an instant.
inductive Style where
  | calendar (template : Template) (zone : Zone)
  | epochSeconds
  | epochMillis
  deriving DecidableEq, Repr

namespace Style

-- The text of the instant `millis` milliseconds after 1970-01-01T00:00:00Z.
-- The seconds are whole ones, so that they stay the same for a second on both sides of 1970.
def write (style : Style) (millis : Int) : String :=
  match style with
  | calendar template zone => template.render zone millis
  | epochSeconds => String.ofList (Decimal.integer (millis / 1000))
  | epochMillis => String.ofList (Decimal.integer millis)

-- The text of the template in use, if there is one.
def template? : Style → Option String
  | calendar template _ => some template.source
  | epochSeconds => none
  | epochMillis => none

-- The template of a source, or the standard one where the source is at fault.
def templateOf (source : String) : Template × List Warning :=
  match Template.parse source with
  | .ok template => (template, [])
  | .error fault => (Template.standard, [.badTemplate source fault])

-- The zone of an option, or that of Greenwich where the option names none.
def zoneOf (option : Option String) : Zone × List Warning :=
  match Zone.ofOption option with
  | (zone, none) => (zone, [])
  | (zone, some id) => (zone, [.unknownZone id])

-- There is a style for every selection.
-- A zone or template that cannot be used gives way, with a warning, and the rest stays.
def ofSelection : Selection → Style × List Warning
  | .epochSeconds => (epochSeconds, [])
  | .epochMillis => (epochMillis, [])
  | .calendar source option =>
    let (zone, zoneWarnings) := zoneOf option
    let (template, templateWarnings) := templateOf source
    (calendar template zone, zoneWarnings ++ templateWarnings)

end Style

end EventTime
