import EventTime.Selection

namespace EventTime

-- The options of a stamper, by name.
structure Options where
  format : Option String
  zone : Option String
  deriving DecidableEq, Repr

namespace Options

-- Options by position: the format, then the zone.
def ofList (options : List String) : Options := ⟨options[0]?, options[1]?⟩

-- A zone alone is the second option, so the keyword of the standard format stands before it.
def toList (options : Options) : List String :=
  match options.format, options.zone with
  | none, none => []
  | some format, none => [format]
  | format, some zone => [format.getD Preset.standard.keyword, zone]

def selection (options : Options) : Selection :=
  Selection.ofSelector options.format options.zone

-- What the options ask for, in words. The zone is quoted as it was given.
def summary (options : Options) : String :=
  let zone := options.zone.getD "local"
  match options.selection with
  | .epochSeconds => "epoch seconds"
  | .epochMillis => "epoch milliseconds"
  | .calendar template _ => s!"pattern \"{template}\" ({zone})"

end Options

end EventTime
