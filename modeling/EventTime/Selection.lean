import EventTime.Preset

namespace EventTime

-- What a selector and a zone option ask for.
inductive Selection where
  | calendar (template : String) (zone : Option String)
  | epochSeconds
  | epochMillis
  deriving DecidableEq, Repr

namespace Selection

def ofPreset (preset : Preset) (zone : Option String) : Selection :=
  match preset.template? with
  | some template => calendar template zone
  | none => if preset = .epochSeconds then epochSeconds else epochMillis

-- A missing or empty selector asks for the standard template.
-- Any other is the keyword of a preset, or else a template itself.
def ofSelector (selector zone : Option String) : Selection :=
  match selector with
  | none => calendar Template.standard.source zone
  | some text =>
    if text = "" then calendar Template.standard.source zone
    else
      match Preset.find? text with
      | some preset => ofPreset preset zone
      | none => calendar text zone

-- The selector comes first and the zone second. Further options ask for nothing.
def ofList (options : List String) : Selection := ofSelector options[0]? options[1]?

-- The template asked for, unless it is an epoch number.
def template? : Selection → Option String
  | calendar template _ => some template
  | epochSeconds => none
  | epochMillis => none

end Selection

end EventTime
