import EventTime.Options

namespace EventTime

-- What a command line asks for.
structure Command where
  format : Option String
  zone : Option String
  threads : Nat
  output : Option String
  listFormats : Bool
  verbose : Bool
  timestamps : List String
  deriving DecidableEq, Repr

namespace Command

def options (command : Command) : Options := ⟨command.format, command.zone⟩

-- Without threads, the work is done by the one that asks for it.
def workers (command : Command) : Nat := max command.threads 1

-- The lines that tell what a run with these options and threads will do.
def settings (options : Options) (threads : Nat) : List String :=
  let format := s!"Format: {options.summary}"
  if 1 < threads then [format, s!"Threads per timestamp: {threads}"] else [format]

-- Lines of text, each with its line break.
def lines (texts : List String) : String := String.join (texts.map fun text => text ++ "\n")

-- What a run prints before it opens its output.
def header (command : Command) : String := lines (settings command.options command.workers)

-- A keyword and what it stands for, in columns.
def presetLine (preset : Preset) : String :=
  let keyword := String.ofList (preset.keyword.toList.rightpad 14 ' ')
  let meaning := preset.template?.getD "(epoch number)"
  s!"  {keyword} {meaning}"

def presetListing : String := lines ("Named formats:" :: Preset.all.map presetLine)

end Command

end EventTime
