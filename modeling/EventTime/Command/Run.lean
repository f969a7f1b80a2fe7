import EventTime.Command.Basic
import EventTime.Stamper.Run
import EventTime.Store

namespace EventTime

-- What a run leaves behind.
structure Report where
  printed : String
  warnings : List Warning
  failure : Option Failure
  store : Store
  deriving DecidableEq, Repr

-- A run that failed exits with 1.
def Report.exitCode (report : Report) : Nat := if report.failure.isSome then 1 else 0

namespace Command

-- The stamper of a run keeps its own text when calls collide.
def stamper (command : Command) (clock : Int) : Stamper × List Warning :=
  Stamper.ofList command.options.toList .own clock

-- The timestamps of the command line, or else those on the lines of the standard input.
def inputs (command : Command) (standardInput : List UInt8) : List Input :=
  if command.timestamps.isEmpty then Input.ofBytes standardInput
  else command.timestamps.map Timestamp.read

-- The stamped lines, and the failure that ended them.
def stamped (command : Command) (standardInput : List UInt8) (clock : Int) :
    String × Option Failure :=
  ((command.stamper clock).1.run command.workers clock "" (command.inputs standardInput)).2

def announcement (path : String) : String := lines [s!"Writing output to: {path}"]

-- Carries out a command line.
-- What is stamped is printed, or put behind the content of the output file.
def run (command : Command) (store : Store) (standardInput : List UInt8) (clock : Int) : Report :=
  if command.listFormats then
    { printed := presetListing, warnings := [], failure := none, store }
  else
    let warnings := (command.stamper clock).2
    let (text, failure) := command.stamped standardInput clock
    match command.output with
    | none => { printed := command.header ++ text, warnings, failure, store }
    | some path =>
      match store.locate path with
      | .error fault =>
        { printed := command.header, warnings, failure := some (.unopened path fault), store }
      | .ok name =>
        { printed := command.header ++ announcement path
          warnings
          failure
          store := store.append name text }

end Command

end EventTime
