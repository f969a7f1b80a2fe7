import EventTime.Command.Run
import EventTime.Command.Usage
import EventTime.Stamper.Dump
import Std.Time.DateTime.Timestamp

open EventTime

-- The present, in milliseconds after 1970-01-01T00:00:00Z.
def currentMillis : IO Int := do
  return (← Std.Time.Timestamp.now).toMillisecondsSinceUnixEpoch.val

-- What the operating system's refusal to open a file means.
def openFault (error : IO.Error) : OpenFault :=
  match error with
  | .noFileOrDirectory _ 2 _ => .missing
  | .inappropriateType _ 20 _ => .notDirectory
  | .inappropriateType _ 21 _ => .isDirectory
  | .invalidArgument _ 36 _ => .nameTooLong
  | error => .other error.toString

def openOutput (path : String) : IO (Except OpenFault IO.FS.Handle) := do
  try
    return .ok (← IO.FS.Handle.mk path .append)
  catch error =>
    return .error (openFault error)

-- The standard input, which is read only if no timestamps are given.
def standardInput (command : Command) : IO (List UInt8) := do
  if command.timestamps.isEmpty then
    return (← (← IO.getStdin).readBinToEnd).data.toList
  else
    return []

def fail (failure : Failure) : IO UInt32 := do
  IO.eprintln failure.report
  return 1

-- Stamps onto an open output.
def stampOnto (command : Command) (clock : Int) (write : String → IO Unit) : IO UInt32 := do
  let (text, failure) := command.stamped (← standardInput command) clock
  write text
  match failure with
  | some failure => fail failure
  | none => return 0

def runCommand (command : Command) : IO UInt32 := do
  if command.listFormats then
    IO.print Command.presetListing
    return 0
  let clock ← currentMillis
  IO.print command.header
  let (stamper, warnings) := command.stamper clock
  for warning in warnings do
    IO.eprintln s!"WARN {warning.notice}"
  if command.verbose then
    IO.eprintln s!"DEBUG stamper ready: {Dump.stamper stamper}"
  match command.output with
  | none => stampOnto command clock IO.print
  | some path =>
    match ← openOutput path with
    | .error fault => fail (.unopened path fault)
    | .ok handle =>
      IO.print (Command.announcement path)
      stampOnto command clock handle.putStr

def main (arguments : List String) : IO UInt32 := do
  match Command.read arguments with
  | .ok command => runCommand command
  | .error stop =>
    if stop.exitCode = 0 then IO.println stop.message else IO.eprintln stop.message
    return stop.exitCode.toUInt32
