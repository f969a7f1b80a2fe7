import EventTime.Command.Basic
import EventTime.Text.Numeral

namespace EventTime.Command

-- The options that take a value.
inductive Setting where
  | format
  | zone
  | threads
  | output
  deriving DecidableEq, Repr

-- The options that take none.
inductive Switch where
  | listFormats
  | verbose
  | help
  | version
  deriving DecidableEq, Repr

-- Why a command line is not run.
inductive Stop where
  | unknownArgument (argument : String)
  | missingValue (setting : Setting)
  | emptyValue (setting : Setting)
  | badNumber (text : String)
  | repeatedSetting (setting : Setting)
  | repeatedSwitch (switch : Switch)
  | unneededValue (switch : Switch)
  | help
  | version
  deriving DecidableEq, Repr

def longName (name : String) : Option (Setting ⊕ Switch) :=
  match name with
  | "format" => some (.inl .format)
  | "timezone" => some (.inl .zone)
  | "threads" => some (.inl .threads)
  | "output" => some (.inl .output)
  | "list-formats" => some (.inr .listFormats)
  | "verbose" => some (.inr .verbose)
  | "help" => some (.inr .help)
  | "version" => some (.inr .version)
  | _ => none

def shortName (letter : Char) : Option (Setting ⊕ Switch) :=
  match letter with
  | 'f' => some (.inl .format)
  | 'z' => some (.inl .zone)
  | 'o' => some (.inl .output)
  | 'v' => some (.inr .verbose)
  | 'h' => some (.inr .help)
  | 'V' => some (.inr .version)
  | _ => none

-- What has been read of a command line.
-- The last setting may still wait for its value, and a value given apart is not yet checked.
structure Progress where
  format : Option String
  zone : Option String
  threads : Option Nat
  output : Option String
  listFormats : Bool
  verbose : Bool
  timestamps : List String
  pending : Option (Setting × Option String)
  deriving DecidableEq, Repr

namespace Progress

def start : Progress :=
  { format := none
    zone := none
    threads := none
    output := none
    listFormats := false
    verbose := false
    timestamps := []
    pending := none }

-- Gives a setting its value. It has one value at most, and the value has to suit it.
def assign (progress : Progress) (setting : Setting) (value : String) : Except Stop Progress :=
  match setting with
  | .format =>
    if progress.format.isSome then .error (.repeatedSetting .format)
    else .ok { progress with format := some value }
  | .zone =>
    if progress.zone.isSome then .error (.repeatedSetting .zone)
    else .ok { progress with zone := some value }
  | .threads =>
    if progress.threads.isSome then .error (.repeatedSetting .threads)
    else
      match Numeral.count? value.toList with
      | some count => .ok { progress with threads := some count }
      | none => .error (.badNumber value)
  | .output =>
    if progress.output.isSome then .error (.repeatedSetting .output)
    else if value = "" then .error (.emptyValue .output)
    else .ok { progress with output := some value }

-- Turns a switch on, once. Help and version end the reading.
def turnOn (progress : Progress) (switch : Switch) : Except Stop Progress :=
  match switch with
  | .listFormats =>
    if progress.listFormats then .error (.repeatedSwitch .listFormats)
    else .ok { progress with listFormats := true }
  | .verbose =>
    if progress.verbose then .error (.repeatedSwitch .verbose)
    else .ok { progress with verbose := true }
  | .help => .error .help
  | .version => .error .version

-- Completes the setting that is pending.
def settle (progress : Progress) : Except Stop Progress :=
  match progress.pending with
  | none => .ok progress
  | some (setting, none) => .error (.missingValue setting)
  | some (setting, some value) => { progress with pending := none }.assign setting value

-- A setting with a value attached is complete. Another waits for the next argument.
def takeSetting (progress : Progress) (setting : Setting) (value : Option String) :
    Except Stop Progress := do
  let progress ← progress.settle
  match value with
  | some value => progress.assign setting value
  | none => .ok { progress with pending := some (setting, none) }

def takeSwitch (progress : Progress) (switch : Switch) : Except Stop Progress := do
  let progress ← progress.settle
  progress.turnOn switch

-- The value that an equals sign attaches to a name.
def attached? (text : List Char) : Option String :=
  if '=' ∈ text then some (String.ofList ((text.dropWhile (· ≠ '=')).drop 1)) else none

-- An argument behind two hyphens.
-- Names that are not known and values that are not needed come before what is pending.
def readLong (progress : Progress) (text : List Char) : Except Stop Progress :=
  let name := String.ofList (text.takeWhile (· ≠ '='))
  match longName name, attached? text with
  | none, _ => .error (.unknownArgument ("--" ++ name))
  | some (.inl setting), value => progress.takeSetting setting value
  | some (.inr switch), none => progress.takeSwitch switch
  | some (.inr switch), some _ => .error (.unneededValue switch)

-- Letters behind one hyphen.
-- Behind a setting, the other characters are its value, less an equals sign in front.
def readShort (progress : Progress) : List Char → Except Stop Progress
  | [] => .ok progress
  | letter :: rest =>
    match shortName letter with
    | none => .error (.unknownArgument ("-" ++ letter.toString))
    | some (.inr switch) => do
      let progress ← progress.takeSwitch switch
      progress.readShort rest
    | some (.inl setting) =>
      match rest with
      | [] => progress.takeSetting setting none
      | '=' :: value => progress.takeSetting setting (some (String.ofList value))
      | value => progress.takeSetting setting (some (String.ofList value))

-- An argument that is no option is the value that is waited for, or else a timestamp.
def takePlain (progress : Progress) (argument : String) : Except Stop Progress :=
  match progress.pending with
  | some (setting, none) => .ok { progress with pending := some (setting, some argument) }
  | _ => do
    let progress ← progress.settle
    .ok { progress with timestamps := progress.timestamps ++ [argument] }

-- A hyphen alone is no option.
def readArgument (progress : Progress) (argument : String) : Except Stop Progress :=
  match argument.toList with
  | '-' :: '-' :: text => progress.readLong text
  | '-' :: letter :: rest => progress.readShort (letter :: rest)
  | _ => progress.takePlain argument

-- Behind two hyphens alone, all arguments are timestamps.
def readAll (progress : Progress) : List String → Except Stop Progress
  | [] => progress.settle
  | argument :: rest =>
    if argument = "--" then do
      let progress ← progress.settle
      .ok { progress with timestamps := progress.timestamps ++ rest }
    else do
      let progress ← progress.readArgument argument
      progress.readAll rest

-- The number of threads is 1 unless it is given.
def command (progress : Progress) : Command :=
  { format := progress.format
    zone := progress.zone
    threads := progress.threads.getD 1
    output := progress.output
    listFormats := progress.listFormats
    verbose := progress.verbose
    timestamps := progress.timestamps }

end Progress

-- Reads the arguments from the left, up to the first reason to stop.
def read (arguments : List String) : Except Stop Command :=
  (Progress.start.readAll arguments).map Progress.command

end EventTime.Command
