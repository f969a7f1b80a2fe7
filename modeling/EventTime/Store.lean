import EventTime.Failure

namespace EventTime

-- Files, each by its name in the working directory and with its content.
structure Store where
  files : List (String × String)
  deriving DecidableEq, Repr

namespace Store

def longestName : Nat := 255

def longestPath : Nat := 4095

-- Cuts a path at each slash.
def steps (path : List Char) : List (List Char) :=
  match path with
  | [] => [[]]
  | '/' :: rest => [] :: steps rest
  | c :: rest =>
    match steps rest with
    | [] => [[c]]
    | first :: later => (c :: first) :: later

-- A step that leads to no other directory.
def isIdle (step : List Char) : Bool := step.isEmpty || step == ['.']

def content? (store : Store) (name : String) : Option String :=
  (store.files.find? fun file => file.1 = name).map (·.2)

-- Follows the steps of a path to the name of a file, which need not exist.
-- Of directories, only the working directory and those above it are known.
-- The names of files outside begin with `place`, the way to their directory.
-- A slash behind the last name asks for a directory, whatever the name.
def follow (store : Store) (place : String) : List (List Char) → Except OpenFault String
  | [] => .error .isDirectory
  | step :: rest =>
    let name := place ++ String.ofList step
    if isIdle step then store.follow place rest
    else if step = ['.', '.'] then store.follow (name ++ "/") rest
    else if !rest.isEmpty && rest.all List.isEmpty then .error .isDirectory
    else if longestName < (String.ofList step).utf8ByteSize then .error .nameTooLong
    else if rest.isEmpty then .ok name
    else if (store.content? name).isSome then .error .notDirectory
    else .error .missing

-- The name of the file at a path.
def locate (store : Store) (path : String) : Except OpenFault String :=
  if longestPath < path.utf8ByteSize then .error .nameTooLong
  else store.follow (if path.toList.head? = some '/' then "/" else "") (steps path.toList)

-- Puts text behind the content of a file. A file that does not exist is created.
def append (store : Store) (name text : String) : Store :=
  match store.content? name with
  | some _ =>
    ⟨store.files.map fun file => if file.1 = name then (file.1, file.2 ++ text) else file⟩
  | none => ⟨store.files ++ [(name, text)]⟩

end Store

end EventTime
