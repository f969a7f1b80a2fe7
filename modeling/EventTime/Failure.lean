import EventTime.Text.Numeral

namespace EventTime

-- Why a file cannot be opened.
inductive OpenFault where
  | missing
  | notDirectory
  | isDirectory
  | nameTooLong
  | other (message : String)
  deriving DecidableEq, Repr

def OpenFault.message : OpenFault → String
  | missing => "No such file or directory (os error 2)"
  | notDirectory => "Not a directory (os error 20)"
  | isDirectory => "Is a directory (os error 21)"
  | nameTooLong => "File name too long (os error 36)"
  | other message => message

-- Why a run stops.
inductive Failure where
  | badTimestamp (raw : String) (fault : Numeral.Fault)
  | badLine (number : Nat) (cause : Failure)
  | unreadable
  | noResults (millis : Int)
  | disagreement (millis : Int) (first other : String)
  | unopened (path : String) (fault : OpenFault)
  deriving DecidableEq, Repr

namespace Failure

-- What failed, and then what caused it.
def chain : Failure → List String
  | badTimestamp raw fault => [s!"Not an epoch millisecond value: '{raw}'", fault.message]
  | badLine number cause => s!"stdin line {number}" :: cause.chain
  | unreadable => ["Failed to read stdin", "stream did not contain valid UTF-8"]
  | noResults millis => [s!"No formatting results for {millis}"]
  | disagreement millis first other =>
    [s!"Threads disagreed on {millis}: '{first}' vs '{other}'"]
  | unopened path fault => [s!"Failed to open output file: {path}", fault.message]

-- The causes under a heading. Several causes are numbered from 0.
def causeText : List String → String
  | [] => ""
  | [cause] => s!"\n\nCaused by:\n    {cause}"
  | causes =>
    "\n\nCaused by:" ++ String.join (causes.zipIdx.map fun (cause, i) => s!"\n    {i}: {cause}")

-- The text that a failed run ends with.
def report (failure : Failure) : String :=
  match failure.chain with
  | [] => "Error: "
  | message :: causes => s!"Error: {message}" ++ causeText causes

end Failure

end EventTime
