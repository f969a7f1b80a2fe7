import EventTime.Failure
import EventTime.Memo.Basic
import EventTime.Moment

namespace EventTime

-- Writes the times of log events, and dates of other kinds, in the style of its options.
structure Stamper where
  memo : Memo
  deriving DecidableEq, Repr

-- The text that all results agree on.
def agreed (millis : Int) : List String → Except Failure String
  | [] => .error (.noResults millis)
  | first :: rest =>
    match rest.find? (· ≠ first) with
    | some other => .error (.disagreement millis first other)
    | none => .ok first

namespace Stamper

-- The words by which the layout of a log line calls for a stamper.
def keys : List String := ["d", "date"]

def name : String := "Date"

-- The class that a layout with style sheets gives to the text of a stamper.
def layoutClass : String := "date"

-- There is a stamper for all options, with warnings about those that cannot be used.
def ofList (options : List String) (policy : Policy) (seed : Int) : Stamper × List Warning :=
  let (style, warnings) := Style.ofSelection (Selection.ofList options)
  (⟨Memo.ofStyle style policy seed⟩, warnings)

def template? (stamper : Stamper) : Option String := stamper.memo.style.template?

-- Puts the text of an instant behind what is written already.
def write (stamper : Stamper) (millis : Int) (out : String) : Stamper × String :=
  let (memo, out) := stamper.memo.append millis out
  (⟨memo⟩, out)

def writeEvent (stamper : Stamper) (event : Event) (out : String) : Stamper × String :=
  stamper.write event.millis out

def writeMoment (stamper : Stamper) (moment : Moment) (out : String) : Stamper × String :=
  stamper.write moment.millis out

-- A value that is no date is passed over.
def writeValue (stamper : Stamper) (value : Value) (out : String) : Stamper × String :=
  match value.millis? with
  | some millis => stamper.write millis out
  | none => (stamper, out)

-- Of several values, the first date counts.
def writeFirst (stamper : Stamper) (values : List Value) (out : String) : Stamper × String :=
  match values.findSome? Value.millis? with
  | some millis => stamper.write millis out
  | none => (stamper, out)

-- The text of an instant that several threads agree on.
-- Up to one thread, there is nobody to disagree with.
def shared (stamper : Stamper) (millis : Int) (threads : Nat) : Stamper × Except Failure String :=
  if threads ≤ 1 then
    let (memo, text) := stamper.memo.get millis
    (⟨memo⟩, .ok text)
  else
    let (memo, texts) := stamper.memo.getAll (List.replicate threads millis)
    (⟨memo⟩, agreed millis texts)

end Stamper

end EventTime
