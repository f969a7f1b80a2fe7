import EventTime.Stamper.Basic
import EventTime.Text.Blank
import EventTime.Text.Lines
import EventTime.Timestamp

namespace EventTime

-- An instant to stamp, or the failure to tell which.
abbrev Input := Except Failure Timestamp

namespace Input

-- The input on a line of that number. A blank line holds none.
-- Blanks around a timestamp do not count.
def ofLine? (number : Nat) (line : List UInt8) : Option Input :=
  match Lines.decode? line with
  | none => some (.error .unreadable)
  | some text =>
    let raw := Text.trimmed text
    if raw = "" then none else some ((Timestamp.read raw).mapError (.badLine number))

-- The inputs on the lines of a stream. Lines are numbered from 1, and blank ones count.
def ofBytes (bytes : List UInt8) : List Input :=
  (Lines.split bytes).zipIdx.filterMap fun (line, index) => ofLine? (index + 1) line

end Input

namespace Stamper

-- Puts a line for each input behind what is written already.
-- The first failure ends the run and leaves what was written before it.
def run (stamper : Stamper) (threads : Nat) (clock : Int) (out : String) :
    List Input → Stamper × String × Option Failure
  | [] => (stamper, out, none)
  | .error failure :: _ => (stamper, out, some failure)
  | .ok timestamp :: rest =>
    match stamper.shared (timestamp.millis clock) threads with
    | (stamper, .error failure) => (stamper, out, some failure)
    | (stamper, .ok text) => stamper.run threads clock (out ++ text ++ "\n") rest

end Stamper

end EventTime
