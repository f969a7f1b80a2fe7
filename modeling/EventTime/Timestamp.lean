import EventTime.Failure
import EventTime.Text.Caseless

namespace EventTime

-- An instant that is asked for: the present one, or a given one.
inductive Timestamp where
  | now
  | at (millis : Int)
  deriving DecidableEq, Repr

namespace Timestamp

def millis (clock : Int) : Timestamp → Int
  | now => clock
  | .at millis => millis

-- The word now, in letters of either case, or a numeral.
def read (raw : String) : Except Failure Timestamp :=
  if Text.sameLetters raw.toList ['n', 'o', 'w'] then .ok now
  else
    match Numeral.read raw.toList with
    | .ok millis => .ok (.at millis)
    | .error fault => .error (.badTimestamp raw fault)

end Timestamp

end EventTime
