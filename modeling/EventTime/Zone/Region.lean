import EventTime.Zone.Offset

namespace EventTime

-- A way to count local time, and the letters that stand for it.
structure Reckoning where
  offset : Offset
  abbreviation : String
  deriving DecidableEq, Repr

-- From `second` on, in seconds after 1970-01-01T00:00:00Z, the new reckoning holds.
structure Change where
  second : Int
  reckoning : Reckoning
  deriving DecidableEq, Repr

-- How a place has counted its time: at first, and after each change, the earlier changes first.
structure History where
  initial : Reckoning
  changes : List Change
  deriving DecidableEq, Repr

namespace History

-- The reckoning after the changes up to `second`, where `current` holds before them.
def reckoningFrom (current : Reckoning) (second : Int) : List Change → Reckoning
  | [] => current
  | change :: later =>
    if change.second ≤ second then reckoningFrom change.reckoning second later else current

-- The reckoning in force at a second. The last one holds for ever.
def reckoningAt (history : History) (second : Int) : Reckoning :=
  reckoningFrom history.initial second history.changes

end History

-- A place of the time zone database.
structure Region where
  id : String
  history : History
  deriving DecidableEq, Repr

end EventTime
