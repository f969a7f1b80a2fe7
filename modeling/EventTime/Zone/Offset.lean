import EventTime.Text.Decimal

namespace EventTime

-- A distance from UTC, in seconds to the east. It is always less than a day.
structure Offset where
  seconds : Int
  lt_day : seconds.natAbs < 86400
  deriving DecidableEq, Repr

namespace Offset

-- The offset of a number of seconds that is plainly less than a day.
def ofSeconds (seconds : Int)
    (lt_day : Nat.blt seconds.natAbs 86400 = true := by exact Eq.refl true) : Offset :=
  ⟨seconds, Nat.le_of_ble_eq_true lt_day⟩

def sign (offset : Offset) : Char := if offset.seconds < 0 then '-' else '+'

-- The whole minutes of the distance.
def minutes (offset : Offset) : Nat := offset.seconds.natAbs / 60

-- The sign and two digits of hours.
def hourText (offset : Offset) : List Char :=
  offset.sign :: Decimal.padded 2 (offset.minutes / 60 : Nat)

-- Two digits for the minutes that the hours leave.
def minuteText (offset : Offset) : List Char := Decimal.padded 2 (offset.minutes % 60 : Nat)

-- The basic form of ISO 8601, as in +0530.
def basicText (offset : Offset) : List Char := offset.hourText ++ offset.minuteText

-- The extended form of ISO 8601, as in +05:30.
def extendedText (offset : Offset) : List Char := offset.hourText ++ ':' :: offset.minuteText

-- The extended form, with the seconds behind it where there are any.
def fullText (offset : Offset) : List Char :=
  let seconds := offset.seconds.natAbs % 60
  offset.extendedText ++ if seconds = 0 then [] else ':' :: Decimal.padded 2 seconds

end Offset

end EventTime
