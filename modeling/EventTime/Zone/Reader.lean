import EventTime.Text.Blank
import EventTime.Text.Caseless
import EventTime.Text.Numeral
import EventTime.Zone.Basic

namespace EventTime

namespace Offset

-- An offset may be marked as one from GMT or UTC, in letters of either case.
def dropMark (text : List Char) : List Char :=
  match text with
  | a :: b :: c :: rest =>
    if Text.sameLetters [a, b, c] ['G', 'M', 'T'] || Text.sameLetters [a, b, c] ['U', 'T', 'C']
    then rest else text
  | _ => text

-- The digits of the hours and of the minutes.
-- A colon divides them. Without one, the last two of three or more digits are the minutes.
def divide (digits : List Char) : List Char × List Char :=
  if ':' ∈ digits then (digits.takeWhile (· ≠ ':'), (digits.dropWhile (· ≠ ':')).drop 1)
  else if digits.length ≤ 2 then (digits, ['0'])
  else (digits.take (digits.length - 2), digits.drop (digits.length - 2))

-- The offset of that many hours and minutes.
def ofHours? (isWest : Bool) (hours minutes : Nat) : Option Offset :=
  if h : hours ≤ 23 ∧ minutes ≤ 59 then
    let distance : Int := 3600 * hours + 60 * minutes
    if isWest then some ⟨-distance, by omega⟩ else some ⟨distance, by omega⟩
  else none

def ofDigits? (isWest : Bool) (digits : List Char) : Option Offset :=
  let parts := divide digits
  match Numeral.natural? parts.1, Numeral.natural? parts.2 with
  | some hours, some minutes => ofHours? isWest hours minutes
  | _, _ => none

-- An optional mark, a sign, and hours with or without minutes.
def ofText? (text : List Char) : Option Offset :=
  match dropMark text with
  | '+' :: digits => ofDigits? false digits
  | '-' :: digits => ofDigits? true digits
  | _ => none

end Offset

namespace Zone

-- The zone of a text without blanks around it.
-- An id of the database comes before an offset.
def ofId? (id : List Char) : Option Zone :=
  match Region.find? (String.ofList id) with
  | some place => some (.region place)
  | none => (Offset.ofText? id).map .fixed

-- The zone that an option asks for, and the id that had to be given up if it names no zone.
-- No text, and a blank one, ask for the zone of the host.
def ofOption (option : Option String) : Zone × Option String :=
  let id := Text.trim (option.getD "").toList
  if id = [] then (.host, none)
  else
    match ofId? id with
    | some zone => (zone, none)
    | none => (.region .gmt, some (String.ofList id))

end Zone

end EventTime
