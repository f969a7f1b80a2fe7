namespace EventTime

-- What a run of letters in a template stands for.
inductive Field where
  | era
  | year
  | weekYear
  | month
  | weekOfYear
  | weekOfMonth
  | dayOfYear
  | day
  | weekdayOfMonth
  | weekday
  | weekdayNumber
  | halfDay
  | hourFrom0To23
  | hourFrom1To24
  | hourFrom0To11
  | hourFrom1To12
  | minute
  | second
  | milli
  | zoneName
  | zoneOffset
  | isoOffset
  deriving DecidableEq, Repr

namespace Field

-- The field that a letter selects. The letters M and L select the same one.
def ofLetter? : Char → Option Field
  | 'G' => some .era
  | 'y' => some .year
  | 'Y' => some .weekYear
  | 'M' => some .month
  | 'L' => some .month
  | 'w' => some .weekOfYear
  | 'W' => some .weekOfMonth
  | 'D' => some .dayOfYear
  | 'd' => some .day
  | 'F' => some .weekdayOfMonth
  | 'E' => some .weekday
  | 'u' => some .weekdayNumber
  | 'a' => some .halfDay
  | 'H' => some .hourFrom0To23
  | 'k' => some .hourFrom1To24
  | 'K' => some .hourFrom0To11
  | 'h' => some .hourFrom1To12
  | 'm' => some .minute
  | 's' => some .second
  | 'S' => some .milli
  | 'z' => some .zoneName
  | 'Z' => some .zoneOffset
  | 'X' => some .isoOffset
  | _ => none

-- The letter that a field is written with.
def letter : Field → Char
  | era => 'G'
  | year => 'y'
  | weekYear => 'Y'
  | month => 'M'
  | weekOfYear => 'w'
  | weekOfMonth => 'W'
  | dayOfYear => 'D'
  | day => 'd'
  | weekdayOfMonth => 'F'
  | weekday => 'E'
  | weekdayNumber => 'u'
  | halfDay => 'a'
  | hourFrom0To23 => 'H'
  | hourFrom1To24 => 'k'
  | hourFrom0To11 => 'K'
  | hourFrom1To12 => 'h'
  | minute => 'm'
  | second => 's'
  | milli => 'S'
  | zoneName => 'z'
  | zoneOffset => 'Z'
  | isoOffset => 'X'

theorem ofLetter?_letter (field : Field) : ofLetter? field.letter = some field := by
  cases field <;> rfl

end Field

end EventTime
