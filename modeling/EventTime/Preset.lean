import EventTime.Template.Basic
import EventTime.Text.Caseless

namespace EventTime

-- The formats that have a keyword.
inductive Preset where
  | standard
  | iso8601
  | iso8601Basic
  | absolute
  | date
  | compact
  | epochSeconds
  | epochMillis
  deriving DecidableEq, Repr

namespace Preset

-- In the order in which they are listed.
def all : List Preset :=
  [standard, iso8601, iso8601Basic, absolute, date, compact, epochSeconds, epochMillis]

def keyword : Preset → String
  | standard => "DEFAULT"
  | iso8601 => "ISO8601"
  | iso8601Basic => "ISO8601_BASIC"
  | absolute => "ABSOLUTE"
  | date => "DATE"
  | compact => "COMPACT"
  | epochSeconds => "UNIX"
  | epochMillis => "UNIX_MILLIS"

-- The template that the keyword stands for. Epoch numbers have none.
def template? : Preset → Option String
  | standard => some Template.standard.source
  | iso8601 => some "yyyy-MM-dd'T'HH:mm:ss,SSS"
  | iso8601Basic => some "yyyyMMdd'T'HHmmss,SSS"
  | absolute => some "HH:mm:ss,SSS"
  | date => some "dd MMM yyyy HH:mm:ss,SSS"
  | compact => some "yyyyMMddHHmmssSSS"
  | epochSeconds => none
  | epochMillis => none

-- The preset of a keyword, which may be in letters of either case.
def find? (keyword : String) : Option Preset :=
  all.find? fun preset => Text.sameLetters preset.keyword.toList keyword.toList

theorem mem_all (preset : Preset) : preset ∈ all := by
  cases preset <;> decide

end Preset

end EventTime
