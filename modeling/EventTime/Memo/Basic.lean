import EventTime.Style

namespace EventTime

-- An instant and its text.
structure Entry where
  millis : Int
  text : String
  deriving DecidableEq, Repr

-- The entry that a style writes for an instant.
def Style.entry (style : Style) (millis : Int) : Entry := ⟨millis, style.write millis⟩

-- What a call answers when another call has replaced the entry before it could:
-- the text that it has written itself, or the text that is installed by then.
inductive Policy where
  | own
  | installed
  deriving DecidableEq, Repr

-- Remembers the text of the last instant, as events in a burst often share theirs.
structure Memo where
  style : Style
  policy : Policy
  entry : Entry
  deriving DecidableEq, Repr

namespace Memo

-- A new memo remembers the instant `seed`, so that it always has an entry.
def ofStyle (style : Style) (policy : Policy) (seed : Int) : Memo :=
  { style, policy, entry := style.entry seed }

-- The text of an instant.
-- It is copied if the instant is the remembered one, and else written and remembered.
def get (memo : Memo) (millis : Int) : Memo × String :=
  if memo.entry.millis = millis then (memo, memo.entry.text)
  else
    let fresh := memo.style.entry millis
    ({ memo with entry := fresh }, fresh.text)

-- Puts the text of an instant behind what is written already.
def append (memo : Memo) (millis : Int) (out : String) : Memo × String :=
  let (memo, text) := memo.get millis
  (memo, out ++ text)

-- The texts of instants, one call after another.
def getAll (memo : Memo) : List Int → Memo × List String
  | [] => (memo, [])
  | millis :: rest =>
    let (memo, text) := memo.get millis
    let (memo, texts) := memo.getAll rest
    (memo, text :: texts)

end Memo

end EventTime
