import EventTime.Text.Quoted

namespace EventTime.Terminal

-- The controls of ASCII that ring, move back, feed a page, start a command or delete.
-- The other controls of ASCII go through, tabs and line breaks among them.
def isCommand (c : Char) : Bool :=
  c = '\x07' || c = '\x08' || c = '\x0c' || c = '\x1b' || c = '\x7f'

-- How a character is shown where it must not act on a terminal.
-- The controls beyond ASCII are commands of a terminal as well.
def encodeChar (c : Char) : List Char :=
  if isCommand c then
    ['\\', 'x', Nat.digitChar (c.toNat / 16), Nat.digitChar (c.toNat % 16)]
  else if 0x80 ≤ c.toNat ∧ c.toNat ≤ 0x9F then Quoted.byNumber c
  else [c]

-- A text that a terminal shows and does not obey.
def encode (text : List Char) : List Char := text.flatMap encodeChar

end EventTime.Terminal
