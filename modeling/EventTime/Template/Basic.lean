import EventTime.Template.Item

namespace EventTime

-- What is written in one go: a text as it stands, or a field of the instant.
inductive Piece where
  | text (chars : List Char)
  | field (kind : Field) (width : Nat)
  deriving DecidableEq, Repr

-- A text with fields, and the way it was written down.
structure Template where
  source : String
  pieces : List Piece
  deriving DecidableEq, Repr

def Item.piece : Item → Piece
  | .quote => .text ['\'']
  | .quoted text => .text text
  | .run _ field width => .field field width
  | .plain char => .text [char]

namespace Piece

-- A text joins a text that follows it.
def cons : Piece → List Piece → List Piece
  | .text first, .text second :: rest => .text (first ++ second) :: rest
  | piece, rest => piece :: rest

-- Joins all texts that follow each other.
def join (pieces : List Piece) : List Piece := pieces.foldr cons []

end Piece

namespace Template

-- Reads a template, or tells the first fault.
def parse (source : String) : Except Fault Template :=
  (Item.readAll 0 source.toList).map fun items =>
    { source, pieces := Piece.join (items.map Item.piece) }

-- Date and time to the millisecond, for want of a better template.
def standard : Template :=
  { source := "yyyy-MM-dd HH:mm:ss,SSS"
    pieces :=
      [ .field .year 4, .text ['-'], .field .month 2, .text ['-'], .field .day 2, .text [' '],
        .field .hourFrom0To23 2, .text [':'], .field .minute 2, .text [':'], .field .second 2,
        .text [','], .field .milli 3 ] }

end Template

end EventTime
