namespace EventTime.Lines

-- A carriage return at the end of a line belongs to the line break.
def dropReturn (line : List UInt8) : List UInt8 :=
  if line.getLast? = some 13 then line.dropLast else line

-- Cuts bytes at each line feed.
-- Bytes behind the last line feed are a line of their own, with any carriage return kept.
def split (bytes : List UInt8) : List (List UInt8) :=
  match h : bytes.dropWhile (· ≠ 10) with
  | [] => if bytes.isEmpty then [] else [bytes]
  | _ :: rest =>
    have : rest.length < bytes.length := by
      have := (List.dropWhile_suffix (l := bytes) (· ≠ 10)).length_le
      rw [h, List.length_cons] at this
      omega
    dropReturn (bytes.takeWhile (· ≠ 10)) :: split rest
termination_by bytes.length

-- The text of a line, if its bytes are UTF-8.
def decode? (line : List UInt8) : Option String := String.fromUTF8? ⟨line.toArray⟩

def encode (text : String) : List UInt8 := text.toUTF8.data.toList

-- The first line of a text.
def first (text : String) : String := ((split (encode text)).head?.bind decode?).getD ""

end EventTime.Lines
