import EventTime.Text.Unprinted

namespace EventTime.Quoted

-- A character by its number, in lower-case hexadecimal digits.
def byNumber (c : Char) : List Char :=
  ['\\', 'u', '\x7b'] ++ Nat.toDigits 16 c.toNat ++ ['\x7d']

-- How a character stands between double quotes.
def encodeChar (c : Char) : List Char :=
  match c with
  | '"' => ['\\', '"']
  | '\\' => ['\\', '\\']
  | '\t' => ['\\', 't']
  | '\n' => ['\\', 'n']
  | '\r' => ['\\', 'r']
  | '\x00' => ['\\', '0']
  | c =>
    if c.toNat < 0x20 ∨ c.toNat = 0x7F then byNumber c
    else if c.toNat < 0x7F then [c]
    else if Text.isUnprinted c then byNumber c
    else [c]

-- A text between double quotes, on one line and without characters that print nothing.
def encode (text : List Char) : List Char := '"' :: text.flatMap encodeChar ++ ['"']

end EventTime.Quoted
