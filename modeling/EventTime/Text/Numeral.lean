import EventTime.Text.Decimal

namespace EventTime

-- Timestamps are counts of milliseconds since 1970-01-01T00:00:00Z that fit in 64 bits.
namespace Millis

def least : Int := -9223372036854775808

def greatest : Int := 9223372036854775807

-- The nearest count that fits.
def clamp (count : Int) : Int := max least (min greatest count)

end Millis

namespace Numeral

-- Why a text is no numeral of a 64-bit count.
inductive Fault where
  | empty
  | invalidDigit
  | tooLarge
  | tooSmall
  deriving DecidableEq, Repr

def Fault.message : Fault → String
  | .empty => "cannot parse integer from empty string"
  | .invalidDigit => "invalid digit found in string"
  | .tooLarge => "number too large to fit in target type"
  | .tooSmall => "number too small to fit in target type"

-- The value of a decimal digit.
def digitValue (c : Char) : Nat := c.toNat - '0'.toNat

-- Reads digits from the left onto `total`.
-- The first character that is no digit, or that takes the value out of range, decides.
def readDigits (negative : Bool) (total : Int) : List Char → Except Fault Int
  | [] => .ok total
  | c :: rest =>
    if c.isDigit then
      let next := if negative then 10 * total - digitValue c else 10 * total + digitValue c
      if next < Millis.least then .error .tooSmall
      else if Millis.greatest < next then .error .tooLarge
      else readDigits negative next rest
    else .error .invalidDigit

-- An optional sign and at least one digit, with any number of leading zeros.
def read : List Char → Except Fault Int
  | [] => .error .empty
  | ['+'] => .error .invalidDigit
  | ['-'] => .error .invalidDigit
  | '+' :: digits => readDigits false 0 digits
  | '-' :: digits => readDigits true 0 digits
  | digits => readDigits false 0 digits

-- The value of a nonempty text of digits.
def natural? (digits : List Char) : Option Nat :=
  if digits ≠ [] ∧ digits.all Char.isDigit then some (Nat.ofDigitChars 10 digits 0) else none

-- A natural number below 2 ^ 64, which may carry a plus sign.
def count? (text : List Char) : Option Nat :=
  let digits := match text with
    | '+' :: digits => digits
    | digits => digits
  (natural? digits).filter (· < 18446744073709551616)

end Numeral

end EventTime
