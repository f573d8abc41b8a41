import ContainerRoster.Text.Digit

/-!
# Decimal numbers with a bound

Numbers in files and flags are read digit by digit, and the first thing wrong decides what is
reported: a character that is no digit, or a digit that takes the number past its bound.
-/

namespace ContainerRoster.Decimal

/-- Why a text is no number within its bound. -/
inductive NumberError
  | empty
  | invalidDigit
  | tooLarge
  deriving DecidableEq, Repr

def NumberError.message : NumberError → String
  | .empty => "cannot parse integer from empty string"
  | .invalidDigit => "invalid digit found in string"
  | .tooLarge => "number too large to fit in target type"

/-- Read digits on from a value, staying below the bound. -/
def digitsBelow (bound value : Nat) : List Char → Except NumberError Nat
  | [] => .ok value
  | c :: rest =>
    match Text.digit? 10 c with
    | none => .error .invalidDigit
    | some d =>
      if value * 10 + d < bound then digitsBelow bound (value * 10 + d) rest
      else .error .tooLarge

/-- A number below the bound; one plus sign may stand in front of the digits. -/
def readBelow (bound : Nat) : List Char → Except NumberError Nat
  | [] => .error .empty
  | ['+'] => .error .invalidDigit
  | '+' :: digits => digitsBelow bound 0 digits
  | digits => digitsBelow bound 0 digits

/-- The decimal digits of a number, without leading zeros. -/
def digits (n : Nat) : List Char := Nat.toDigits 10 n

/-- The value of a decimal digit. -/
def digitValue (c : Char) : Nat := c.toNat - '0'.toNat

/-- The number that decimal digits write. -/
def value (digits : List Char) : Nat := Text.ofDigits 10 (digits.map digitValue)

end ContainerRoster.Decimal
