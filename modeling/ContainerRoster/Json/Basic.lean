import ContainerRoster.Decimal.Bounded
import ContainerRoster.Decimal.Shortest

/-!
# JSON values

A number is kept as an integer where it was written as one within 64 bits, and as a binary number
otherwise; both have one text. Objects keep their members in the order written, and looking up a
key finds its last member.
-/

namespace ContainerRoster

inductive Json.Number
  | integer (n : Int)
  | real (x : Decimal.Binary)
  deriving DecidableEq, Repr

inductive Json
  | null
  | bool (b : Bool)
  | number (n : Json.Number)
  | string (s : String)
  | array (items : List Json)
  | object (members : List (String × Json))
  deriving Repr

namespace Json

/-- The least power of ten above which a real number is written with an exponent, counted by its
first digit. -/
def positionalBelow : Int := 16

/-- The least power of ten of the first digit of a real number that is written without an
exponent. -/
def positionalFrom : Int := -5

/-- A positive real number: its digits around a point, or one digit before the point and an
exponent. -/
def realText (scaled : Decimal.Scaled) : List Char :=
  let written := Decimal.digits scaled.digits
  -- Zeros at the end belong to the exponent.
  let digits := (written.reverse.dropWhile (· == '0')).reverse
  let last := scaled.exponent + (written.length - digits.length : Nat)
  let first := last + (digits.length : Int) - 1
  if positionalFrom ≤ first ∧ first < positionalBelow then
    if last ≥ 0 then digits ++ List.replicate last.toNat '0' ++ ['.', '0']
    else if first ≥ 0 then
      digits.take (first.toNat + 1) ++ '.' :: digits.drop (first.toNat + 1)
    else '0' :: '.' :: (List.replicate (-first - 1).toNat '0' ++ digits)
  else
    let mantissa :=
      match digits with
      | d :: rest => if rest.isEmpty then [d] else d :: '.' :: rest
      | [] => []
    mantissa ++ 'e' :: (if first < 0 then '-' else '+') :: Decimal.digits first.natAbs

def Number.text : Number → List Char
  | .integer n => if n < 0 then '-' :: Decimal.digits n.natAbs else Decimal.digits n.natAbs
  | .real x =>
    let magnitude := if x.isZero then ['0', '.', '0'] else realText (Decimal.shortest x)
    if x.negative then '-' :: magnitude else magnitude

/-- The value of a key: that of its last member. -/
def lookup (key : String) (members : List (String × Json)) : Option Json :=
  (members.reverse.find? fun m => m.1 == key).map (·.2)

/-- The text of a string or a number; other values have none. -/
def scalar? : Json → Option String
  | .string s => some s
  | .number n => some (String.ofList n.text)
  | _ => none

end Json

end ContainerRoster
