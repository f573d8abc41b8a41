/-!
# Binary floating point

Finite numbers with a mantissa of 53 bits, kept as sign, mantissa and exponent so that every
operation is exact arithmetic on natural numbers followed by one rounding. A quotient of natural
numbers rounds to the nearest such number, a tie to the even mantissa; what is too large has no
value.
-/

namespace ContainerRoster.Decimal

/-- The number `mantissa * 2 ^ exponent`, negated if so marked. The mantissa has 53 bits, or fewer
when the exponent is the least one. -/
structure Binary where
  negative : Bool
  mantissa : Nat
  exponent : Int
  deriving DecidableEq, Repr

namespace Binary

/-- The exponent of the numbers closest to zero. -/
def leastExponent : Int := -1074

/-- The largest exponent of a finite number. -/
def greatestExponent : Int := 971

def zero (negative : Bool) : Binary := ⟨negative, 0, leastExponent⟩

def isZero (x : Binary) : Bool := x.mantissa == 0

/-- The nearest natural number to a quotient, a tie going to the even one. -/
def nearest (num den : Nat) : Nat :=
  let q := num / den
  let r := num % den
  if 2 * r < den then q
  else if den < 2 * r then q + 1
  else if q % 2 = 0 then q else q + 1

/-- The power of two at or below a positive quotient. -/
def log (num den : Nat) : Int :=
  let guess : Int := num.log2 - den.log2
  let reached :=
    if guess ≥ 0 then den * Nat.pow 2 guess.toNat ≤ num
    else den ≤ num * Nat.pow 2 (-guess).toNat
  if reached then guess else guess - 1

/-- The nearest number to a quotient, if that is finite. -/
def ofQuotient? (negative : Bool) (num den : Nat) : Option Binary :=
  if num = 0 then some (zero negative)
  else
    let exponent := max (log num den - 52) leastExponent
    let mantissa :=
      if exponent ≥ 0 then nearest num (den * Nat.pow 2 exponent.toNat)
      else nearest (num * Nat.pow 2 (-exponent).toNat) den
    let (mantissa, exponent) :=
      if mantissa = Nat.pow 2 53 then (Nat.pow 2 52, exponent + 1) else (mantissa, exponent)
    if exponent > greatestExponent then none else some ⟨negative, mantissa, exponent⟩

/-- The number without its sign, as a numerator and a denominator. -/
def quotient (x : Binary) : Nat × Nat :=
  if x.exponent ≥ 0 then (x.mantissa * Nat.pow 2 x.exponent.toNat, 1)
  else (x.mantissa, Nat.pow 2 (-x.exponent).toNat)

/-- The product with a number that is not negative. -/
def mul? (x y : Binary) : Option Binary :=
  let (a, b) := x.quotient
  let (c, d) := y.quotient
  ofQuotient? x.negative (a * c) (b * d)

/-- The quotient by a positive number. -/
def div? (x y : Binary) : Option Binary :=
  let (a, b) := x.quotient
  let (c, d) := y.quotient
  ofQuotient? x.negative (a * d) (b * c)

/-- The nearest number to a power of ten. -/
def pow10? (n : Nat) : Option Binary := ofQuotient? false (Nat.pow 10 n) 1

/-- The largest power of ten that is finite. -/
def greatestPow10 : Nat := 308

/-- Divide by a power of ten, in steps of the largest one. Two of them take every 64-bit number to
zero, so the number of steps is bounded. -/
def divPow10? (x : Binary) (n : Nat) : Nat → Option Binary
  | 0 => some (zero x.negative)
  | steps + 1 =>
    if n ≤ greatestPow10 then do
      x.div? (← pow10? n)
    else if x.isZero then some x
    else do
      let y ← x.div? (← pow10? greatestPow10)
      y.divPow10? (n - greatestPow10) steps

/-- A significand times a power of ten: both are rounded first and then multiplied or divided, so
the result may differ from the nearest number by a little. -/
def scale? (negative : Bool) (significand : Nat) (exponent : Int) : Option Binary := do
  let x ← ofQuotient? negative significand 1
  if exponent ≥ 0 then
    if exponent.toNat ≤ greatestPow10 then x.mul? (← pow10? exponent.toNat)
    else if x.isZero then some x else none
  else
    x.divPow10? (-exponent).toNat 4

end Binary

end ContainerRoster.Decimal
