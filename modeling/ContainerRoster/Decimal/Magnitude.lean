import ContainerRoster.Decimal.Binary
import ContainerRoster.Decimal.Bounded

/-!
# Decimal numbers too large for binary floating point

Digits and a power of ten tell roughly how large a number is. Only near the largest finite number
is the number itself worked out, so that a long exponent costs nothing.
-/

namespace ContainerRoster.Decimal

/-- Whether digits times a power of ten round to no finite number. -/
def overflows (digits : List Char) (exponent : Int) : Bool :=
  let digits := digits.dropWhile (· == '0')
  if digits.isEmpty then false
  else
    let size := (digits.length : Int) + exponent
    if size > 310 then true
    else if size < 308 then false
    else
      let n := value digits
      if exponent ≥ 0 then
        (Binary.ofQuotient? false (n * Nat.pow 10 exponent.toNat) 1).isNone
      else (Binary.ofQuotient? false n (Nat.pow 10 (-exponent).toNat)).isNone

end ContainerRoster.Decimal
