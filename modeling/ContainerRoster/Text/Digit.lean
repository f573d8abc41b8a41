/-!
# Digits

The values of digits in the bases up to sixteen, in either case, and the numbers that digits
write.
-/

namespace ContainerRoster.Text

/-- The value of a digit below the base. -/
def digit? (base : Nat) (c : Char) : Option Nat :=
  let value :=
    if c.isDigit then some (c.toNat - '0'.toNat)
    else if 'a' ≤ c ∧ c ≤ 'f' then some (c.toNat - 'a'.toNat + 10)
    else if 'A' ≤ c ∧ c ≤ 'F' then some (c.toNat - 'A'.toNat + 10)
    else none
  value.filter (· < base)

/-- The number whose digits have the given values. -/
def ofDigits (base : Nat) (values : List Nat) : Nat := values.foldl (fun n d => n * base + d) 0

/-- The number that one or more digits write. -/
def number? (base : Nat) (cs : List Char) : Option Nat :=
  if cs.isEmpty then none else (cs.mapM (digit? base)).map (ofDigits base)

end ContainerRoster.Text
