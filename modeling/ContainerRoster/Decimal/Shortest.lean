import ContainerRoster.Decimal.Binary

/-!
# The fewest digits that read back

A binary number is written with the fewest decimal digits that tell it from its neighbours: those
of a decimal number inside the interval of reals that round to it. Of several such numbers with
equally many digits the nearest is taken. The ends of the interval belong to it when the mantissa
is even.
-/

namespace ContainerRoster.Decimal

/-- The decimal number `digits * 10 ^ exponent`. -/
structure Scaled where
  digits : Nat
  exponent : Int
  deriving DecidableEq, Repr

namespace Shortest

/-- The power of ten at or below a positive quotient. -/
def log10 (num den : Nat) : Int :=
  if den ≤ num then ((Nat.toDigits 10 (num / den)).length : Int) - 1
  else Int.neg (Nat.toDigits 10 ((den + num - 1) / num - 1)).length

/-- The interval of a number in quarters of its last place: its lower end, itself and its upper
end. Below the least mantissa of an exponent the neighbour is only half as far. -/
def quarters (x : Binary) : Nat × Nat × Nat :=
  let m := 4 * x.mantissa
  let below := if x.mantissa = Nat.pow 2 52 ∧ x.exponent > Binary.leastExponent then 1 else 2
  (m - below, m, m + 2)

/-- Of the two numbers next to `x` with the given decimal exponent, the nearer one that rounds to
it. -/
def candidate? (x : Binary) (exponent : Int) : Option Scaled :=
  let (low, here, high) := quarters x
  let place := x.exponent - 2
  -- Both sides are made whole: `n` stands for `n * unit` and a quarter for `quarter`.
  let unit := Nat.pow 10 exponent.toNat * Nat.pow 2 (-place).toNat
  let quarter := Nat.pow 10 (-exponent).toNat * Nat.pow 2 place.toNat
  let within (n : Nat) : Bool :=
    if x.mantissa % 2 = 0 then low * quarter ≤ n * unit && n * unit ≤ high * quarter
    else low * quarter < n * unit && n * unit < high * quarter
  let n := here * quarter / unit
  let below := here * quarter - n * unit
  let above := (n + 1) * unit - here * quarter
  match within n, within (n + 1) with
  | true, true =>
    some ⟨if below < above || (below == above && n % 2 == 0) then n else n + 1, exponent⟩
  | true, false => some ⟨n, exponent⟩
  | false, true => some ⟨n + 1, exponent⟩
  | false, false => none

end Shortest

/-- The shortest decimal that reads back as a positive number. Seventeen digits always do. -/
def shortest (x : Binary) : Scaled :=
  let (num, den) := x.quotient
  let top := Shortest.log10 num den
  let found := (List.range 17).findSome? fun (n : Nat) => Shortest.candidate? x (top - n)
  found.getD ⟨0, 0⟩

end ContainerRoster.Decimal
