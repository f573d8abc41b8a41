import ContainerRoster.Json.Basic
import ContainerRoster.Json.Raw

/-!
# The meaning of a JSON text

Decoding gives strings their characters and numbers their value. It fails where there is none: a
byte that belongs to no character, half of a pair of surrogates, a number too large for binary
floating point, or brackets nested too deep.
-/

namespace ContainerRoster.Json.Raw

def isHighSurrogate (n : Nat) : Bool := 0xD800 ≤ n && n < 0xDC00

def isLowSurrogate (n : Nat) : Bool := 0xDC00 ≤ n && n < 0xE000

/-- The characters of a string. -/
def decodePieces : List Piece → Option (List Char)
  | [] => some []
  | .plain (some c) :: rest => (decodePieces rest).map (c :: ·)
  | .plain none :: _ => none
  | .short c :: rest => (decodePieces rest).map (c :: ·)
  | .unit a :: .unit b :: rest =>
    if isHighSurrogate a then
      if isLowSurrogate b then
        let c := Char.ofNat (0x10000 + (a - 0xD800) * 0x400 + (b - 0xDC00))
        (decodePieces rest).map (c :: ·)
      else none
    else if isLowSurrogate a then none
    else (decodePieces (.unit b :: rest)).map (Char.ofNat a :: ·)
  | .unit a :: rest =>
    if isHighSurrogate a || isLowSurrogate a then none
    else (decodePieces rest).map (Char.ofNat a :: ·)

def decodeString (pieces : List Piece) : Option String := (decodePieces pieces).map String.ofList

namespace Numeral

/-- The largest significand that is collected exactly. -/
def greatestSignificand : Nat := Nat.pow 2 64 - 1

/-- Collect the digits before the point; those that no longer fit are counted. -/
def collectWhole (significand : Nat) : List Char → Nat × Nat
  | [] => (significand, 0)
  | c :: rest =>
    if significand * 10 + Decimal.digitValue c ≤ greatestSignificand then
      collectWhole (significand * 10 + Decimal.digitValue c) rest
    else (significand, rest.length + 1)

/-- Collect digits after the point as long as they fit, and count them. -/
def collectFraction (significand : Nat) : List Char → Nat × Nat
  | [] => (significand, 0)
  | c :: rest =>
    if significand * 10 + Decimal.digitValue c ≤ greatestSignificand then
      let (s, n) := collectFraction (significand * 10 + Decimal.digitValue c) rest
      (s, n + 1)
    else (significand, 0)

/-- The largest exponent that is read. -/
def greatestExponent : Nat := Nat.pow 2 31 - 1

/-- The binary number for a significand and a decimal exponent with the written exponent added. -/
def real? (negative : Bool) (significand : Nat) (shift : Int) :
    Option (Bool × List Char) → Option Decimal.Binary
  | none => Decimal.Binary.scale? negative significand shift
  | some (down, digits) =>
    let e := Decimal.value digits
    if e ≤ greatestExponent then
      Decimal.Binary.scale? negative significand (if down then shift - e else shift + e)
    else if significand = 0 || down then some (.zero negative)
    else none

/-- An integer within 64 bits stays one; any other number becomes a binary one, if it is finite. -/
def decode (n : Numeral) : Option Number :=
  let (significand, dropped) := collectWhole 0 n.whole
  if n.fraction.isNone && n.exponent.isNone && dropped == 0 then
    if !n.negative then some (.integer significand)
    else if 0 < significand && significand ≤ Nat.pow 2 63 then some (.integer (-significand))
    else (Decimal.Binary.ofQuotient? true significand 1).map .real
  else
    let (significand, taken) := collectFraction significand (n.fraction.getD [])
    (real? n.negative significand ((dropped : Int) - taken) n.exponent).map .real

end Numeral

mutual

/-- The value of a tree with no more than so many brackets inside one another. -/
def decode (depth : Nat) : Raw → Option Json
  | .null => some .null
  | .bool b => some (.bool b)
  | .number n => n.decode.map .number
  | .string pieces => (decodeString pieces).map .string
  | .array items =>
    if depth = 0 then none else (decodeItems (depth - 1) items).map .array
  | .object members =>
    if depth = 0 then none else (decodeMembers (depth - 1) members).map .object

def decodeItems (depth : Nat) : List Raw → Option (List Json)
  | [] => some []
  | item :: rest => do
    let value ← decode depth item
    let values ← decodeItems depth rest
    return value :: values

def decodeMembers (depth : Nat) : List (List Piece × Raw) → Option (List (String × Json))
  | [] => some []
  | (key, item) :: rest => do
    let name ← decodeString key
    let value ← decode depth item
    let values ← decodeMembers depth rest
    return (name, value) :: values

end

end ContainerRoster.Json.Raw
