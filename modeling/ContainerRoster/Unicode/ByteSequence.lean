import ContainerRoster.Unicode.CharSet

/-!
# Byte sequences of a set of characters

In UTF-8 the characters of a range are not simply a range of bytes. `CharSet.byteSequences` writes a
set as sequences of byte ranges: the set has a character exactly if its bytes lie in the ranges of
one of the sequences. The sequences come in increasing order and none begins another.
-/

namespace ContainerRoster.Unicode

/-- A range of bytes. -/
abbrev ByteRange := Nat × Nat

/-- How many bytes a character takes. -/
def utf8Length (point : Nat) : Nat :=
  if point < 0x80 then 1 else if point < 0x800 then 2 else if point < 0x10000 then 3 else 4

/-- The sequences for a range of numbers written in base 64 with so many digits after the first,
with a base added to the first digit and 80 to the others. A range that does not fill the blocks
of its first or last digit is cut there. -/
def digitSequences (base : Nat) : Nat → Nat → Nat → List (List ByteRange)
  | 0, low, high => [[(base + low, base + high)]]
  | count + 1, low, high =>
    let block := Nat.pow 64 (count + 1)
    let within (digit low high : Nat) : List (List ByteRange) :=
      (digitSequences 0x80 count low high).map ((base + digit, base + digit) :: ·)
    let first := low / block
    let last := high / block
    if first = last then within first (low % block) (high % block)
    else
      let startsInside := low % block != 0
      let endsInside := high % block != block - 1
      let from' := if startsInside then first + 1 else first
      let upTo := if endsInside then last - 1 else last
      (if startsInside then within first (low % block) (block - 1) else []) ++
        (if from' ≤ upTo then
          [(base + from', base + upTo) :: List.replicate (count + 1) (0x80, 0xBF)] else []) ++
        (if endsInside then within last 0 (high % block) else [])

/-- The stretches of characters that take equally many bytes: the ends, what is added to the first
digit in base 64, and the number of the other digits. -/
def encodings : List (Nat × Nat × Nat × Nat) :=
  [(0, 0x7F, 0, 0), (0x80, 0x7FF, 0xC0, 1), (0x800, 0xD7FF, 0xE0, 2), (0xE000, 0xFFFF, 0xE0, 2),
   (0x10000, 0x10FFFF, 0xF0, 3)]

namespace CharSet

/-- The sequences of byte ranges that the characters of a set are written as. -/
def byteSequences (s : CharSet) : List (List ByteRange) :=
  s.ranges.flatMap fun r => encodings.flatMap fun (low, high, base, count) =>
    match meet? r (low, high) with
    | some (low, high) => digitSequences base count low high
    | none => []

end CharSet

end ContainerRoster.Unicode
