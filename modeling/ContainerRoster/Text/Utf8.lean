/-!
# Bytes as text

A file holds bytes. `Utf8.decode` reads them as a list in which a character stands where bytes
spell one and `none` stands for a byte that belongs to no character, so that a reader of a format
may go on past bytes that it does not look at. `Utf8.text?` is the stricter view: the characters,
if all bytes belong to some.
-/

namespace ContainerRoster.Utf8

/-- The low six bits of a continuation byte. -/
def continuation? (b : UInt8) : Option Nat :=
  if 0x80 ≤ b.toNat ∧ b.toNat < 0xC0 then some (b.toNat - 0x80) else none

/-- A number as a character, unless a shorter spelling exists or the number is no character. -/
def scalar? (least n : Nat) : Option Char :=
  if h : least ≤ n ∧ n.isValidChar then some (Char.ofNatAux n h.2) else none

/-- The character that a first byte and the bytes after it spell, and how many of those it uses. -/
def spelled? (lead : UInt8) (rest : List UInt8) : Option (Char × Nat) :=
  let a := lead.toNat
  if a < 0x80 then
    (scalar? 0 a).map (·, 0)
  else if 0xC0 ≤ a ∧ a < 0xE0 then do
    let x ← rest[0]? >>= continuation?
    let c ← scalar? 0x80 ((a - 0xC0) * 64 + x)
    return (c, 1)
  else if 0xE0 ≤ a ∧ a < 0xF0 then do
    let x ← rest[0]? >>= continuation?
    let y ← rest[1]? >>= continuation?
    let c ← scalar? 0x800 (((a - 0xE0) * 64 + x) * 64 + y)
    return (c, 2)
  else if 0xF0 ≤ a ∧ a < 0xF8 then do
    let x ← rest[0]? >>= continuation?
    let y ← rest[1]? >>= continuation?
    let z ← rest[2]? >>= continuation?
    let c ← scalar? 0x10000 ((((a - 0xF0) * 64 + x) * 64 + y) * 64 + z)
    return (c, 3)
  else
    none

/-- Characters where the bytes spell one, `none` for each byte that belongs to none. -/
def decode : List UInt8 → List (Option Char)
  | [] => []
  | lead :: rest =>
    match spelled? lead rest with
    | some (c, used) => some c :: decode (rest.drop used)
    | none => none :: decode rest
termination_by bytes => bytes.length

/-- The characters of a list without gaps. -/
def whole? : List (Option Char) → Option (List Char)
  | [] => some []
  | none :: _ => none
  | some c :: rest => (whole? rest).map (c :: ·)

/-- The text that the bytes spell, if every byte belongs to a character. -/
def text? (bytes : List UInt8) : Option (List Char) := whole? (decode bytes)

/-- The bytes that spell a text. -/
def encode (text : String) : List UInt8 := text.toUTF8.toList

/-- The places of the first bytes of characters, when the first character starts at a place. -/
def starts (start : Nat) : List Char → List Nat
  | [] => []
  | c :: rest => start :: starts (start + c.utf8Size) rest

end ContainerRoster.Utf8
