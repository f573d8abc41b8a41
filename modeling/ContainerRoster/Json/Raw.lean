import ContainerRoster.Text.Digit

/-!
# JSON texts as they are spelled

The structure of a JSON text before any string or number in it has been given its meaning. A
string is the sequence of what stands between its quotes, bytes that belong to no character
included; a number is its digits. Whoever looks at a part of the tree decodes that part, and parts
that nobody looks at need no meaning.
-/

namespace ContainerRoster.Json

namespace Raw

/-- What may stand inside a string. -/
inductive Piece
  /-- A character, or a byte that belongs to none. -/
  | plain (c : Option Char)
  /-- A backslash and the letter of a character. -/
  | short (c : Char)
  /-- A backslash, the letter u and four hexadecimal digits. -/
  | unit (n : Nat)
  deriving DecidableEq, Repr

/-- The parts of a number. -/
structure Numeral where
  negative : Bool
  whole : List Char
  fraction : Option (List Char)
  /-- Whether the exponent is negative, and its digits. -/
  exponent : Option (Bool × List Char)
  deriving DecidableEq, Repr

end Raw

inductive Raw
  | null
  | bool (b : Bool)
  | number (n : Raw.Numeral)
  | string (pieces : List Raw.Piece)
  | array (items : List Raw)
  | object (members : List (List Raw.Piece × Raw))
  deriving Repr

/-- The bytes of a document, as characters where they spell some. -/
abbrev Input := List (Option Char)

namespace Raw

def isSpace (c : Option Char) : Bool :=
  c == some ' ' || c == some '\t' || c == some '\n' || c == some '\r'

def skipSpace (cs : Input) : Input := cs.dropWhile isSpace

def isDigit : Option Char → Bool
  | some c => c.isDigit
  | none => false

/-- The character that a letter after a backslash stands for. -/
def shortEscape? : Char → Option Char
  | '"' => some '"'
  | '\\' => some '\\'
  | '/' => some '/'
  | 'b' => some '\x08'
  | 'f' => some '\x0c'
  | 'n' => some '\n'
  | 'r' => some '\r'
  | 't' => some '\t'
  | _ => none

/-- The pieces of a string up to its closing quote, and what follows that. -/
def readString : Input → Option (List Piece × Input)
  | some '"' :: rest => some ([], rest)
  | some '\\' :: some 'u' :: some a :: some b :: some c :: some d :: rest => do
    let n ← Text.number? 16 [a, b, c, d]
    let (pieces, rest) ← readString rest
    return (.unit n :: pieces, rest)
  | some '\\' :: some e :: rest => do
    let c ← shortEscape? e
    let (pieces, rest) ← readString rest
    return (.short c :: pieces, rest)
  | some '\\' :: _ => none
  | some c :: rest =>
    if c.toNat < 0x20 then none
    else (readString rest).map fun (pieces, rest) => (.plain (some c) :: pieces, rest)
  | none :: rest => (readString rest).map fun (pieces, rest) => (.plain none :: pieces, rest)
  | [] => none

/-- The digits at the front, of which there must be one. -/
def readDigits (cs : Input) : Option (List Char × Input) :=
  let digits := (cs.takeWhile isDigit).filterMap id
  if digits.isEmpty then none else some (digits, cs.dropWhile isDigit)

/-- The digits before the point: a zero stands alone. -/
def readWhole : Input → Option (List Char × Input)
  | some '0' :: rest =>
    if (rest.head?.map isDigit).getD false then none else some (['0'], rest)
  | cs => readDigits cs

def readFraction : Input → Option (Option (List Char) × Input)
  | some '.' :: rest => (readDigits rest).map fun (digits, rest) => (some digits, rest)
  | cs => some (none, cs)

def readExponent : Input → Option (Option (Bool × List Char) × Input)
  | some e :: rest =>
    if e = 'e' ∨ e = 'E' then
      match rest with
      | some '+' :: rest => (readDigits rest).map fun (digits, rest) => (some (false, digits), rest)
      | some '-' :: rest => (readDigits rest).map fun (digits, rest) => (some (true, digits), rest)
      | rest => (readDigits rest).map fun (digits, rest) => (some (false, digits), rest)
    else some (none, some e :: rest)
  | cs => some (none, cs)

def readNumber (cs : Input) : Option (Numeral × Input) := do
  let (negative, cs) :=
    match cs with
    | some '-' :: rest => (true, rest)
    | cs => (false, cs)
  let (whole, cs) ← readWhole cs
  let (fraction, cs) ← readFraction cs
  let (exponent, cs) ← readExponent cs
  return (⟨negative, whole, fraction, exponent⟩, cs)

/-- A value without parts. -/
def readAtom : Input → Option (Raw × Input)
  | some 'n' :: some 'u' :: some 'l' :: some 'l' :: rest => some (.null, rest)
  | some 't' :: some 'r' :: some 'u' :: some 'e' :: rest => some (.bool true, rest)
  | some 'f' :: some 'a' :: some 'l' :: some 's' :: some 'e' :: rest => some (.bool false, rest)
  | some '"' :: rest => (readString rest).map fun (pieces, rest) => (.string pieces, rest)
  | cs => (readNumber cs).map fun (n, rest) => (.number n, rest)

mutual

/-- A value after white space. Every level of nesting uses up a bracket, so the length of the
input is fuel enough. -/
def readValue : Nat → Input → Option (Raw × Input)
  | 0, _ => none
  | fuel + 1, cs =>
    match skipSpace cs with
    | some '[' :: rest =>
      match skipSpace rest with
      | some ']' :: rest => some (.array [], rest)
      | rest => (readItems fuel rest).map fun (items, rest) => (.array items, rest)
    | some '\x7b' :: rest =>
      match skipSpace rest with
      | some '\x7d' :: rest => some (.object [], rest)
      | rest => (readMembers fuel rest).map fun (members, rest) => (.object members, rest)
    | rest => readAtom rest

/-- One or more values up to the closing bracket. -/
def readItems : Nat → Input → Option (List Raw × Input)
  | 0, _ => none
  | fuel + 1, cs => do
    let (item, rest) ← readValue fuel cs
    match skipSpace rest with
    | some ']' :: rest => some ([item], rest)
    | some ',' :: rest =>
      let (items, rest) ← readItems fuel rest
      some (item :: items, rest)
    | _ => none

/-- One or more members up to the closing brace. -/
def readMembers : Nat → Input → Option (List (List Piece × Raw) × Input)
  | 0, _ => none
  | fuel + 1, cs =>
    match skipSpace cs with
    | some '"' :: rest => do
      let (key, rest) ← readString rest
      match skipSpace rest with
      | some ':' :: rest =>
        let (value, rest) ← readValue fuel rest
        match skipSpace rest with
        | some '\x7d' :: rest => some ([(key, value)], rest)
        | some ',' :: rest =>
          let (members, rest) ← readMembers fuel rest
          some ((key, value) :: members, rest)
        | _ => none
      | _ => none
    | _ => none

end

/-- A whole document: one value with white space around it. -/
def ofInput? (cs : Input) : Option Raw :=
  match readValue (2 * cs.length + 2) cs with
  | some (raw, rest) => if (skipSpace rest).isEmpty then some raw else none
  | none => none

end Raw

end ContainerRoster.Json
