import ContainerRoster.Decimal.Magnitude
import ContainerRoster.Text.Digit
import ContainerRoster.Toml.Basic
import ContainerRoster.Toml.Characters

/-!
# TOML numbers, booleans and dates

No setting is read from what such a value says, so these are checked and passed over: a function
that skips answers with what follows a well-formed value. Integers have 64 bits, floating-point
numbers must not be too large, and dates and times of day must exist.
-/

namespace ContainerRoster.Toml

/-- Digits with single underscores between them, after a first digit. -/
def moreDigits (accept : Char → Bool) : List Char → List Char × List Char
  | '_' :: d :: rest =>
    if accept d then
      let (digits, rest) := moreDigits accept rest
      (d :: digits, rest)
    else ([], '_' :: d :: rest)
  | d :: rest =>
    if accept d then
      let (digits, rest) := moreDigits accept rest
      (d :: digits, rest)
    else ([], d :: rest)
  | [] => ([], [])

/-- One or more digits with single underscores between them. -/
def readDigits (accept : Char → Bool) : List Char → Option (List Char × List Char)
  | d :: rest =>
    if accept d then
      let (digits, rest) := moreDigits accept rest
      some (d :: digits, rest)
    else none
  | [] => none

/-- A decimal number without leading zeros. -/
def readDecimal : List Char → Option (List Char × List Char)
  | '0' :: rest => some (['0'], rest)
  | cs => readDigits Char.isDigit cs

/-- Whether a minus sign stands in front, and what follows the sign. -/
def readSign : List Char → Bool × List Char
  | '+' :: rest => (false, rest)
  | '-' :: rest => (true, rest)
  | cs => (false, cs)

/-- An integer in another base, after its letter. -/
def skipBased (base : Nat) (cs : List Char) : Option (List Char) := do
  let (digits, rest) ← readDigits (fun c => (Text.digit? base c).isSome) cs
  let n ← Text.number? base digits
  if n < Nat.pow 2 63 then some rest else none

def skipInteger : List Char → Option (List Char)
  | '0' :: 'x' :: rest => skipBased 16 rest
  | '0' :: 'o' :: rest => skipBased 8 rest
  | '0' :: 'b' :: rest => skipBased 2 rest
  | cs => do
    let (negative, cs) := readSign cs
    let (digits, rest) ← readDecimal cs
    let n := Decimal.value digits
    if n < Nat.pow 2 63 ∨ (negative ∧ n = Nat.pow 2 63) then some rest else none

/-- An exponent after its letter. -/
def readExponent (cs : List Char) : Option (Int × List Char) := do
  let (negative, cs) := readSign cs
  let (digits, rest) ← readDigits Char.isDigit cs
  let n : Int := Decimal.value digits
  return (if negative then -n else n, rest)

def isExponentMark (c : Char) : Bool := c == 'e' || c == 'E'

/-- A number with a fraction, an exponent or both. -/
def skipReal (cs : List Char) : Option (List Char) := do
  let (negative, cs) := readSign cs
  let (whole, cs) ← readDecimal cs
  let (fraction, exponent, rest) ←
    match cs with
    | '.' :: rest => do
      let (fraction, rest) ← readDigits Char.isDigit rest
      match rest with
      | e :: tail =>
        if isExponentMark e then do
          let (exponent, rest) ← readExponent tail
          pure (fraction, exponent, rest)
        else pure (fraction, 0, rest)
      | [] => pure (fraction, 0, [])
    | e :: rest =>
      if isExponentMark e then do
        let (exponent, rest) ← readExponent rest
        pure ([], exponent, rest)
      else none
    | [] => none
  if !negative && Decimal.overflows (whole ++ fraction) (exponent - fraction.length) then none
  else some rest

def skipSpecial (cs : List Char) : Option (List Char) :=
  match (readSign cs).2 with
  | 'i' :: 'n' :: 'f' :: rest => some rest
  | 'n' :: 'a' :: 'n' :: rest => some rest
  | _ => none

/-- A number written in exactly as many digits. -/
def readFixed (count : Nat) (cs : List Char) : Option (Nat × List Char) :=
  let digits := cs.take count
  if digits.length = count ∧ digits.all Char.isDigit then some (Decimal.value digits, cs.drop count)
  else none

/-- What follows a given character. -/
def expect (c : Char) : List Char → Option (List Char)
  | d :: rest => if d = c then some rest else none
  | [] => none

def isLeapYear (year : Nat) : Bool :=
  year % 4 == 0 && (year % 100 != 0 || year % 400 == 0)

def daysInMonth (year month : Nat) : Nat :=
  if month = 2 then (if isLeapYear year then 29 else 28)
  else if [4, 6, 9, 11].contains month then 30
  else 31

def skipDay (cs : List Char) : Option (List Char) := do
  let (year, cs) ← readFixed 4 cs
  let (month, cs) ← readFixed 2 (← expect '-' cs)
  let (day, cs) ← readFixed 2 (← expect '-' cs)
  if 1 ≤ month ∧ month ≤ 12 ∧ 1 ≤ day ∧ day ≤ daysInMonth year month then some cs else none

/-- A time of day; a leap second may end a minute. -/
def skipTime (cs : List Char) : Option (List Char) := do
  let (hour, cs) ← readFixed 2 cs
  let (minute, cs) ← readFixed 2 (← expect ':' cs)
  let (second, cs) ← readFixed 2 (← expect ':' cs)
  if hour ≤ 23 ∧ minute ≤ 59 ∧ second ≤ 60 then
    match cs with
    | '.' :: rest =>
      let tail := rest.dropWhile Char.isDigit
      if tail.length < rest.length then some tail else none
    | _ => some cs
  else none

/-- The distance of a time from universal time, if one is given. -/
def skipOffset (cs : List Char) : Option (List Char) :=
  match cs with
  | 'Z' :: rest => some rest
  | 'z' :: rest => some rest
  | sign :: rest =>
    if sign = '+' ∨ sign = '-' then do
      let (hour, rest) ← readFixed 2 rest
      let (minute, rest) ← readFixed 2 (← expect ':' rest)
      if hour ≤ 23 ∧ minute ≤ 59 then some rest else none
    else some cs
  | [] => some []

/-- A date, alone or with a time of day, or a time of day alone. -/
def skipDate (cs : List Char) : Option (List Char) :=
  match skipDay cs with
  | some rest =>
    match rest with
    | mark :: tail =>
      if mark = 'T' ∨ mark = 't' ∨ mark = ' ' then
        match skipTime tail with
        | some tail => skipOffset tail
        | none => some rest
      else some rest
    | [] => some []
  | none => skipTime cs

def skipBoolean : List Char → Option (List Char)
  | 't' :: 'r' :: 'u' :: 'e' :: rest => some rest
  | 'f' :: 'a' :: 'l' :: 's' :: 'e' :: rest => some rest
  | _ => none

/-- A value of any of these kinds, and what follows it. -/
def readScalar (cs : List Char) : Option (Item × List Char) :=
  match skipDate cs with
  | some rest => some (.date, rest)
  | none =>
    (skipReal cs <|> skipSpecial cs <|> skipInteger cs <|> skipBoolean cs).map (.scalar, ·)

end ContainerRoster.Toml
