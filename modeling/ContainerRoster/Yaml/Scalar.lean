import ContainerRoster.Decimal.Magnitude
import ContainerRoster.Text.Digit

/-!
# YAML scalars

A string is written plain where that reads back as the same string. What would read as a null, a
boolean or a number, and what has an indicator in a place where it means something, goes between
single quotes; text over several lines becomes a literal block; and what neither can hold goes
between double quotes with escapes.
-/

namespace ContainerRoster.Yaml

/-! ## Characters -/

def isBreak (c : Char) : Bool :=
  c == '\n' || c == '\r' || c == '\u0085' || c == '\u2028' || c == '\u2029'

/-- Characters that may stand in the text as they are. -/
def isPrintable (c : Char) : Bool :=
  let n := c.toNat
  n == 0x0A || (0x20 ≤ n && n ≤ 0x7E) || (0xA0 ≤ n && n ≤ 0xFFFD && n != 0xFEFF) || 0x10000 ≤ n

/-- Blanks, breaks and the null character. -/
def isGap (c : Char) : Bool := c == ' ' || c == '\t' || isBreak c || c.toNat == 0

/-! ## What a plain scalar would read as -/

/-- A number without its leading plus. -/
def unsigned (cs : List Char) : List Char :=
  match cs with
  | '+' :: rest => rest
  | _ => cs

def hasSign (cs : List Char) : Bool := cs.head? == some '+' || cs.head? == some '-'

/-- Digits with a leading zero, which are no number. -/
def isPaddedDigits (cs : List Char) : Bool :=
  let body := if hasSign cs then cs.drop 1 else cs
  1 < body.length && body.head? == some '0' && body.all Char.isDigit

/-- The base that a prefix of two characters announces, and the digits after it. -/
def based? : List Char → Option (Nat × List Char)
  | '0' :: 'x' :: rest => some (16, rest)
  | '0' :: 'o' :: rest => some (8, rest)
  | '0' :: 'b' :: rest => some (2, rest)
  | _ => none

/-- The number that digits write, with or without a base in front. -/
def magnitude? (cs : List Char) : Option Nat :=
  match based? cs with
  | some (base, digits) => Text.number? base digits
  | none => Text.number? 10 cs

/-- Integers of 128 bits: nonnegative ones without a sign bit, negative ones with one. -/
def isInteger (cs : List Char) : Bool :=
  !isPaddedDigits cs &&
    match cs with
    | '-' :: rest => ((magnitude? rest).map fun n => decide (n ≤ Nat.pow 2 127)).getD false
    | _ => ((magnitude? (unsigned cs)).map fun n => decide (n < Nat.pow 2 128)).getD false

/-- The exponent after its letter, which needs a digit. -/
def exponent? (cs : List Char) : Option Int :=
  let digits := if hasSign cs then cs.drop 1 else cs
  if !digits.isEmpty && digits.all Char.isDigit then
    let n : Int := Decimal.value digits
    some (if cs.head? == some '-' then -n else n)
  else none

/-- Whether digits around a point, with or without an exponent, write a finite number. -/
def isFinite (cs : List Char) : Bool :=
  let whole := cs.takeWhile Char.isDigit
  let rest := cs.drop whole.length
  let fraction := if rest.head? == some '.' then (rest.drop 1).takeWhile Char.isDigit else []
  let rest := if rest.head? == some '.' then rest.drop (fraction.length + 1) else rest
  let exponent? :=
    match rest with
    | [] => some 0
    | e :: rest => if e = 'e' ∨ e = 'E' then exponent? rest else none
  match exponent? with
  | some exponent =>
    !(whole.isEmpty && fraction.isEmpty) &&
      !Decimal.overflows (whole ++ fraction) (exponent - fraction.length)
  | none => false

def infinities : List (List Char) :=
  [['.', 'i', 'n', 'f'], ['.', 'I', 'n', 'f'], ['.', 'I', 'N', 'F']]

def undefineds : List (List Char) :=
  [['.', 'n', 'a', 'n'], ['.', 'N', 'a', 'N'], ['.', 'N', 'A', 'N']]

/-- Floating-point numbers: finite ones with at most one sign, infinities and undefined values. -/
def isFloat (cs : List Char) : Bool :=
  let body := if hasSign cs then cs.drop 1 else cs
  infinities.contains body || undefineds.contains cs || isFinite body

def nulls : List String := ["", "null", "Null", "NULL", "~"]

def booleans : List String := ["true", "True", "TRUE", "false", "False", "FALSE"]

/-- Whether the text, written plain, would read as something else than a string, or as it is not:
digits with a leading zero are a string, but are quoted as if they were a number. -/
def looksTyped (s : String) : Bool :=
  nulls.contains s || booleans.contains s || isPaddedDigits s.toList || isInteger s.toList ||
    isFloat s.toList

/-! ## What the text of a scalar allows -/

/-- Whether two neighbours satisfy one predicate each. -/
def hasPair (p q : Char → Bool) : List Char → Bool
  | a :: b :: rest => (p a && q b) || hasPair p q (b :: rest)
  | _ => false

/-- Whether a character stands before a gap or at the end. -/
def hasBeforeGap (c : Char) : List Char → Bool
  | [] => false
  | [a] => a == c
  | a :: b :: rest => (a == c && isGap b) || hasBeforeGap c (b :: rest)

/-- Characters that mean something at the start of a scalar. -/
def openers : List Char :=
  ['#', ',', '[', ']', '\x7b', '\x7d', '&', '*', '!', '|', '>', '\'', '"', '%', '@', '\x60']

/-- Whether an indicator stands where it means something. -/
def hasIndicator (cs : List Char) : Bool :=
  ['-', '-', '-'].isPrefixOf cs || ['.', '.', '.'].isPrefixOf cs ||
    (match cs with
      | [] => false
      | c :: rest =>
        openers.contains c ||
          ((c == '?' || c == '-') && (rest.head?.map isGap).getD true)) ||
    hasBeforeGap ':' cs || hasPair isGap (· == '#') cs

def isSpace (c : Char) : Bool := c == ' '

/-- Whether a space or a break stands at either end. -/
def hasLooseEnd (cs : List Char) : Bool :=
  let loose (c : Char) : Bool := isSpace c || isBreak c
  (cs.head?.map loose).getD false || (cs.getLast?.map loose).getD false

/-- Text that only double quotes can hold. -/
def needsEscapes (cs : List Char) : Bool :=
  !cs.all isPrintable || hasPair isSpace isBreak cs

def allowsPlain (cs : List Char) : Bool :=
  !needsEscapes cs && !hasLooseEnd cs && !cs.any isBreak && !hasIndicator cs

def allowsSingle (cs : List Char) : Bool := !needsEscapes cs && !hasPair isBreak isSpace cs

def allowsLiteral (cs : List Char) : Bool :=
  !needsEscapes cs && !(cs.getLast?.map isSpace).getD false

inductive Style
  | plain
  | single
  | double
  | literal
  deriving DecidableEq, Repr

/-- The style in which a string is written. -/
def style (s : String) : Style :=
  let cs := s.toList
  if cs.contains '\n' then (if allowsLiteral cs then .literal else .double)
  else if !looksTyped s && allowsPlain cs then .plain
  else if allowsSingle cs then .single
  else .double

/-! ## Writing -/

/-- A number in exactly as many hexadecimal digits, in capitals. -/
def hexadecimal (count n : Nat) : List Char :=
  let digits := (Nat.toDigits 16 n).map Char.toUpper
  List.replicate (count - digits.length) '0' ++ digits

def escapeChar (c : Char) : List Char :=
  let n := c.toNat
  if c = '"' then ['\\', '"']
  else if c = '\\' then ['\\', '\\']
  else if isPrintable c && !isBreak c then [c]
  else if n = 0 then ['\\', '0']
  else if n = 7 then ['\\', 'a']
  else if n = 8 then ['\\', 'b']
  else if n = 9 then ['\\', 't']
  else if n = 10 then ['\\', 'n']
  else if n = 11 then ['\\', 'v']
  else if n = 12 then ['\\', 'f']
  else if n = 13 then ['\\', 'r']
  else if n = 27 then ['\\', 'e']
  else if n = 0x85 then ['\\', 'N']
  else if n = 0x2028 then ['\\', 'L']
  else if n = 0x2029 then ['\\', 'P']
  else if n ≤ 0xFF then '\\' :: 'x' :: hexadecimal 2 n
  else if n ≤ 0xFFFF then '\\' :: 'u' :: hexadecimal 4 n
  else '\\' :: 'U' :: hexadecimal 8 n

def doubleQuoted (cs : List Char) : List Char := '"' :: cs.flatMap escapeChar ++ ['"']

/-- The text between single quotes and the closing quote. A line that a break begins is indented. -/
def singleBody (indent : Nat) (afterBreak : Bool) : List Char → List Char
  | [] => (if afterBreak then List.replicate indent ' ' else []) ++ ['\'']
  | c :: rest =>
    if isBreak c then c :: singleBody indent true rest
    else
      (if afterBreak then List.replicate indent ' ' else []) ++
        (if c = '\'' then ['\'', '\''] else [c]) ++ singleBody indent false rest

def singleQuoted (indent : Nat) (cs : List Char) : List Char := '\'' :: singleBody indent false cs

/-- The lines of a literal block: all but empty ones are indented. -/
def literalBody (indent : Nat) (afterBreak : Bool) : List Char → List Char
  | [] => []
  | c :: rest =>
    if isBreak c then c :: literalBody indent true rest
    else
      (if afterBreak then List.replicate indent ' ' else []) ++ c :: literalBody indent false rest

/-- What the header of a literal block says of its end: that no break follows the last line, or
that more than one does. -/
def chomping (cs : List Char) : List Char :=
  match cs.reverse with
  | [] => ['-']
  | last :: before =>
    if !isBreak last then ['-']
    else if (before.head?.map isBreak).getD true then ['+']
    else []

/-- The width of one step of indentation. -/
def step : Nat := 2

/-- The header of a literal block. The indentation is given where the text does not show it. -/
def literalHeader (cs : List Char) : List Char :=
  let hidden := (cs.head?.map fun c => isSpace c || isBreak c).getD false
  '|' :: (if hidden then Nat.toDigits 10 step else []) ++ chomping cs

/-- A string inside a block with the given indentation. -/
def stringText (indent : Nat) (s : String) : List Char :=
  let cs := s.toList
  match style s with
  | .plain => cs
  | .single => singleQuoted (indent + step) cs
  | .double => doubleQuoted cs
  | .literal => literalHeader cs ++ '\n' :: literalBody (indent + step) true cs

end ContainerRoster.Yaml
