import ContainerRoster.Json.Basic
import ContainerRoster.Yaml.Scalar

/-!
# Reading YAML scalars

The scalars of a block document, as a YAML 1.1 scanner reads them.  A plain scalar ends with its
line, between quotes line breaks fold and the blanks beside them go, and a literal block keeps all
of its text behind the indentation.  A plain scalar has the type that its text looks like, the
others are strings.

The reader is a partial one: it refuses a good deal of what YAML allows, such as plain scalars over
several lines, tags and comments.  What it takes in it reads as YAML has it, so a text that it
reads as some tree is a text of that tree.
-/

namespace ContainerRoster
namespace Yaml

/-! ## Characters -/

/-- Characters that may stand in a document. -/
def isAllowed (c : Char) : Bool := isPrintable c || c == '\t' || c == '\r' || c == '\u0085'

/-- A document whose line breaks are line feeds, except for the separators of lines and of
paragraphs. -/
def normalized : List Char → List Char
  | [] => []
  | '\r' :: '\n' :: rest => '\n' :: normalized rest
  | '\r' :: rest => '\n' :: normalized rest
  | '\u0085' :: rest => '\n' :: normalized rest
  | c :: rest => c :: normalized rest

def isBlank (c : Char) : Bool := c == ' ' || c == '\t'

/-- Whether the line or a word of it ends here. -/
def startsGap : List Char → Bool
  | [] => true
  | c :: _ => isGap c

/-! ## Quoted scalars -/

/-- What stands between quotes. -/
inductive Piece
  /-- A character of the text.  One that is escaped is never a blank or a break. -/
  | char (c : Char)
  | blank (c : Char)
  | lineBreak (c : Char)
  deriving DecidableEq, Repr

namespace Piece

/-- A character that is not escaped. -/
def raw (c : Char) : Piece :=
  if isBreak c then .lineBreak c else if isBlank c then .blank c else .char c

end Piece

/-- What is between two characters of a text, or at one of its ends. -/
inductive Gap
  | blanks (cs : List Char)
  /-- The first break and the later ones; the blanks beside them are forgotten. -/
  | breaks (first : Char) (later : List Char)

namespace Gap

def addBlank (c : Char) : Gap → Gap
  | blanks cs => blanks (cs ++ [c])
  | breaks first later => breaks first later

def addBreak (c : Char) : Gap → Gap
  | blanks _ => breaks c []
  | breaks first later => breaks first (later ++ [c])

/-- A line feed alone is a space, and before other breaks it is dropped. -/
def text : Gap → List Char
  | blanks cs => cs
  | breaks first later =>
    if first = '\n' then (if later.isEmpty then [' '] else later) else first :: later

end Gap

/-- The text of pieces, with line breaks folded. -/
def folded : Gap → List Piece → List Char
  | gap, [] => gap.text
  | gap, .char c :: rest => gap.text ++ c :: folded (.blanks []) rest
  | gap, .blank c :: rest => folded (gap.addBlank c) rest
  | gap, .lineBreak c :: rest => folded (gap.addBreak c) rest

/-- Whether every line but the first is empty or begins with a space. -/
def isIndented : List Piece → Bool
  | [] => true
  | .lineBreak _ :: rest =>
    (match rest with
      | .lineBreak _ :: _ => true
      | .blank c :: _ => c == ' '
      | _ => false) && isIndented rest
  | _ :: rest => isIndented rest

/-- The pieces up to a single quote that is not doubled. -/
def readSingle : List Char → Option (List Piece × List Char)
  | '\'' :: '\'' :: rest => (readSingle rest).map fun (pieces, rest) => (.char '\'' :: pieces, rest)
  | '\'' :: rest => some ([], rest)
  | c :: rest => (readSingle rest).map fun (pieces, rest) => (.raw c :: pieces, rest)
  | [] => none

/-- What has been read of an escape. -/
inductive Escape
  | none
  /-- The backslash. -/
  | begun
  /-- Digits of a number in base sixteen, of which so many are left. -/
  | digits (left value : Nat)

/-- The character that a letter after a backslash stands for. -/
def shortEscape? : Char → Option Char
  | '0' => some '\x00'
  | 'a' => some '\x07'
  | 'b' => some '\x08'
  | 't' => some '\t'
  | '\t' => some '\t'
  | 'n' => some '\n'
  | 'v' => some '\x0b'
  | 'f' => some '\x0c'
  | 'r' => some '\r'
  | 'e' => some '\x1b'
  | ' ' => some ' '
  | '"' => some '"'
  | '/' => some '/'
  | '\\' => some '\\'
  | 'N' => some '\u0085'
  | '_' => some '\u00a0'
  | 'L' => some '\u2028'
  | 'P' => some '\u2029'
  | _ => none

/-- How many digits follow a letter after a backslash. -/
def digitCount? : Char → Option Nat
  | 'x' => some 2
  | 'u' => some 4
  | 'U' => some 8
  | _ => none

/-- The pieces up to a double quote that is not escaped. -/
def readDouble : Escape → List Char → Option (List Piece × List Char)
  | _, [] => none
  | .none, c :: rest =>
    if c = '"' then some ([], rest)
    else if c = '\\' then readDouble .begun rest
    else (readDouble .none rest).map fun (pieces, rest) => (.raw c :: pieces, rest)
  | .begun, c :: rest =>
    match digitCount? c with
    | some count => readDouble (.digits count 0) rest
    | none => do
      let e ← shortEscape? c
      let (pieces, rest) ← readDouble .none rest
      return (.char e :: pieces, rest)
  | .digits left value, c :: rest => do
    let value := value * 16 + (← Text.digit? 16 c)
    if 1 < left then readDouble (.digits (left - 1) value) rest
    else if value.isValidChar then
      let (pieces, rest) ← readDouble .none rest
      return (.char (Char.ofNat value) :: pieces, rest)
    else none

/-- The string of pieces. -/
def quotedText? (pieces : List Piece) : Option Json :=
  if isIndented pieces then some (.string (String.ofList (folded (.blanks []) pieces))) else none

/-! ## Plain scalars -/

/-- The text up to the end of the line, or up to a colon that ends a key. -/
def plainText : List Char → List Char × List Char
  | [] => ([], [])
  | c :: rest =>
    if isBreak c || (c == ':' && startsGap rest) then ([], c :: rest)
    else (c :: (plainText rest).1, (plainText rest).2)

/-- Characters that a plain scalar does not begin with. -/
def indicators : List Char :=
  [',', '[', ']', '\x7b', '\x7d', '#', '&', '*', '!', '|', '>', '\'', '"', '%', '@', '\x60']

/-- Whether a text is a plain scalar as it stands. -/
def isPlain (cs : List Char) : Bool :=
  match cs with
  | [] => false
  | c :: rest =>
    !isBlank c && !indicators.contains c &&
      !((c == '-' || c == '?' || c == ':') && startsGap rest) &&
      !hasPair isBlank (· == '#') cs && !(cs.getLast?.map isBlank).getD false &&
      !(['-', '-', '-'].isPrefixOf cs) && !(['.', '.', '.'].isPrefixOf cs)

/-- The integer of 128 bits that a text writes. -/
def integer? (cs : List Char) : Option Int :=
  if isPaddedDigits cs then none
  else
    match cs with
    | '-' :: rest => ((magnitude? rest).filter (· ≤ Nat.pow 2 127)).map fun n => -Int.ofNat n
    | _ => ((magnitude? (unsigned cs)).filter (· < Nat.pow 2 128)).map Int.ofNat

/-- The value of a plain scalar.  Those that write other numbers are refused. -/
def resolved? (cs : List Char) : Option Json :=
  let s := String.ofList cs
  if nulls.contains s then some .null
  else if ["true", "True", "TRUE"].contains s then some (.bool true)
  else if ["false", "False", "FALSE"].contains s then some (.bool false)
  else
    match integer? cs with
    | some n => some (.number (.integer n))
    | none => if isFloat cs && !isPaddedDigits cs then none else some (.string s)

/-- A scalar other than a block, and what follows it. -/
def readFlow (cs : List Char) : Option (Json × List Char) :=
  match cs with
  | '\'' :: rest => do
    let (pieces, rest) ← readSingle rest
    return (← quotedText? pieces, rest)
  | '"' :: rest => do
    let (pieces, rest) ← readDouble .none rest
    return (← quotedText? pieces, rest)
  | _ =>
    let (text, rest) := plainText cs
    if isPlain text then (resolved? text).map (·, rest) else none

/-! ## Literal blocks -/

/-- What becomes of the breaks at the end of a block. -/
inductive Chomping
  | clip
  | strip
  | keep
  deriving DecidableEq, Repr

/-- The text before the breaks at its end. -/
def withoutBreaks (cs : List Char) : List Char := (cs.reverse.dropWhile isBreak).reverse

/-- The text of a block with some of the breaks at its end. -/
def Chomping.text (chomping : Chomping) (cs : List Char) : List Char :=
  let content := withoutBreaks cs
  match chomping with
  | .keep => cs
  | .strip => content
  | .clip => if content.isEmpty then [] else content ++ (cs.drop content.length).take 1

/-- The rest of the line behind the bar: the indentation when it is told, and the chomping. -/
def readHeader (indent : Option Nat) (chomping : Option Chomping) :
    List Char → Option (Option Nat × Chomping × List Char)
  | [] => none
  | c :: rest =>
    if isBreak c then some (indent, chomping.getD .clip, rest)
    else if c = '-' ∧ chomping = none then readHeader indent (some .strip) rest
    else if c = '+' ∧ chomping = none then readHeader indent (some .keep) rest
    else if c.isDigit ∧ c ≠ '0' ∧ indent = none then
      readHeader (some (c.toNat - '0'.toNat)) chomping rest
    else none

/-- The lines of a block with their breaks, and what follows the block from the start of its line
on.  At the start of a line so many spaces have been passed; inside of one there is no count. -/
def readLines (indent : Nat) : Option Nat → List Char → List Char × List Char
  | _, [] => ([], [])
  | none, c :: rest =>
    let (text, after) := readLines indent (if isBreak c then some 0 else none) rest
    (c :: text, after)
  | some passed, c :: rest =>
    if isBreak c then
      let (text, after) := readLines indent (some 0) rest
      (c :: text, after)
    else if passed = indent then
      let (text, after) := readLines indent none rest
      (c :: text, after)
    else if c = ' ' then readLines indent (some (passed + 1)) rest
    else ([], List.replicate passed ' ' ++ c :: rest)

/-- The spaces at the front and what follows them. -/
def indentation (cs : List Char) : Nat × List Char :=
  ((cs.takeWhile isSpace).length, cs.dropWhile isSpace)

/-- The indentation of a block: where it is not told, the first line shows it. -/
def blockIndent? (parent : Nat) (told : Option Nat) (lines : List Char) : Option Nat :=
  match told with
  | some n => some (parent + n)
  | none =>
    let (shown, line) := indentation lines
    if parent < shown && !startsGap line then some shown else none

/-- A literal block behind its bar, inside a block with the given column. -/
def readLiteral (parent : Nat) (cs : List Char) : Option (Json × List Char) := do
  let (told, chomping, lines) ← readHeader none none cs
  let indent ← blockIndent? parent told lines
  let (text, rest) := readLines indent (some 0) lines
  return (.string (String.ofList (chomping.text text)), rest)

end Yaml
end ContainerRoster
