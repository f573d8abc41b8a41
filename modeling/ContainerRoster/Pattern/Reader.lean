import ContainerRoster.Pattern.Tree
import ContainerRoster.Text.Blank
import ContainerRoster.Text.Digit
import ContainerRoster.Text.Letter

/-!
# Reading patterns

A reader goes through the characters of a pattern and keeps, besides what is left of them, whether
blanks and comments are skipped and which names groups have. Reading fails at anything that is no
pattern; where it fails does not matter.
-/

namespace ContainerRoster.Pattern

/-- Where a reader stands. -/
structure Cursor where
  rest : List Char
  /-- Whether blanks and comments are skipped. -/
  isVerbose : Bool
  /-- The names of the groups so far. -/
  names : List (List Char)

abbrev Reader := StateT Cursor Option

namespace Reader

def fail {α : Type} : Reader α := fun _ => none

def setRest (rest : List Char) : Reader Unit := modify fun c => { c with rest }

def rest : Reader (List Char) := return (← get).rest

def peek? : Reader (Option Char) := return (← rest).head?

/-- The next character, of which there must be one. -/
def peek : Reader Char := do
  match ← peek? with
  | some c => return c
  | none => fail

def advance : Reader Unit := do setRest ((← rest).drop 1)

/-- Without the blanks and comments at the front. -/
def dropBlank : Nat → List Char → List Char
  | 0, cs => cs
  | _ + 1, [] => []
  | fuel + 1, c :: cs =>
    if Text.isBlank c then dropBlank fuel cs
    else if c = '#' then dropBlank fuel ((cs.dropWhile (· != '\n')).drop 1)
    else c :: cs

/-- Skip blanks and comments, where they are skipped. -/
def skipBlank : Reader Unit := do
  let cursor ← get
  if cursor.isVerbose then setRest (dropBlank cursor.rest.length cursor.rest)

/-- Go past a character and the blanks after it. -/
def next : Reader Unit := do
  advance
  skipBlank

/-- Go past a text, if it comes next. -/
def accept (text : String) : Reader Bool := do
  let cs ← rest
  if text.toList.isPrefixOf cs then
    setRest (cs.drop text.toList.length)
    return true
  else return false

/-- Go past a text that must come next. -/
def expect (text : String) : Reader Unit := do
  unless ← accept text do fail

/-- The character after the next, past blanks. Of a comment only the mark is passed over: what is
seen then is the first character of the comment. -/
def peekSecond? : Reader (Option Char) := do
  let cursor ← get
  let after := cursor.rest.drop 1
  if !cursor.isVerbose then return after.head?
  match after.dropWhile Text.isBlank with
  | '#' :: comment => return (comment.dropWhile Text.isBlank).head?
  | cs => return cs.head?

end Reader

open Reader

/-! ## Numbers and escapes -/

/-- The character with a code, if there is one. -/
def charOf (code : Nat) : Reader Char :=
  if h : code.isValidChar then return Char.ofNatAux code h else fail

/-- So many hexadecimal digits; blanks may follow each. -/
def readHexDigits : Nat → Nat → Reader Nat
  | 0, value => return value
  | count + 1, value => do
    match Text.digit? 16 (← peek) with
    | some d =>
      next
      readHexDigits count (value * 16 + d)
    | none => fail

/-- Hexadecimal digits up to a closing brace. -/
def readHexBraces : Nat → List Nat → Reader (List Nat)
  | 0, _ => fail
  | fuel + 1, digits => do
    let c ← peek
    if c = '\x7d' then
      next
      return digits
    else
      match Text.digit? 16 c with
      | some d =>
        next
        readHexBraces fuel (digits ++ [d])
      | none => fail

/-- A character by its code, after the letter that announces it. -/
def readHex (count : Nat) : Reader Literal := do
  if (← peek) = '\x7b' then
    next
    let digits ← readHexBraces ((← rest).length + 1) []
    if digits.isEmpty then fail
    return ⟨← charOf (Text.ofDigits 16 digits), false⟩
  else
    let c ← charOf (← readHexDigits count 0)
    return ⟨c, count == 2⟩

/-- The text up to a closing brace. -/
def readBraced : Nat → List Char → Reader (List Char)
  | 0, _ => fail
  | fuel + 1, text => do
    let c ← peek
    if c = '\x7d' then
      advance
      return text
    else
      next
      readBraced fuel (text ++ [c])

/-- Split a text around a mark. -/
def splitAt? (mark : List Char) : List Char → Option (List Char × List Char)
  | [] => none
  | c :: rest =>
    if mark.isPrefixOf (c :: rest) then some ([], (c :: rest).drop mark.length)
    else (splitAt? mark rest).map fun (before, after) => (c :: before, after)

/-- The name of a class of Unicode, and whether its sign is turned round. -/
def className (text : List Char) : Bool × ClassName :=
  let valued (parts : List Char × List Char) : ClassName :=
    .value (String.ofList parts.1) (String.ofList parts.2)
  match splitAt? ['!', '='] text with
  | some parts => (true, valued parts)
  | none =>
    match (splitAt? [':'] text).or (splitAt? ['='] text) with
    | some parts => (false, valued parts)
    | none => (false, .plain (String.ofList text))

/-- A class of Unicode after its letter. -/
def readNamed (negated : Bool) : Reader (Bool × ClassName) := do
  let c ← peek
  if c = '\x7b' then
    next
    let (turned, name) := className (← readBraced ((← rest).length + 1) [])
    return (negated != turned, name)
  else if c = '\\' then fail
  else
    next
    return (negated, .plain (String.singleton c))

/-- The characters that mean something by themselves. -/
def isMeta (c : Char) : Bool :=
  ['\\', '.', '+', '*', '?', '(', ')', '|', '[', ']', '\x7b', '\x7d', '^', '$', '#', '&', '-',
   '~'].contains c

/-- The characters that may stand after a backslash for themselves. -/
def isEscapable (c : Char) : Bool :=
  isMeta c || (c.toNat < 0x80 && !c.isAlphanum && c != '<' && c != '>')

/-- The letters of the names of word boundaries. -/
def isBoundaryLetter (c : Char) : Bool := c.isAlpha || c == '-'

def readBoundaryName : Nat → List Char → Reader (List Char)
  | 0, name => return name
  | fuel + 1, name => do
    match ← peek? with
    | some c =>
      if isBoundaryLetter c then
        next
        readBoundaryName fuel (name ++ [c])
      else return name
    | none => return name

/-- A word boundary: plain, or of the kind named between braces. Braces that hold no name are left
to be read as a repetition. -/
def readBoundary : Reader Assertion := do
  let start ← get
  if (← peek?) == some '\x7b' then
    next
    if isBoundaryLetter (← peek) then
      let name ← readBoundaryName (← rest).length []
      if (← peek) = '\x7d' then
        advance
        match String.ofList name with
        | "start" => return .wordStart
        | "end" => return .wordEnd
        | "start-half" => return .wordStartHalf
        | "end-half" => return .wordEndHalf
        | _ => fail
      else fail
    else
      set start
      return .wordBoundary
  else return .wordBoundary

/-- An escape from its backslash on. -/
def readEscape : Reader Tree := do
  advance
  let c ← peek
  if c.isDigit then fail
  else if c = 'x' then
    next
    return .literal (← readHex 2)
  else if c = 'u' then
    next
    return .literal (← readHex 4)
  else if c = 'U' then
    next
    return .literal (← readHex 8)
  else if c = 'p' ∨ c = 'P' then
    next
    let (negated, name) ← readNamed (c == 'P')
    return .named negated name
  else
    advance
    if isEscapable c then return .literal ⟨c, false⟩
    match c with
    | 'd' => return .shorthand false .digit
    | 'D' => return .shorthand true .digit
    | 's' => return .shorthand false .space
    | 'S' => return .shorthand true .space
    | 'w' => return .shorthand false .word
    | 'W' => return .shorthand true .word
    | 'a' => return .literal ⟨'\x07', false⟩
    | 'f' => return .literal ⟨'\x0c', false⟩
    | 't' => return .literal ⟨'\t', false⟩
    | 'n' => return .literal ⟨'\n', false⟩
    | 'r' => return .literal ⟨'\r', false⟩
    | 'v' => return .literal ⟨'\x0b', false⟩
    | 'A' => return .assertion .startText
    | 'z' => return .assertion .endText
    | 'b' => return .assertion (← readBoundary)
    | 'B' => return .assertion .notWordBoundary
    | '<' => return .assertion .wordStart
    | '>' => return .assertion .wordEnd
    | _ => fail

/-! ## Classes -/

def asciiNames : List (String × AsciiClass) :=
  [("alnum", .alnum), ("alpha", .alpha), ("ascii", .ascii), ("blank", .blank), ("cntrl", .cntrl),
   ("digit", .digit), ("graph", .graph), ("lower", .lower), ("print", .print), ("punct", .punct),
   ("space", .space), ("upper", .upper), ("word", .word), ("xdigit", .xdigit)]

/-- A class of ASCII between brackets and colons, and what follows it. -/
def asciiClass? (cs : List Char) : Option (ClassTree × List Char) :=
  match cs with
  | '[' :: ':' :: rest =>
    let negated := rest.head? == some '^'
    let rest := if negated then rest.drop 1 else rest
    let name := rest.takeWhile (· != ':')
    match rest.drop name.length with
    | ':' :: ']' :: rest =>
      (asciiNames.lookup (String.ofList name)).map fun c => (.ascii negated c, rest)
    | _ => none
  | _ => none

/-- One part of a class: an escape or a character. -/
def readClassItem : Reader Tree := do
  let c ← peek
  if c = '\\' then readEscape
  else
    advance
    return .literal ⟨c, false⟩

/-- One part of a class or a range between two characters. -/
def readClassRange : Reader ClassTree := do
  let first ← readClassItem
  skipBlank
  let c ← peek
  let second ← peekSecond?
  if c ≠ '-' ∨ second = some ']' ∨ second = some '-' then
    match first with
    | .literal l => return .literal l
    | .named negated name => return .named negated name
    | .shorthand negated name => return .shorthand negated name
    | _ => fail
  else
    next
    let last ← readClassItem
    match first, last with
    | .literal low, .literal high =>
      if low.char ≤ high.char then return .range low high else fail
    | _, _ => fail

/-- Several parts as one. -/
def unionOf : List ClassTree → ClassTree
  | [] => .empty
  | [item] => item
  | items => .union items

/-- Hyphens at the start of a class. -/
def readHyphens : Nat → List ClassTree → Reader (List ClassTree)
  | 0, items => return items
  | fuel + 1, items => do
    if (← peek) = '-' then
      next
      readHyphens fuel (items ++ [.literal ⟨'-', false⟩])
    else return items

/-- The opening of a class: its sign, and the hyphens or the bracket that stand for themselves. -/
def readClassOpening : Reader (Bool × List ClassTree) := do
  next
  let negated := (← peek) == '^'
  if negated then next
  let items ← readHyphens ((← rest).length + 1) []
  if items.isEmpty ∧ (← peek) = ']' then
    next
    let _ ← peek
    return (negated, [.literal ⟨']', false⟩])
  else return (negated, items)

/-- Join what stands before an operator to what stands between it and the operator before. -/
def joinClass (left? : Option (ClassOp × ClassTree)) (items : List ClassTree) : ClassTree :=
  match left? with
  | none => unionOf items
  | some (kind, left) => .op kind left (unionOf items)

/-- The operator between sets that comes next. -/
def classOp? : List Char → Option ClassOp
  | '&' :: '&' :: _ => some .intersection
  | '-' :: '-' :: _ => some .difference
  | '~' :: '~' :: _ => some .symmetricDifference
  | _ => none

mutual

/-- A class from its opening bracket on. -/
def readClass (fuel : Nat) : Reader ClassTree :=
  match fuel with
  | 0 => fail
  | fuel + 1 => do
    let (negated, items) ← readClassOpening
    let inner ← readClassBody fuel none items
    return .bracketed negated inner

/-- The parts of a class up to its closing bracket, after an operator and what stands before it,
and the parts since. -/
def readClassBody (fuel : Nat) (left? : Option (ClassOp × ClassTree)) (items : List ClassTree) :
    Reader ClassTree :=
  match fuel with
  | 0 => fail
  | fuel + 1 => do
    skipBlank
    let cs ← rest
    match classOp? cs with
    | some kind =>
      setRest (cs.drop 2)
      readClassBody fuel (some (kind, joinClass left? items)) []
    | none =>
      let c ← peek
      if c = ']' then
        advance
        return joinClass left? items
      else if c = '[' then
        match asciiClass? cs with
        | some (item, rest) =>
          setRest rest
          readClassBody fuel left? (items ++ [item])
        | none =>
          let item ← readClass fuel
          readClassBody fuel left? (items ++ [item])
      else
        let item ← readClassRange
        readClassBody fuel left? (items ++ [item])

end

/-! ## Groups and repetitions -/

/-- Decimal digits with blanks around them. -/
def readDigits : Nat → List Char → Reader (List Char)
  | 0, digits => return digits
  | fuel + 1, digits => do
    match ← peek? with
    | some c =>
      if c.isDigit then
        next
        readDigits fuel (digits ++ [c])
      else return digits
    | none => return digits

/-- A number of 32 bits in blanks, `none` where there are no digits. -/
def readCount : Reader (Option Nat) := do
  setRest ((← rest).dropWhile Text.isBlank)
  let digits ← readDigits ((← rest).length + 1) []
  setRest ((← rest).dropWhile Text.isBlank)
  skipBlank
  match Text.number? 10 digits with
  | none => return none
  | some n => if n < Nat.pow 2 32 then return some n else fail

/-- The bounds of a counted repetition from its brace on. -/
def readBounds : Reader (Nat × Option Nat) := do
  next
  let least? ← readCount
  let c ← peek
  let bounds ←
    match least? with
    | none => fail
    | some least =>
      if c = ',' then do
        next
        if (← peek) = '\x7d' then pure (least, none)
        else
          match ← readCount with
          | some most => if least ≤ most then pure (least, some most) else fail
          | none => fail
      else pure (least, some least)
  if (← peek) = '\x7d' then
    next
    return bounds
  else fail

/-- What a repetition applies to: the last part, if it is one that can be repeated. The parts are
given from the last to the first. -/
def popRepeatable : List Tree → Reader (List Tree × Tree)
  | [] => fail
  | .empty :: _ => fail
  | .flags _ :: _ => fail
  | part :: before => return (before, part)

def flag? : Char → Option Flag
  | 'i' => some .caseInsensitive
  | 'm' => some .multiLine
  | 's' => some .dotMatchesNewLine
  | 'U' => some .swapGreed
  | 'u' => some .unicode
  | 'R' => some .crlf
  | 'x' => some .verbose
  | _ => none

/-- Flags up to a colon or a closing parenthesis. A minus sign may stand once, before a flag that
it turns off, and no flag may stand twice. -/
def readFlags : Nat → Bool → Bool → FlagChange → Reader (FlagChange × Bool)
  | 0, _, _, _ => fail
  | fuel + 1, negated, dangling, change => do
    let c ← peek
    if c = ':' ∨ c = ')' then
      if dangling then fail else return (change, negated)
    else if c = '-' then
      if negated then fail
      else
        advance
        readFlags fuel true true change
    else
      match flag? c with
      | some f =>
        if (change.lookup f).isSome then fail
        else
          advance
          readFlags fuel negated false (change ++ [(f, !negated)])
      | none => fail

/-- The characters of the names of groups. -/
def isNameChar (isFirst : Bool) (c : Char) : Bool :=
  c == '_' || Text.isLetter c ||
    (!isFirst && (c == '.' || c == '[' || c == ']' || Text.isNumeral c))

/-- The name of a group, which no other group may have, and the angle bracket after it. -/
def readGroupName : Reader Unit := do
  let cs ← rest
  let name := cs.takeWhile (· != '>')
  let isSound :=
    match name with
    | [] => false
    | c :: more => isNameChar true c && more.all (isNameChar false)
  let taken := (← get).names.contains name
  if isSound && name.length < cs.length && !taken then
    modify fun c => { c with rest := cs.drop (name.length + 1), names := name :: c.names }
  else fail

/-- The beginning of a group after its parenthesis: flags for the rest of the group around it, or
a group with the flags for its inside. -/
inductive Opening
  | flags (change : FlagChange)
  | group (isKept : Bool) (change : FlagChange)

def readOpening : Reader Opening := do
  advance
  skipBlank
  let cs ← rest
  if ["?=", "?!", "?<=", "?<!"].any fun look => look.toList.isPrefixOf cs then fail
  else if ← accept "?P<" then
    readGroupName
    return .group true []
  else if ← accept "?<" then
    readGroupName
    return .group true []
  else if ← accept "?" then
    let (change, negated) ← readFlags ((← rest).length + 1) false false []
    let c ← peek
    advance
    if c = ')' then
      if change.isEmpty && !negated then fail else return .flags change
    else return .group false change
  else return .group true []

/-- Several parts in sequence as one. -/
def concatOf : List Tree → Tree
  | [] => .empty
  | [part] => part
  | parts => .concat parts

/-- Several arms as one. -/
def alternationOf : List Tree → Tree
  | [arm] => arm
  | arms => .alternation arms

/-- The arms of a pattern and the parts of its last arm as one, both given from the last to the
first. -/
def finishArms (arms parts : List Tree) : Tree :=
  alternationOf (concatOf parts.reverse :: arms).reverse

/-- Use the new setting for skipping blanks, if flags change it. -/
def applyVerbose (change : FlagChange) : Reader Unit :=
  match change.lookup .verbose with
  | some v => modify fun c => { c with isVerbose := v }
  | none => return ()

mutual

/-- The arms of a pattern or a group up to its end, given the finished arms and the parts of the
one that is being read, both from the last to the first. -/
def readArms (fuel : Nat) (arms parts : List Tree) : Reader Tree :=
  match fuel with
  | 0 => fail
  | fuel + 1 => do
    skipBlank
    match ← peek? with
    | none => return finishArms arms parts
    | some c =>
      if c = ')' then return finishArms arms parts
      else if c = '|' then
        advance
        readArms fuel (concatOf parts.reverse :: arms) []
      else if c = '(' then
        let part ← readGroup fuel
        readArms fuel arms (part :: parts)
      else if c = '[' then
        match ← readClass fuel with
        | .bracketed negated inner => readArms fuel arms (.bracketed negated inner :: parts)
        | _ => fail
      else if c = '?' ∨ c = '*' ∨ c = '+' then
        let (before, part) ← popRepeatable parts
        advance
        let isLazy ← accept "?"
        let least := if c = '+' then 1 else 0
        let most := if c = '?' then some 1 else none
        readArms fuel arms (.repetition least most (!isLazy) part :: before)
      else if c = '\x7b' then
        let (before, part) ← popRepeatable parts
        let (least, most) ← readBounds
        let isLazy ← accept "?"
        readArms fuel arms (.repetition least most (!isLazy) part :: before)
      else if c = '\\' then
        let part ← readEscape
        readArms fuel arms (part :: parts)
      else
        advance
        let part : Tree :=
          match c with
          | '.' => .dot
          | '^' => .assertion .startLine
          | '$' => .assertion .endLine
          | _ => .literal ⟨c, false⟩
        readArms fuel arms (part :: parts)

/-- A group from its parenthesis on. -/
def readGroup (fuel : Nat) : Reader Tree :=
  match fuel with
  | 0 => fail
  | fuel + 1 => do
    match ← readOpening with
    | .flags change =>
      applyVerbose change
      return .flags change
    | .group isKept change =>
      let outer := (← get).isVerbose
      applyVerbose change
      let body ← readArms fuel [] []
      expect ")"
      modify fun c => { c with isVerbose := outer }
      return .group isKept change body

end

/-- How deep the parts of a pattern may lie inside one another. -/
def depthLimit : Nat := 250

/-- The tree of a pattern. -/
def Tree.ofText? (text : List Char) : Option Tree := do
  let (tree, cursor) ← (readArms (2 * text.length + 2) [] []).run ⟨text, false, []⟩
  if cursor.rest.isEmpty ∧ tree.depth ≤ depthLimit then return tree else none

end ContainerRoster.Pattern
