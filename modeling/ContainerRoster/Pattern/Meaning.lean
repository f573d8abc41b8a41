import ContainerRoster.Pattern.Named
import ContainerRoster.Pattern.Node
import ContainerRoster.Unicode.CaseFolding

/-!
# The meaning of a pattern

Applying the flags to a tree. Flags hold from where they are set to the end of the group. Without
the flag for Unicode, classes and word boundaries know ASCII alone, and whatever could match part
of a character is no pattern.
-/

namespace ContainerRoster.Pattern

open Unicode

/-- The flags in force at a place. -/
structure Flags where
  caseInsensitive : Bool := false
  multiLine : Bool := false
  dotMatchesNewLine : Bool := false
  swapGreed : Bool := false
  unicode : Bool := true
  crlf : Bool := false

namespace Flags

def set (flags : Flags) : Flag × Bool → Flags
  | (.caseInsensitive, b) => { flags with caseInsensitive := b }
  | (.multiLine, b) => { flags with multiLine := b }
  | (.dotMatchesNewLine, b) => { flags with dotMatchesNewLine := b }
  | (.unicode, b) => { flags with unicode := b }
  | (.crlf, b) => { flags with crlf := b }
  | (.swapGreed, b) => { flags with swapGreed := b }
  | (.verbose, _) => flags

def apply (flags : Flags) (change : FlagChange) : Flags := change.foldl set flags

end Flags

/-- A set of ASCII closed under case. -/
def closeAscii (s : CharSet) : CharSet :=
  let letters := ((List.range 26).map fun i => (Char.ofNat (65 + i), Char.ofNat (97 + i))).filter
    fun (upper, lower) => s.contains upper || s.contains lower
  s.union (CharSet.ofRanges (letters.flatMap fun (upper, lower) =>
    [(upper.toNat, upper.toNat), (lower.toNat, lower.toNat)]))

namespace Flags

/-- Close a set under case, where case does not count. -/
def fold (flags : Flags) (s : CharSet) : CharSet :=
  if !flags.caseInsensitive then s
  else if flags.unicode then CaseFolding.close s
  else closeAscii s

/-- Close a set under case and take its complement, if so marked. A complement is no class of
ASCII. -/
def foldAndNegate (flags : Flags) (negated : Bool) (s : CharSet) : Option CharSet :=
  let folded := flags.fold s
  if !negated then some folded
  else if flags.unicode then some folded.compl
  else none

/-- The character of a literal. Two hexadecimal digits name a byte where characters do not count,
and must then name one of ASCII. -/
def literal? (flags : Flags) (l : Literal) : Option Char :=
  if !flags.unicode && l.isByte && 0x7F < l.char.toNat then none else some l.char

/-- The character of a literal in a class, which must be one of ASCII where characters do not
count. -/
def classLiteral? (flags : Flags) (l : Literal) : Option Char :=
  if !flags.unicode && 0x7F < l.char.toNat then none else some l.char

def shorthand? (flags : Flags) (negated : Bool) (name : Shorthand) : Option CharSet :=
  if flags.unicode then some (if negated then name.chars.compl else name.chars)
  else if negated then none
  else some name.asciiChars

def named? (flags : Flags) (negated : Bool) (name : ClassName) : Option CharSet := do
  if !flags.unicode then none
  flags.foldAndNegate negated (← name.chars?)

def opChars (kind : ClassOp) (left right : CharSet) : CharSet :=
  match kind with
  | .intersection => left.inter right
  | .difference => left.diff right
  | .symmetricDifference => left.symmDiff right

mutual

/-- The characters of a part of a class, before the sign of the class around it. -/
def classChars? (flags : Flags) : ClassTree → Option CharSet
  | .empty => some .empty
  | .literal l => (flags.classLiteral? l).map .singleton
  | .range low high => do
    let a ← flags.classLiteral? low
    let b ← flags.classLiteral? high
    return ⟨[(a.toNat, b.toNat)]⟩
  | .ascii negated name =>
    if flags.unicode then flags.foldAndNegate negated name.chars
    else if negated then none
    else some (flags.fold name.chars)
  | .named negated name => flags.named? negated name
  | .shorthand negated name => flags.shorthand? negated name
  | .bracketed negated inner => do flags.foldAndNegate negated (← flags.classChars? inner)
  | .union items => flags.unionChars? items
  | .op kind left right => do
    let left ← flags.classChars? left
    let right ← flags.classChars? right
    return opChars kind (flags.fold left) (flags.fold right)

def unionChars? (flags : Flags) : List ClassTree → Option CharSet
  | [] => some .empty
  | item :: rest => do
    let s ← flags.classChars? item
    let t ← flags.unionChars? rest
    return s.union t

end

def look (flags : Flags) : Assertion → Look
  | .startLine =>
    if !flags.multiLine then .start else if flags.crlf then .crlfLineStart else .lineStart
  | .endLine =>
    if !flags.multiLine then .finish else if flags.crlf then .crlfLineEnd else .lineEnd
  | .startText => .start
  | .endText => .finish
  | .wordBoundary => .word .boundary flags.unicode
  | .notWordBoundary => .word .noBoundary flags.unicode
  | .wordStart => .word .start flags.unicode
  | .wordEnd => .word .finish flags.unicode
  | .wordStartHalf => .word .startHalf flags.unicode
  | .wordEndHalf => .word .finishHalf flags.unicode

/-- What a dot matches: any character but those that end a line, unless it matches these too.
Where characters do not count it would match a part of one. -/
def dot? (flags : Flags) : Option CharSet :=
  if !flags.unicode then none
  else if flags.dotMatchesNewLine then some .all
  else if flags.crlf then some (CharSet.ofRanges [(10, 10), (13, 13)]).compl
  else some (CharSet.singleton '\n').compl

mutual

/-- The meaning of a tree, and the flags in force after it. -/
def meaning? (flags : Flags) : Tree → Option (Node × Flags)
  | .empty => some (.empty, flags)
  | .flags change => some (.empty, flags.apply change)
  | .literal l => do
    let c ← flags.literal? l
    return (.ofSet (flags.fold (.singleton c)), flags)
  | .dot => do return (.ofSet (← flags.dot?), flags)
  | .assertion a => some (.look (flags.look a), flags)
  | .named negated name => do return (.ofSet (← flags.named? negated name), flags)
  | .shorthand negated name => do return (.ofSet (← flags.shorthand? negated name), flags)
  | .bracketed negated inner => do
    let s ← flags.classChars? inner
    return (.ofSet (← flags.foldAndNegate negated s), flags)
  | .repetition least most isGreedy body => do
    let (node, flags) ← flags.meaning? body
    return (.repetition least most (isGreedy != flags.swapGreed) node, flags)
  | .group isKept change body => do
    let (node, _) ← (flags.apply change).meaning? body
    return (if isKept then .group node else node, flags)
  | .concat parts => do
    let (nodes, flags) ← flags.meanings? parts
    return (.sequence nodes, flags)
  | .alternation arms => do
    let (nodes, flags) ← flags.meanings? arms
    return (.alternation nodes, flags)

/-- The meanings of trees that stand one after the other. -/
def meanings? (flags : Flags) : List Tree → Option (List Node × Flags)
  | [] => some ([], flags)
  | tree :: rest => do
    let (node, flags) ← flags.meaning? tree
    let (nodes, flags) ← flags.meanings? rest
    return (node :: nodes, flags)

end

end Flags

end ContainerRoster.Pattern
