/-!
# Patterns as they are written

The tree of a regular expression before its flags have been applied: what a letter or a class
matches depends on the flags in force where it stands, and a group may set flags for the rest of
the group around it.
-/

namespace ContainerRoster.Pattern

/-- The flags that a pattern may set. -/
inductive Flag
  | caseInsensitive
  | multiLine
  | dotMatchesNewLine
  | swapGreed
  | unicode
  | crlf
  | verbose
  deriving DecidableEq, Repr

/-- Flags with what each is set to. -/
abbrev FlagChange := List (Flag × Bool)

/-- A character, and whether it was written as two hexadecimal digits, which name a byte where
characters do not count. -/
structure Literal where
  char : Char
  isByte : Bool
  deriving DecidableEq, Repr

/-- The one-letter classes. -/
inductive Shorthand
  | digit
  | space
  | word
  deriving DecidableEq, Repr

/-- The classes of ASCII that have a name between colons. -/
inductive AsciiClass
  | alnum
  | alpha
  | ascii
  | blank
  | cntrl
  | digit
  | graph
  | lower
  | print
  | punct
  | space
  | upper
  | word
  | xdigit
  deriving DecidableEq, Repr

/-- Which classes of Unicode are named. -/
inductive ClassName
  /-- A category, a script or a property. -/
  | plain (name : String)
  /-- A value of a property. -/
  | value (property value : String)
  deriving DecidableEq, Repr

inductive Assertion
  | startLine
  | endLine
  | startText
  | endText
  | wordBoundary
  | notWordBoundary
  | wordStart
  | wordEnd
  | wordStartHalf
  | wordEndHalf
  deriving DecidableEq, Repr

inductive ClassOp
  | intersection
  | difference
  | symmetricDifference
  deriving DecidableEq, Repr

/-- What may stand between square brackets. -/
inductive ClassTree
  | empty
  | literal (l : Literal)
  | range (low high : Literal)
  | ascii (negated : Bool) (name : AsciiClass)
  | named (negated : Bool) (name : ClassName)
  | shorthand (negated : Bool) (name : Shorthand)
  | bracketed (negated : Bool) (inner : ClassTree)
  | union (items : List ClassTree)
  | op (kind : ClassOp) (left right : ClassTree)
  deriving Repr

inductive Tree
  | empty
  | flags (change : FlagChange)
  | literal (l : Literal)
  | dot
  | assertion (a : Assertion)
  | named (negated : Bool) (name : ClassName)
  | shorthand (negated : Bool) (name : Shorthand)
  | bracketed (negated : Bool) (inner : ClassTree)
  | repetition (least : Nat) (most : Option Nat) (isGreedy : Bool) (body : Tree)
  /-- A group, whose match may be kept, with the flags that it sets. -/
  | group (isKept : Bool) (change : FlagChange) (body : Tree)
  | concat (parts : List Tree)
  | alternation (arms : List Tree)
  deriving Repr

mutual

/-- How deep the parts of a class lie inside one another. -/
def ClassTree.depth : ClassTree → Nat
  | .bracketed _ inner => inner.depth + 1
  | .union items => ClassTree.depths items + 1
  | .op _ left right => max left.depth right.depth + 1
  | _ => 0

def ClassTree.depths : List ClassTree → Nat
  | [] => 0
  | item :: rest => max item.depth (ClassTree.depths rest)

end

mutual

/-- How deep the parts of a pattern lie inside one another. -/
def Tree.depth : Tree → Nat
  | .bracketed _ inner => inner.depth + 1
  | .repetition _ _ _ body => body.depth + 1
  | .group _ _ body => body.depth + 1
  | .concat parts => Tree.depths parts + 1
  | .alternation arms => Tree.depths arms + 1
  | _ => 0

def Tree.depths : List Tree → Nat
  | [] => 0
  | part :: rest => max part.depth (Tree.depths rest)

end

end ContainerRoster.Pattern
