import ContainerRoster.Unicode.ByteSequence

/-!
# Patterns in simple form

What a pattern is once its flags are applied. The functions that build a pattern from its parts
keep it simple: sequences and alternatives do not lie directly in their like, neighbouring texts
are one text, a class of one character is a text, alternatives between characters are a class, and
what all alternatives begin with stands before them.
-/

namespace ContainerRoster.Pattern

open Unicode

/-- Conditions on whether the characters before and after a position belong to words. -/
inductive WordEdge
  | boundary
  | noBoundary
  | start
  | finish
  | startHalf
  | finishHalf
  deriving DecidableEq, Repr

/-- Whether a condition holds, given what belongs to words. -/
def WordEdge.holds (before after : Bool) : WordEdge → Bool
  | .boundary => before != after
  | .noBoundary => before == after
  | .start => !before && after
  | .finish => before && !after
  | .startHalf => !before
  | .finishHalf => !after

/-- Conditions on a position. -/
inductive Look
  | start
  | finish
  | lineStart
  | lineEnd
  | crlfLineStart
  | crlfLineEnd
  /-- A condition on words, of the characters of all scripts or of ASCII alone. -/
  | word (edge : WordEdge) (isUnicode : Bool)
  deriving DecidableEq, Repr

inductive Node
  | empty
  | text (chars : List Char)
  | chars (s : CharSet)
  | look (l : Look)
  | times (least : Nat) (most : Option Nat) (isGreedy : Bool) (body : Node)
  /-- A group whose match is kept. -/
  | group (body : Node)
  | seq (parts : List Node)
  | either (arms : List Node)
  deriving Repr

namespace Node

/-! ## Lengths -/

/-- The least of two lengths, of which both must be known. -/
def leastOf (a b : Option Nat) : Option Nat := do return min (← a) (← b)

def mostOf (a b : Option Nat) : Option Nat := do return max (← a) (← b)

def sumOf (a b : Option Nat) : Option Nat := do return (← a) + (← b)

mutual

/-- The least number of bytes of a match, `none` if a part never matches. -/
def minLength : Node → Option Nat
  | .empty => some 0
  | .text cs => some ((cs.map fun c => utf8Length c.toNat).sum)
  | .chars s => s.ranges.head?.map fun r => utf8Length r.1
  | .look _ => some 0
  | .times least _ _ body => body.minLength.map (least * ·)
  | .group body => body.minLength
  | .seq parts => minLengthOfParts parts
  | .either arms => minLengthOfArms arms

def minLengthOfParts : List Node → Option Nat
  | [] => some 0
  | part :: rest => sumOf part.minLength (minLengthOfParts rest)

def minLengthOfArms : List Node → Option Nat
  | [] => none
  | [arm] => arm.minLength
  | arm :: rest => leastOf arm.minLength (minLengthOfArms rest)

end

mutual

/-- The greatest number of bytes of a match, `none` if there is no bound or a part never matches. -/
def maxLength : Node → Option Nat
  | .empty => some 0
  | .text cs => some ((cs.map fun c => utf8Length c.toNat).sum)
  | .chars s => s.ranges.getLast?.map fun r => utf8Length r.2
  | .look _ => some 0
  | .times _ most _ body => do return (← most) * (← body.maxLength)
  | .group body => body.maxLength
  | .seq parts => maxLengthOfParts parts
  | .either arms => maxLengthOfArms arms

def maxLengthOfParts : List Node → Option Nat
  | [] => some 0
  | part :: rest => sumOf part.maxLength (maxLengthOfParts rest)

def maxLengthOfArms : List Node → Option Nat
  | [] => none
  | [arm] => arm.maxLength
  | arm :: rest => mostOf arm.maxLength (maxLengthOfArms rest)

end

/-- Whether every match is the empty text. -/
def isWeightless (node : Node) : Bool := node.maxLength == some 0

/-- Whether no match is the empty text and a match is not ruled out. -/
def consumes (node : Node) : Bool := node.minLength.any (0 < ·)

/-! ## Anchors -/

mutual

/-- Whether a condition holds where a match starts, as far as the parts show before the first that
may consume something. -/
def startsWith (l : Look) : Node → Bool
  | .look l' => l == l'
  | .times least _ _ body => 0 < least && body.startsWith l
  | .group body => body.startsWith l
  | .seq parts => startsWithParts l parts
  | .either arms => !arms.isEmpty && startsWithArms l arms
  | _ => false

def startsWithParts (l : Look) : List Node → Bool
  | [] => false
  | part :: rest => part.startsWith l || (part.isWeightless && startsWithParts l rest)

def startsWithArms (l : Look) : List Node → Bool
  | [] => true
  | arm :: rest => arm.startsWith l && startsWithArms l rest

end

mutual

/-- Whether a condition holds where a match ends, as far as the parts show after the last that may
consume something. -/
def endsWith (l : Look) : Node → Bool
  | .look l' => l == l'
  | .times least _ _ body => 0 < least && body.endsWith l
  | .group body => body.endsWith l
  | .seq parts => endsWithParts l parts
  | .either arms => !arms.isEmpty && endsWithArms l arms
  | _ => false

def endsWithParts (l : Look) : List Node → Bool
  | [] => false
  | part :: rest => endsWithParts l rest || (rest.all isWeightless && part.endsWith l)

def endsWithArms (l : Look) : List Node → Bool
  | [] => true
  | arm :: rest => arm.endsWith l && endsWithArms l rest

end

/-! ## Comparison -/

mutual

/-- Whether two patterns are the same. Groups never are, because each keeps a match of its own. -/
def same : Node → Node → Bool
  | .empty, .empty => true
  | .text cs, .text cs' => cs == cs'
  | .chars s, .chars s' => s == s'
  | .look l, .look l' => l == l'
  | .times least most isGreedy body, .times least' most' isGreedy' body' =>
    least == least' && most == most' && isGreedy == isGreedy' && body.same body'
  | .seq parts, .seq parts' => sameAll parts parts'
  | .either arms, .either arms' => sameAll arms arms'
  | _, _ => false

def sameAll : List Node → List Node → Bool
  | [], [] => true
  | node :: rest, node' :: rest' => node.same node' && sameAll rest rest'
  | _, _ => false

end

mutual

/-- The number of patterns within a pattern, itself included. -/
def count : Node → Nat
  | .times _ _ _ body => body.count + 1
  | .group body => body.count + 1
  | .seq parts => countAll parts + 1
  | .either arms => countAll arms + 1
  | _ => 1

def countAll : List Node → Nat
  | [] => 0
  | node :: rest => node.count + countAll rest

end

/-! ## Building -/

/-- The pattern of a class. -/
def ofSet (s : CharSet) : Node :=
  match s.ranges with
  | [(low, high)] => if low = high then .text [Char.ofNat low] else .chars s
  | _ => .chars s

/-- What a pattern is in a sequence. -/
def inSequence : Node → List Node
  | .empty => []
  | .seq parts => parts
  | node => [node]

/-- What a pattern is among alternatives. -/
def inAlternation : Node → List Node
  | .either arms => arms
  | node => [node]

/-- Join texts that follow one another. -/
def joinTexts : List Node → List Node
  | [] => []
  | node :: rest =>
    match node, joinTexts rest with
    | .text cs, .text cs' :: rest => .text (cs ++ cs') :: rest
    | node, rest => node :: rest

/-- Patterns one after the other. -/
def sequence (parts : List Node) : Node :=
  match joinTexts (parts.flatMap inSequence) with
  | [] => .empty
  | [part] => part
  | parts => .seq parts

/-- The character of a text of one character. -/
def char? : Node → Option Char
  | .text [c] => some c
  | _ => none

def set? : Node → Option CharSet
  | .chars s => some s
  | _ => none

/-- The parts of a sequence. -/
def parts : Node → List Node
  | .seq parts => parts
  | _ => []

/-- How many parts two sequences begin with alike. -/
def sharedCount (xs ys : List Node) : Nat := ((xs.zip ys).takeWhile fun (x, y) => x.same y).length

/-- Alternatives. When all are sequences with a common beginning, it stands before the alternatives
between what follows it; each time the alternatives become smaller, which the fuel counts. -/
def alternationWithin (fuel : Nat) (arms : List Node) : Node :=
  match arms.flatMap inAlternation with
  | [] => .chars .empty
  | [arm] => arm
  | arms@(arm :: others) =>
    match arms.mapM char?, arms.mapM set?, fuel with
    | some cs, _, _ => ofSet (CharSet.ofRanges (cs.map fun c => (c.toNat, c.toNat)))
    | none, some sets, _ => ofSet (CharSet.ofRanges (sets.flatMap CharSet.ranges))
    | none, none, 0 => .either arms
    | none, none, fuel + 1 =>
      let shared := others.foldl (fun n other => min n (sharedCount arm.parts other.parts))
        arm.parts.length
      if shared = 0 then .either arms
      else
        let rest := arms.map fun arm => sequence (arm.parts.drop shared)
        sequence (arm.parts.take shared ++ [alternationWithin fuel rest])

def alternation (arms : List Node) : Node := alternationWithin (countAll arms) arms

/-- A repetition. What matches only the empty text is repeated once at most. -/
def repetition (least : Nat) (most : Option Nat) (isGreedy : Bool) (body : Node) : Node :=
  let (least, most) :=
    if body.isWeightless then (min least 1, some (min (most.getD 1) 1)) else (least, most)
  if most = some 0 then .empty
  else if least = 1 ∧ most = some 1 then body
  else .times least most isGreedy body

end Node

end ContainerRoster.Pattern
