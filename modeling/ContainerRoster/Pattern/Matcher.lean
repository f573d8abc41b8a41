import ContainerRoster.Pattern.Named
import ContainerRoster.Pattern.Node

/-!
# Matching

Where a pattern can match. A set of positions in a text is a natural number with a bit for every
position. Each pattern takes the set of positions where a match may start to the set where it may
end, so alternatives and repetitions need no search: a set of characters shifts by one the
positions that stand before one of its characters, a condition keeps the positions where it holds,
and a repetition is applied until no new position comes.
-/

namespace ContainerRoster.Pattern

open Unicode

/-- The characters of words. -/
def wordChars (isUnicode : Bool) : CharSet :=
  if isUnicode then Shorthand.word.chars else Shorthand.word.asciiChars

/-- Whether a condition holds between the characters before and after a position. -/
def Look.holds (look : Look) (before after : Option Char) : Bool :=
  match look with
  | .start => before.isNone
  | .finish => after.isNone
  | .lineStart => before.isNone || before == some '\n'
  | .lineEnd => after.isNone || after == some '\n'
  | .crlfLineStart =>
    before.isNone || before == some '\n' || (before == some '\r' && after != some '\n')
  | .crlfLineEnd =>
    after.isNone || after == some '\r' || (after == some '\n' && before != some '\r')
  | .word edge isUnicode =>
    let inWords := (wordChars isUnicode).contains
    edge.holds (before.any inWords) (after.any inWords)

/-- The positions from one on, with the character before it, where a condition on the characters
before and after holds. -/
def positionsFrom (holds : Option Char → Option Char → Bool) (position : Nat)
    (before : Option Char) : List Char → Nat
  | [] => if holds before none then 1 <<< position else 0
  | c :: rest =>
    (if holds before (some c) then 1 <<< position else 0) |||
      positionsFrom holds (position + 1) (some c) rest

/-- The positions of a text where a condition holds. -/
def positions (text : List Char) (holds : Option Char → Option Char → Bool) : Nat :=
  positionsFrom holds 0 none text

/-- The positions after one character that is accepted. -/
def afterChar (text : List Char) (accept : Char → Bool) (s : Nat) : Nat :=
  (s &&& positions text fun _ after => after.any accept) <<< 1

/-- Apply a step so many times. -/
def iterate (step : Nat → Nat) : Nat → Nat → Nat
  | 0, s => s
  | n + 1, s => iterate step n (step s)

/-- All positions reached by at most so many steps. -/
def reach (step : Nat → Nat) : Nat → Nat → Nat
  | 0, s => s
  | n + 1, s => s ||| reach step n (step s)

namespace Node

mutual

/-- The positions where matches end that start at one of the given positions. A body that has been
repeated more often than there are characters has matched the empty text on the way, so further
rounds reach nothing new. -/
def ends (text : List Char) : Node → Nat → Nat
  | .empty, s => s
  | .text cs, s => cs.foldl (fun s c => afterChar text (· == c) s) s
  | .chars set, s => afterChar text set.contains s
  | .look l, s => s &&& positions text l.holds
  | .times least most _ body, s =>
    let rounds := text.length + 1
    let forced := min least rounds
    let further :=
      match most with
      | none => rounds
      | some most => min (most - least) rounds
    reach (body.ends text) further (iterate (body.ends text) forced s)
  | .group body, s => body.ends text s
  | .seq parts, s => endsOfParts text parts s
  | .either arms, s => endsOfArms text arms s

def endsOfParts (text : List Char) : List Node → Nat → Nat
  | [], s => s
  | part :: rest, s => endsOfParts text rest (part.ends text s)

def endsOfArms (text : List Char) : List Node → Nat → Nat
  | [], _ => 0
  | arm :: rest, s => arm.ends text s ||| endsOfArms text rest s

end

/-- Whether a pattern matches somewhere in a text. -/
def accepts (node : Node) (text : List Char) : Bool :=
  node.ends text (Nat.pow 2 (text.length + 1) - 1) != 0

end Node

end ContainerRoster.Pattern
