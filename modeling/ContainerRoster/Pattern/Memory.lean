import ContainerRoster.Pattern.Node
import Std.Data.HashMap

/-!
# The memory of a pattern

A pattern is of use only if the automata that search for it fit into the memory that is allowed:
one that reads forwards and keeps the matches of groups, and one that reads backwards and keeps
none. Building an automaton adds states one after the other. Each takes the same memory, besides
that of its links to other states when it may have several. Nothing but the number of the states
and the memory of the links is kept here, and building fails when they become too large.
-/

namespace ContainerRoster.Pattern

open Unicode

/-- The states of an automaton so far, and the bytes that their links take. -/
structure Usage where
  states : Nat := 0
  linkBytes : Nat := 0
  deriving DecidableEq, Repr

/-- The bytes of a state, of a link for a range of bytes, and of a link for no byte. -/
def stateSize : Nat := 32
def rangeSize : Nat := 8
def jumpSize : Nat := 4

def Usage.bytes (usage : Usage) : Nat := stateSize * usage.states + usage.linkBytes

/-- The bytes that an automaton may take. -/
def memoryLimit : Nat := 10 * Nat.pow 2 20

/-- A step of building an automaton, which fails when the memory is used up. -/
abbrev Build := StateT Usage Option

/-- Which way an automaton reads. -/
inductive Direction
  | forward
  | backward
  deriving DecidableEq, Repr

namespace Build

/-- Add states with the given memory for all their links; the result is the number of the first. -/
def states (count linkBytes : Nat) : Build Nat := do
  let usage ← get
  let grown : Usage := ⟨usage.states + count, usage.linkBytes + linkBytes⟩
  if grown.bytes ≤ memoryLimit then
    set grown
    return usage.states
  else failure

/-- Add states. -/
def add (count linkBytes : Nat) : Build Unit := do let _ ← states count linkBytes

/-- Take a step so many times. -/
def rounds (step : Build Unit) : Nat → Build Unit
  | 0 => return ()
  | n + 1 => do
    step
    rounds step n

/-! ## Classes -/

/-- The states of a class that can be shared, each in a slot with what it is known by. A slot holds
the last state that came into it. -/
abbrev Shared := Std.HashMap Nat (List Nat × Nat)

/-- The slot, of so many, for what a state is known by (the hash of Fowler, Noll and Vo). -/
def slot (slots : Nat) (key : List Nat) : Nat :=
  let hash := key.foldl (fun (h : UInt64) n => (h ^^^ n.toUInt64) * 1099511628211)
    14695981039346656037
  hash.toNat % slots

/-- The state known by a key: one that its slot still holds, or a new one. -/
def share (slots : Nat) (key : List Nat) (new : Build Nat) : StateT Shared Build Nat := do
  let place := slot slots key
  match (← get)[place]? with
  | some (key', state) => if key' = key then return state
  | none => pure ()
  let state ← new
  modify (·.insert place (key, state))
  return state

/-- The states that read byte sequences forwards and lead to a target. A state reads the next byte
of all sequences that have begun alike; it is shared where all that follows is the same. -/
def sequences (target : Nat) : Nat → List (List ByteRange) → StateT Shared Build Nat
  | 0, _ => return target
  | depth + 1, seqs => do
    let links ← (seqs.splitBy fun a b => a.head? == b.head?).mapM fun alike =>
      match alike with
      | (range :: rest) :: _ => do
        let next ←
          if rest.isEmpty then pure target
          else sequences target depth (alike.map (List.drop 1))
        return [range.1, range.2, next]
      | _ => return []
    share 10000 links.flatten (states 1 (rangeSize * links.length))

/-- The states that read byte sequences backwards, each in a chain of its own up to where it begins
like an earlier one. -/
def chains (target : Nat) (seqs : List (List ByteRange)) : StateT Shared Build Unit :=
  seqs.forM fun seq => do
    let _ ← seq.foldlM (fun next range => share 1000 [next, range.1, range.2] (states 1 0)) target
    add 0 jumpSize

/-- A class. One of ASCII is a single state and the state after it. -/
def set (direction : Direction) (s : CharSet) : Build Unit :=
  if s.ranges.all fun r => decide (r.2 < 0x80) then add 2 (rangeSize * s.ranges.length)
  else
    match direction with
    | .forward => do
      let target ← states 1 0
      let _ ← (sequences target 4 s.byteSequences).run' {}
    | .backward => do
      let first ← states 2 0
      (chains (first + 1) s.byteSequences).run' {}

/-! ## Alternatives between texts -/

/-- The texts between those that are empty, of which several in front count as one. -/
def chunks (texts : List (List UInt8)) : List (List (List UInt8)) :=
  ((texts.takeWhile List.isEmpty).take 1 ++ texts.dropWhile List.isEmpty).splitOn []

/-- The states after a common beginning of texts. A text that ends there separates the texts before
it from those after it, so that the order of the alternatives is kept; the fuel is the length of
the texts. -/
def texts : Nat → List (List UInt8) → Build Unit
  | 0, _ => return ()
  | fuel + 1, all => do
    let chunks := chunks all
    chunks.forM fun chunk => do
      let heads := (chunk.filterMap List.head?).eraseDups
      heads.forM fun head => do
        let tails := (chunk.filter fun text => text.head? == some head).map (List.drop 1)
        unless tails.all List.isEmpty do texts fuel tails
      if heads.length = 1 then add 1 0
      else if 1 < heads.length then add 1 (rangeSize * heads.length)
    let filled := (chunks.filter fun chunk => !chunk.isEmpty).length
    add 1 (jumpSize * (filled + (chunks.length - 1)))

/-- The bytes of a text in the order in which they are read. -/
def bytes (direction : Direction) (text : List Char) : List UInt8 :=
  let bytes := text.flatMap String.utf8EncodeChar
  match direction with
  | .forward => bytes
  | .backward => bytes.reverse

end Build

namespace Node

open Build

def text? : Node → Option (List Char)
  | .text cs => some cs
  | _ => none

mutual

/-- Build the states of a pattern. -/
def build (direction : Direction) : Node → Build Unit
  | .empty => add 1 0
  | .text cs => add (bytes direction cs).length 0
  | .chars s => set direction s
  | .look _ => add 1 0
  | .times least most _ body =>
    match least, most with
    | 0, some 1 => do
      add 1 (2 * jumpSize)
      body.build direction
      add 1 0
    | 0, none =>
      if body.consumes then do
        add 1 (2 * jumpSize)
        body.build direction
      else do
        body.build direction
        add 3 (4 * jumpSize)
    | least, none => do
      rounds (body.build direction) least
      add 1 (2 * jumpSize)
    | least, some most => do
      if least = 0 then add 1 0
      rounds (body.build direction) least
      if least < most then
        add 1 0
        rounds (do add 1 (2 * jumpSize); body.build direction) (most - least)
  | .group body =>
    match direction with
    | .forward => do
      add 1 0
      body.build direction
      add 1 0
    | .backward => body.build direction
  | .seq parts => buildParts direction parts
  | .either arms =>
    match arms.mapM text? with
    | some cs => do
      let all := cs.map (bytes direction)
      add 1 0
      texts ((all.map List.length).sum + 1) all
    | none => buildArms direction 0 arms

/-- Build the parts of a sequence in the order in which they are read. -/
def buildParts (direction : Direction) : List Node → Build Unit
  | [] => return ()
  | part :: rest =>
    match direction with
    | .forward => do
      part.build direction
      buildParts direction rest
    | .backward => do
      buildParts direction rest
      part.build direction

/-- Build alternatives, after so many others. The states where they part and meet are added after
the second. -/
def buildArms (direction : Direction) (position : Nat) : List Node → Build Unit
  | [] => return ()
  | arm :: rest => do
    arm.build direction
    if position = 1 then add 2 0
    add 0 jumpSize
    buildArms direction (position + 1) rest

end

/-- Build an automaton: the states that skip what stands before a match, unless it can only be at
the end where reading begins, those of the pattern as a group, and one for the match. -/
def automaton (direction : Direction) (node : Node) : Build Unit := do
  let isAnchored :=
    match direction with
    | .forward => node.startsWith .start
    | .backward => node.endsWith .finish
  if isAnchored then add 1 0 else add 3 (rangeSize + 2 * jumpSize)
  (Node.group node).build direction
  add 1 0

/-- Whether both automata of a pattern fit into the memory that is allowed. -/
def fits (node : Node) : Bool :=
  [Direction.forward, .backward].all fun direction => ((node.automaton direction).run {}).isSome

end Node

end ContainerRoster.Pattern
