import ContainerRoster.Proofs.Yaml.ScalarReader

/-!
# Reading YAML blocks

A mapping has one entry a line in one column, a sequence one item a line behind a dash, and what
belongs to an entry or an item stands further to the right, except that a sequence may stand in the
column of the mapping that it is a value of.  Every reader starts where its part of the text does
and gives back what follows from the start of a line on.  All of them consume text before they come
back to one another, so fuel of twice the length of the text is enough.
-/

namespace ContainerRoster
namespace Yaml

/-- What follows a value that ends with its line. -/
def endOfLine? : List Char → Option (List Char)
  | [] => some []
  | c :: rest => if isBreak c then some rest else none

/-- A value that begins on the line, inside a block with the given column. -/
def readInline (parent : Nat) (cs : List Char) : Option (Json × List Char) :=
  match cs with
  | '|' :: rest => readLiteral parent rest
  | '[' :: ']' :: rest => (endOfLine? rest).map (.array [], ·)
  | '\x7b' :: '\x7d' :: rest => (endOfLine? rest).map (.object [], ·)
  | _ => do
    let (value, rest) ← readFlow cs
    return (value, ← endOfLine? rest)

/-- Whether an item of a sequence stands here. -/
def startsItem : List Char → Bool
  | '-' :: rest => startsGap rest
  | _ => false

/-- How many characters a key may take up with its colon. -/
def keyLimit : Nat := 1024

/-- The key of an entry: a string on one line before a colon, and what follows the colon. -/
def readKey (cs : List Char) : Option (String × List Char) :=
  match readFlow cs with
  | some (.string key, ':' :: rest) =>
    let written := cs.take (cs.length - rest.length)
    if startsGap rest && written.length ≤ keyLimit && !written.any isBreak then some (key, rest)
    else none
  | _ => none

mutual

/-- A node that begins here, in a column of the line and inside a block with the column of its
parent. -/
def readNode : Nat → Nat → Nat → List Char → Option (Json × List Char)
  | 0, _, _, _ => none
  | fuel + 1, parent, column, cs =>
    if startsItem cs then (readItems fuel column cs).map fun (items, rest) => (.array items, rest)
    else
      match readKey cs with
      | some (key, rest) => do
        let (members, rest) ← readMembers fuel column key rest
        if (members.map (·.1)).Nodup then some (.object members, rest) else none
      | none => readInline parent cs

/-- What follows a dash or the colon of a key.  Behind a dash, but not behind a key, a block may
begin on the line. -/
def readValue : Nat → Nat → Bool → List Char → Option (Json × List Char)
  | 0, _, _, _ => none
  | _ + 1, _, _, [] => none
  | fuel + 1, column, dash, c :: rest =>
    if isBreak c then
      let (depth, body) := indentation rest
      if column < depth then readNode fuel column depth body
      else if !dash && depth == column && startsItem body then
        (readItems fuel column body).map fun (items, rest) => (.array items, rest)
      else some (.null, rest)
    else if c = ' ' then
      let (width, body) := indentation rest
      if dash then readNode fuel column (column + 2 + width) body else readInline column body
    else none

/-- The items of a sequence in a column, the first of which begins here. -/
def readItems : Nat → Nat → List Char → Option (List Json × List Char)
  | fuel + 1, column, '-' :: rest => do
    let (item, rest) ← readValue fuel column true rest
    let (depth, body) := indentation rest
    if depth == column && startsItem body then
      let (items, rest) ← readItems fuel column body
      return (item :: items, rest)
    else return ([item], rest)
  | _, _, _ => none

/-- The members of a mapping in a column, behind the first key and its colon. -/
def readMembers : Nat → Nat → String → List Char → Option (List (String × Json) × List Char)
  | 0, _, _, _ => none
  | fuel + 1, column, key, cs => do
    let (value, rest) ← readValue fuel column false cs
    let (depth, body) := indentation rest
    match if depth == column then readKey body else none with
    | some (next, rest) => do
      let (members, rest) ← readMembers fuel column next rest
      return ((key, value) :: members, rest)
    | none => return ([(key, value)], rest)

end

/-- The tree that a text writes, if the reader takes it in. -/
def ofText? (text : String) : Option Json :=
  if text.toList.all isAllowed then
    match readNode (2 * text.length + 2) 0 0 (normalized text.toList) with
    | some (tree, []) => some tree
    | _ => none
  else none

end Yaml
end ContainerRoster
