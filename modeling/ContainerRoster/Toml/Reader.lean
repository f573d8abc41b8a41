import ContainerRoster.Toml.Basic
import ContainerRoster.Toml.Quotation
import ContainerRoster.Toml.Scalar

/-!
# Keys and values of TOML

A key is one or more names with dots between them. A value is a string, a scalar, an array over
any number of lines, or a table between braces on one line. Arrays and such tables may lie inside
one another up to a limit.
-/

namespace ContainerRoster.Toml

/-- Nesting and dotted keys stay below this. -/
def nestingLimit : Nat := 80

def isBareKey (c : Char) : Bool := c.isAlphanum || c == '_' || c == '-'

/-- One name of a key. -/
def readName (cs : List Char) : Option (String × List Char) :=
  match cs.head? with
  | none => none
  | some c =>
    if c = '"' ∨ c = '\'' then
      (readShortString cs).map fun (text, rest) => (String.ofList text, rest)
    else
      let name := cs.takeWhile isBareKey
      if name.isEmpty then none else some (String.ofList name, cs.drop name.length)

/-- Names with dots between them, and blanks around each. -/
def readNames : Nat → List Char → Option (List String × List Char)
  | 0, _ => none
  | fuel + 1, cs => do
    let (name, rest) ← readName (skipGap cs)
    match skipGap rest with
    | '.' :: rest => do
      let (names, rest) ← readNames fuel rest
      return (name :: names, rest)
    | rest => return ([name], rest)

/-- A key: the names on the way and the last name. -/
def readKey (cs : List Char) : Option ((List String × String) × List Char) := do
  let (names, rest) ← readNames nestingLimit cs
  let last ← names.getLast?
  if names.length < nestingLimit then return ((names.dropLast, last), rest) else none

/-- Build a table between braces from its entries. -/
def bracesTable : List ((List String × String) × Item) → Option Entries :=
  List.foldlM (fun entries ((path, key), item) =>
    Entries.insertDotted .braces path key item entries) []

mutual

/-- A value at the front, inside so many brackets. -/
def readItem (fuel depth : Nat) (cs : List Char) : Option (Item × List Char) :=
  match fuel with
  | 0 => none
  | fuel + 1 =>
    match cs with
    | '[' :: rest =>
      if depth + 1 < nestingLimit then
        (readArray fuel (depth + 1) rest).map fun (items, rest) => (.array items, rest)
      else none
    | '\x7b' :: rest =>
      if depth + 1 < nestingLimit then do
        let (entries, rest) ←
          match skipGap rest with
          | '\x7d' :: rest => some ([], rest)
          | _ => readBraces fuel (depth + 1) rest
        return (.table .braces (← bracesTable entries), rest)
      else none
    | c :: _ =>
      if c = '"' ∨ c = '\'' then
        (readString cs).map fun (text, rest) => (.string (String.ofList text), rest)
      else readScalar cs
    | [] => none

/-- The rest of an array after its bracket or after a comma. -/
def readArray (fuel depth : Nat) (cs : List Char) : Option (List Item × List Char) :=
  match fuel with
  | 0 => none
  | fuel + 1 =>
    match skipLines cs.length cs with
    | ']' :: rest => some ([], rest)
    | cs => do
      let (item, rest) ← readItem fuel depth cs
      match skipLines rest.length rest with
      | ']' :: rest => return ([item], rest)
      | ',' :: rest => do
        let (items, rest) ← readArray fuel depth rest
        return (item :: items, rest)
      | _ => none

/-- One or more entries up to the closing brace. -/
def readBraces (fuel depth : Nat) (cs : List Char) :
    Option (List ((List String × String) × Item) × List Char) :=
  match fuel with
  | 0 => none
  | fuel + 1 => do
    let (key, rest) ← readKey cs
    let (item, rest) ← readItem fuel depth (skipGap (← expect '=' rest))
    match skipGap rest with
    | '\x7d' :: rest => return ([(key, item)], rest)
    | ',' :: rest => do
      let (entries, rest) ← readBraces fuel depth rest
      return ((key, item) :: entries, rest)
    | _ => none

end

end ContainerRoster.Toml
