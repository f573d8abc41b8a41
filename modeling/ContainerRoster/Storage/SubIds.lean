import ContainerRoster.FileSystem
import ContainerRoster.Storage.IdMap
import ContainerRoster.Text.Blank
import ContainerRoster.Text.Quoted

/-!
# Subordinate ids

Two files grant ranges of ids to users and to groups, one range a line: a name, the first id and
how many, with colons between. Lines that are blank or start with `#` say nothing. The ranges of
one name, in the order of its lines, are mapped to container ids from zero on without gaps.
-/

namespace ContainerRoster

/-- Where the ranges of users and of groups are written. -/
structure SubIdFiles where
  users : String
  groups : String
  deriving DecidableEq, Repr

/-- Whom a range is granted to. -/
inductive Grantee
  | user
  | group
  deriving DecidableEq, Repr

/-- Why no mapping was made. -/
inductive SubIdError
  | unreadable (path : String) (cause : IoError)
  | invalidLine (line path : String)
  | badNumber (cause : Decimal.NumberError)
  | noRanges (grantee : Grantee) (name path : String)
  deriving DecidableEq, Repr

def SubIdError.message : SubIdError → String
  | .unreadable path cause => "failed to read " ++ path ++ ": " ++ cause.message
  | .invalidLine line path => "invalid line " ++ Text.quoted line ++ " in " ++ path
  | .badNumber cause => cause.message
  | .noRanges .user name path =>
    "no subuid ranges found for user " ++ Text.quoted name ++ " in " ++ path
  | .noRanges .group name path =>
    "no subgid ranges found for group " ++ Text.quoted name ++ " in " ++ path

namespace SubIds

structure Range where
  start : UInt32
  count : UInt32
  deriving DecidableEq, Repr

/-- The lines that say something, without the blanks around them. -/
def lines (text : List Char) : List (List Char) :=
  ((text.splitOn '\n').map Text.trim).filter fun line => !line.isEmpty && line.head? != some '#'

def number (cs : List Char) : Except SubIdError UInt32 :=
  match Decimal.readBelow (Nat.pow 2 32) cs with
  | .ok n => .ok (UInt32.ofNat n)
  | .error e => .error (.badNumber e)

/-- The range that a line grants to a name. Every line must have three fields, but only the
numbers of the name's own lines are read. -/
def rangeOf (path name : String) (line : List Char) : Except SubIdError (Option Range) :=
  match line.splitOn ':' with
  | [owner, start, count] =>
    if owner = name.toList then do
      let start ← number start
      let count ← number count
      return some ⟨start, count⟩
    else return none
  | _ => .error (.invalidLine (String.ofList line) path)

/-- The ranges of a name in the order of its lines. -/
def ranges (path name : String) (text : List Char) : Except SubIdError (List Range) := do
  let found ← (lines text).mapM (rangeOf path name)
  return found.filterMap id

/-- The sum of two ids, at most the largest. -/
def addId (a b : UInt32) : UInt32 :=
  if a.toNat + b.toNat < Nat.pow 2 32 then a + b else UInt32.ofNat (Nat.pow 2 32 - 1)

/-- Map ranges to container ids without gaps, from an id on. -/
def mapFrom (next : UInt32) : List Range → List IdMap
  | [] => []
  | r :: rest => ⟨next, r.start, r.count⟩ :: mapFrom (addId next r.count) rest

/-- The ranges of a name in a file that was or was not read; there must be one. -/
def granted (path : String) (grantee : Grantee) (name : String) :
    Except IoError (List Char) → Except SubIdError (List Range)
  | .error cause => .error (.unreadable path cause)
  | .ok text => do
    let found ← ranges path name text
    if found.isEmpty then .error (.noRanges grantee name path) else return found

end SubIds

end ContainerRoster
