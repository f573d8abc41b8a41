/-!
# TOML items

A document is a table of items. Strings keep their text; numbers, booleans and dates are only
checked, because no setting is read from what they say. A table remembers how it came about, which
decides what may still be added to it.
-/

namespace ContainerRoster.Toml

/-- How a table came about. -/
inductive Origin
  /-- It has a header of its own. -/
  | header
  /-- It lies on the path of a header and may still get its own. -/
  | path
  /-- It lies on the way of a dotted key. -/
  | dotted
  /-- It is written between braces and is complete. -/
  | braces
  deriving DecidableEq, Repr

inductive Item
  | string (text : String)
  /-- A number or a boolean. -/
  | scalar
  /-- A date, a time of day, or both. -/
  | date
  | array (items : List Item)
  | table (origin : Origin) (entries : List (String × Item))
  /-- The tables that repeated headers in double brackets make up, in order. -/
  | tables (elements : List (List (String × Item)))
  deriving Repr

abbrev Entries := List (String × Item)

namespace Entries

/-- Put an item in the place of the one with its key. -/
def replace (key : String) (item : Item) : Entries → Entries
  | [] => []
  | (k, old) :: rest => if k == key then (k, item) :: rest else (k, old) :: replace key item rest

def erase (key : String) (entries : Entries) : Entries := entries.filter (·.1 != key)

/-- Follow a path of keys, opening tables where there are none, and change the table at its end. A
path goes through the last of repeated tables; it goes neither through other values nor, when it
is a dotted key, through tables that have a header. -/
def update (isDotted : Bool) (change : Origin → Entries → Option Entries) :
    List String → Origin → Entries → Option Entries
  | [], origin, entries => change origin entries
  | key :: path, _, entries =>
    match entries.lookup key with
    | none => do
      let opened := if isDotted then Origin.dotted else Origin.path
      let inner ← update isDotted change path opened []
      return entries ++ [(key, .table opened inner)]
    | some (.table origin inner) =>
      if origin = .braces ∨ (isDotted ∧ origin = .header) then none
      else do
        let inner ← update isDotted change path origin inner
        return replace key (.table origin inner) entries
    | some (.tables elements) =>
      match elements.getLast? with
      | none => none
      | some last => do
        let last ← update isDotted change path .header last
        return replace key (.tables (elements.dropLast ++ [last])) entries
    | some _ => none

/-- Add an item under a dotted key. A key without dots goes into a table that no dotted key
opened, a key with dots into one that a dotted key did, and never over another. -/
def insertDotted (origin : Origin) (path : List String) (key : String) (item : Item)
    (entries : Entries) : Option Entries :=
  update true (fun reached inner =>
    if (reached == .dotted) == path.isEmpty then none
    else if (inner.lookup key).isSome then none
    else some (inner ++ [(key, item)])) path origin entries

end Entries

end ContainerRoster.Toml
