import ContainerRoster.Toml.Reader

/-!
# TOML documents

A document is read line by line. The table that the last header named is kept apart, with the
entries given so far, and is put into its place when the next header or the end of the document
comes.
-/

namespace ContainerRoster.Toml

/-- What has been read of a document: the finished part, and the table being filled. -/
structure Document where
  root : Entries
  /-- The keys of the header of the table being filled, empty before the first header. -/
  path : List String
  /-- Whether that header stands in double brackets. -/
  isElement : Bool
  entries : Entries

namespace Document

def start : Document := ⟨[], [], false, []⟩

/-- Put the table being filled into its place. -/
def finish (doc : Document) : Option Entries :=
  match doc.path.getLast? with
  | none => some doc.entries
  | some key =>
    Entries.update false (fun _ parent =>
      if doc.isElement then
        match parent.lookup key with
        | some (.tables elements) =>
          some (Entries.replace key (.tables (elements ++ [doc.entries])) parent)
        | some _ => none
        | none => some (parent ++ [(key, .tables [doc.entries])])
      else if (parent.lookup key).isSome then none
      else some (parent ++ [(key, .table .header doc.entries)])) doc.path.dropLast .header doc.root

/-- The entries of the table at the end of a path, through the last of repeated tables. -/
def entriesAt : List String → Entries → Entries
  | [], entries => entries
  | key :: path, entries =>
    match entries.lookup key with
    | some (.table _ inner) => entriesAt path inner
    | some (.tables elements) => entriesAt path (elements.getLast?.getD [])
    | _ => []

/-- Begin the table of a header in single brackets. Longer headers may have opened it before: then
it is taken out of its place with what they put into it. Any other table or value of its name is
in the way. -/
def openTable (doc : Document) (path : List String) (key : String) : Option Document := do
  let root ← doc.finish
  let rest ← Entries.update false (fun _ parent =>
    match parent.lookup key with
    | none => some parent
    | some (.table .path _) => some (Entries.erase key parent)
    | some _ => none) path .header root
  let kept :=
    match (entriesAt path root).lookup key with
    | some (.table _ inner) => inner
    | _ => []
  return ⟨rest, path ++ [key], false, kept⟩

/-- Begin one more of the tables of a header in double brackets. -/
def openElement (doc : Document) (path : List String) (key : String) : Option Document := do
  let root ← doc.finish
  let root ← Entries.update false (fun _ parent =>
    match parent.lookup key with
    | none => some (parent ++ [(key, .tables [])])
    | some (.tables _) => some parent
    | some _ => none) path .header root
  return ⟨root, path ++ [key], true, []⟩

/-- Add an entry to the table being filled. -/
def add (doc : Document) (path : List String) (key : String) (item : Item) : Option Document := do
  let entries ← Entries.insertDotted .header path key item doc.entries
  return { doc with entries }

/-- One line: nothing, a header, or an entry, whose value may run over more lines. -/
def readLine (doc : Document) (cs : List Char) : Option (Document × List Char) :=
  match cs with
  | '[' :: '[' :: rest => do
    let ((path, key), rest) ← readKey rest
    let rest ← lineEnd? (← expect ']' (← expect ']' rest))
    return (← doc.openElement path key, rest)
  | '[' :: rest => do
    let ((path, key), rest) ← readKey rest
    let rest ← lineEnd? (← expect ']' rest)
    return (← doc.openTable path key, rest)
  | c :: _ =>
    if c = '#' ∨ c = '\n' ∨ c = '\r' then (lineEnd? cs).map fun rest => (doc, rest)
    else do
      let ((path, key), rest) ← readKey cs
      let (item, rest) ← readItem (2 * rest.length + 2) 0 (skipGap (← expect '=' rest))
      let rest ← lineEnd? rest
      return (← doc.add path key item, rest)
  | [] => some (doc, [])

/-- Lines up to the end. Each takes at least one character, so the length is fuel enough. -/
def readLines : Nat → Document → List Char → Option Document
  | _, doc, [] => some doc
  | 0, _, _ :: _ => none
  | fuel + 1, doc, c :: cs => do
    let (doc, rest) ← doc.readLine (c :: cs)
    readLines fuel doc (skipGap rest)

end Document

/-- The entries of a document; a byte order mark may stand in front. -/
def ofText? (text : List Char) : Option Entries :=
  let text :=
    match text with
    | '\ufeff' :: rest => rest
    | _ => text
  let text := skipGap text
  match Document.readLines text.length Document.start text with
  | some doc => doc.finish
  | none => none

end ContainerRoster.Toml
