import ContainerRoster.Json.Basic
import ContainerRoster.Yaml.Scalar

/-!
# Writing YAML

Mappings and sequences are blocks: one entry a line, deeper ones indented by two, except that a
sequence in a mapping starts in the column of the mapping. Empty ones are a pair of brackets.
-/

namespace ContainerRoster.Yaml

/-- Text that ends its line, unless a literal block has done so already. -/
def endLine (cs : List Char) : List Char :=
  if (cs.getLast?.map isBreak).getD false then cs else cs ++ ['\n']

def spaces (n : Nat) : List Char := List.replicate n ' '

/-- Entries of a block in a column, of which the first stands where the line already is. -/
def inlineBlock (column : Nat) (entries : List (List Char)) : List Char :=
  (spaces column).intercalate entries

/-- Entries of a block in a column, on lines of their own. -/
def block (column : Nat) (entries : List (List Char)) : List Char :=
  entries.flatMap fun entry => spaces column ++ entry

mutual

/-- What follows the key of an entry or the dash of an item, up to the end of its last line. The
column is that of the block around it. -/
def valueText (column : Nat) : Json → List Char
  | .null => " null\n".toList
  | .bool true => " true\n".toList
  | .bool false => " false\n".toList
  | .number n => ' ' :: n.text ++ ['\n']
  | .string s => ' ' :: endLine (stringText column s)
  | .array [] => " []\n".toList
  | .array items => '\n' :: block column (itemTexts column items)
  | .object [] => [' ', '\x7b', '\x7d', '\n']
  | .object members => '\n' :: block (column + step) (memberTexts (column + step) members)

/-- What follows the dash of an item. Blocks start on the line of the dash. -/
def itemText (column : Nat) : Json → List Char
  | .array (item :: items) =>
    ' ' :: inlineBlock (column + step)
      (('-' :: itemText (column + step) item) :: itemTexts (column + step) items)
  | .object ((key, value) :: members) =>
    ' ' :: inlineBlock (column + step)
      ((stringText (column + step) key ++ ':' :: valueText (column + step) value) ::
        memberTexts (column + step) members)
  | value => valueText column value

def itemTexts (column : Nat) : List Json → List (List Char)
  | [] => []
  | item :: rest => ('-' :: itemText column item) :: itemTexts column rest

def memberTexts (column : Nat) : List (String × Json) → List (List Char)
  | [] => []
  | (key, value) :: rest =>
    (stringText column key ++ ':' :: valueText column value) :: memberTexts column rest

end

/-- A document that is a mapping. -/
def documentText (members : List (String × Json)) : String :=
  if members.isEmpty then String.ofList ['\x7b', '\x7d', '\n']
  else String.ofList (block 0 (memberTexts 0 members))

end ContainerRoster.Yaml
