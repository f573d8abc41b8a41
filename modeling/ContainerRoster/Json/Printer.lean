import ContainerRoster.Json.Basic

/-!
# Writing JSON

One item or member a line, indented by a tab for every bracket around it; an empty pair of
brackets stays on its line. In strings the quote, the backslash and the controls are escaped, and
nothing else.
-/

namespace ContainerRoster.Json

/-- A number below sixteen as a hexadecimal digit. -/
def hexDigit (n : Nat) : Char := Nat.digitChar n

def escapeChar (c : Char) : List Char :=
  if c = '"' then ['\\', '"']
  else if c = '\\' then ['\\', '\\']
  else if c = '\x08' then ['\\', 'b']
  else if c = '\x0c' then ['\\', 'f']
  else if c = '\n' then ['\\', 'n']
  else if c = '\r' then ['\\', 'r']
  else if c = '\t' then ['\\', 't']
  else if c.toNat < 0x20 then
    ['\\', 'u', '0', '0', hexDigit (c.toNat / 16), hexDigit (c.toNat % 16)]
  else [c]

def stringText (s : String) : List Char := '"' :: s.toList.flatMap escapeChar ++ ['"']

/-- A new line at a depth of brackets. -/
def newLine (depth : Nat) : List Char := '\n' :: List.replicate depth '\t'

/-- Parts between brackets, each on a line of its own. -/
def bracketed (opening closing : Char) (depth : Nat) (parts : List (List Char)) : List Char :=
  if parts.isEmpty then [opening, closing]
  else
    let lines := parts.map fun part => newLine (depth + 1) ++ part
    opening :: [','].intercalate lines ++ newLine depth ++ [closing]

mutual

/-- A value inside so many brackets. -/
def textAt (depth : Nat) : Json → List Char
  | .null => ['n', 'u', 'l', 'l']
  | .bool true => ['t', 'r', 'u', 'e']
  | .bool false => ['f', 'a', 'l', 's', 'e']
  | .number n => n.text
  | .string s => stringText s
  | .array items => bracketed '[' ']' depth (itemTexts (depth + 1) items)
  | .object members => bracketed '\x7b' '\x7d' depth (memberTexts (depth + 1) members)

def itemTexts (depth : Nat) : List Json → List (List Char)
  | [] => []
  | item :: rest => textAt depth item :: itemTexts depth rest

def memberTexts (depth : Nat) : List (String × Json) → List (List Char)
  | [] => []
  | (key, value) :: rest =>
    (stringText key ++ ':' :: ' ' :: textAt depth value) :: memberTexts depth rest

end

/-- A document, ended by a line break. -/
def documentText (j : Json) : String := String.ofList (textAt 0 j ++ ['\n'])

mutual

/-- The value with the members of every object in the order of their keys. -/
def sorted : Json → Json
  | .array items => .array (sortedItems items)
  | .object members => .object ((sortedMembers members).mergeSort fun a b => !decide (b.1 < a.1))
  | value => value

def sortedItems : List Json → List Json
  | [] => []
  | item :: rest => sorted item :: sortedItems rest

def sortedMembers : List (String × Json) → List (String × Json)
  | [] => []
  | (key, value) :: rest => (key, sorted value) :: sortedMembers rest

end

end ContainerRoster.Json
