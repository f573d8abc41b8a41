import ContainerRoster.Text.Digit
import ContainerRoster.Toml.Characters

/-!
# TOML strings

A string stands between single or double quotes, once or three times. Double quotes know escapes;
three quotes let the string run over several lines, drop a line end right after them, and may have
up to two quotes inside or before their end.
-/

namespace ContainerRoster.Toml

/-- A character by its code in exactly as many hexadecimal digits. -/
def readCode (count : Nat) (cs : List Char) : Option (Char × List Char) := do
  let n ← Text.number? 16 (cs.take count)
  if h : n.isValidChar then
    if count ≤ cs.length then return (Char.ofNatAux n h, cs.drop count) else none
  else none

/-- The character that an escape stands for, from the letter after the backslash on. -/
def readEscape : List Char → Option (Char × List Char)
  | 'b' :: rest => some ('\x08', rest)
  | 'f' :: rest => some ('\x0c', rest)
  | 'n' :: rest => some ('\n', rest)
  | 'r' :: rest => some ('\r', rest)
  | 't' :: rest => some ('\t', rest)
  | '"' :: rest => some ('"', rest)
  | '\\' :: rest => some ('\\', rest)
  | 'u' :: rest => readCode 4 rest
  | 'U' :: rest => readCode 8 rest
  | _ => none

/-- A string between single double quotes, after the first of them. -/
def readBasic : Nat → List Char → Option (List Char × List Char)
  | 0, _ => none
  | _ + 1, '"' :: rest => some ([], rest)
  | fuel + 1, '\\' :: rest => do
    let (c, rest) ← readEscape rest
    let (text, rest) ← readBasic fuel rest
    return (c :: text, rest)
  | fuel + 1, c :: rest =>
    if isText c then (readBasic fuel rest).map fun (text, rest) => (c :: text, rest) else none
  | _ + 1, [] => none

/-- A string between single quotes, after the first of them. -/
def readLiteral (cs : List Char) : Option (List Char × List Char) :=
  let text := cs.takeWhile fun c => isText c && c != '\''
  match cs.drop text.length with
  | '\'' :: rest => some (text, rest)
  | _ => none

/-- The end of a string in three quotes, if a run of quotes is one: up to two of them still belong
to the string. -/
def closing? (quote : Char) (cs : List Char) : Option (List Char × List Char) :=
  let run := (cs.takeWhile (· == quote)).length
  if run < 3 then none
  else
    let inner := min (run - 3) 2
    some (List.replicate inner quote, cs.drop (inner + 3))

/-- Without blanks and line ends at the front. -/
def skipBlankLines : Nat → List Char → List Char
  | 0, cs => cs
  | fuel + 1, cs =>
    match newline? cs with
    | some rest => skipBlankLines fuel (skipGap rest)
    | none =>
      match cs with
      | c :: rest => if isGap c then skipBlankLines fuel rest else cs
      | [] => []

/-- A string in three quotes of either kind, after the opening and a line end right behind it. -/
def readLong (quote : Char) : Nat → List Char → Option (List Char × List Char)
  | 0, _ => none
  | fuel + 1, cs =>
    match closing? quote cs with
    | some (text, rest) => some (text, rest)
    | none =>
      match newline? cs, cs with
      | some rest, _ => (readLong quote fuel rest).map fun (text, rest) => ('\n' :: text, rest)
      | none, '\\' :: rest =>
        if quote = '"' then
          match newline? (skipGap rest) with
          | some folded => readLong quote fuel (skipBlankLines folded.length folded)
          | none => do
            let (c, rest) ← readEscape rest
            let (text, rest) ← readLong quote fuel rest
            return (c :: text, rest)
        else (readLong quote fuel rest).map fun (text, rest) => ('\\' :: text, rest)
      | none, c :: rest =>
        if isText c then (readLong quote fuel rest).map fun (text, rest) => (c :: text, rest)
        else none
      | none, [] => none

/-- A string on one line. -/
def readShortString : List Char → Option (List Char × List Char)
  | '"' :: rest => readBasic (rest.length + 1) rest
  | '\'' :: rest => readLiteral rest
  | _ => none

/-- The opening of a string in three quotes, with a line end right behind it. -/
def opening? (quote : Char) : List Char → Option (List Char)
  | a :: b :: c :: rest =>
    if a = quote ∧ b = quote ∧ c = quote then some ((newline? rest).getD rest) else none
  | _ => none

/-- A string of any kind. -/
def readString (cs : List Char) : Option (List Char × List Char) :=
  match opening? '"' cs, opening? '\'' cs with
  | some rest, _ => readLong '"' (rest.length + 1) rest
  | none, some rest => readLong '\'' (rest.length + 1) rest
  | none, none => readShortString cs

end ContainerRoster.Toml
