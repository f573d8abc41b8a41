/-!
# Blanks, line ends and comments of TOML
-/

namespace ContainerRoster.Toml

/-- A space or a tab. -/
def isGap (c : Char) : Bool := c == ' ' || c == '\t'

def skipGap (cs : List Char) : List Char := cs.dropWhile isGap

/-- The characters of comments and, quotes aside, of literal strings. -/
def isText (c : Char) : Bool :=
  c == '\t' || (0x20 ≤ c.toNat && c.toNat != 0x7F)

/-- What follows a line end, if there is one. -/
def newline? : List Char → Option (List Char)
  | '\n' :: rest => some rest
  | '\r' :: '\n' :: rest => some rest
  | _ => none

/-- Without a comment at the front. -/
def skipComment : List Char → List Char
  | '#' :: rest => rest.dropWhile isText
  | cs => cs

/-- What follows the rest of a line on which nothing more is said. -/
def lineEnd? (cs : List Char) : Option (List Char) :=
  match skipComment (skipGap cs) with
  | [] => some []
  | rest => newline? rest

/-- Skip blanks, line ends and comments that end with their line. Each round takes at least one
character, so the length is fuel enough. -/
def skipLines : Nat → List Char → List Char
  | 0, cs => cs
  | fuel + 1, cs =>
    match cs with
    | '#' :: rest =>
      match newline? (rest.dropWhile isText) with
      | some rest => skipLines fuel rest
      | none => cs
    | c :: rest =>
      if isGap c then skipLines fuel rest
      else
        match newline? cs with
        | some rest => skipLines fuel rest
        | none => cs
    | [] => []

end ContainerRoster.Toml
