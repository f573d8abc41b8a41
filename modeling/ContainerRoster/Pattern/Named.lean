import ContainerRoster.Pattern.Tree
import ContainerRoster.Unicode.Age
import ContainerRoster.Unicode.Boundary
import ContainerRoster.Unicode.Category
import ContainerRoster.Unicode.Property
import ContainerRoster.Unicode.Script

/-!
# Classes by name

A name is compared without regard to case, blanks, hyphens, underscores and a leading `is`. It may
be that of a binary property, of a general category or of a script, and they are tried in this
order. With the name of a property in front it is that of one of its values.
-/

namespace ContainerRoster.Pattern

open Unicode

/-- The letters of a name that count. -/
def normalize (name : String) : String :=
  let ascii := name.toList.filter fun c => c.toNat < 0x80
  let lowered := ascii.map Char.toLower
  let isPrefixed := (name.toList.take 2).map Char.toLower == ['i', 's']
  let body := if isPrefixed then lowered.drop 2 else lowered
  let body := body.filter fun c => c != ' ' && c != '_' && c != '-'
  -- The short name of a property that no pattern can use; else it would be read as category C.
  if isPrefixed && body == ['c'] then "isc" else String.ofList body

/-- A category or a group of categories by one of its names, in normal form. -/
def category? (name : String) : Option CharSet :=
  if name == "any" then some CharSet.all
  else if name == "ascii" then some ⟨[(0, 0x7F)]⟩
  else if name == "assigned" then some (Category.among ["Cn"]).compl
  else
    let matching (code : String) (long : List String) : Bool :=
      (code :: long).any fun n => normalize n == name
    match Category.names.find? fun (code, long) => matching code long with
    | some (code, _) => some (Category.among [code])
    | none =>
      (Category.groups.find? fun (code, long, _) => matching code long).map
        fun (_, _, codes) => Category.among codes

/-- The code of a script by one of its names, in normal form. -/
def scriptCode? (name : String) : Option String :=
  (Script.names.find? fun (code, long) => (code :: long).any fun n => normalize n == name).map (·.1)

/-- A binary property by one of its names, in normal form. -/
def property? (name : String) : Option CharSet :=
  (Property.named.find? fun (names, _) => names.any fun n => normalize n == name).map (·.2)

/-- The characters with a value of a boundary property by one of its names, in normal form. -/
def boundary? (boundary : Boundary) (name : String) : Option CharSet :=
  (boundary.names.find? fun (code, long) => (code :: long).any fun n => normalize n == name).map
    fun (code, _) => boundary.among code

/-- The characters of a version of the standard by one of its names, in normal form. -/
def age? (name : String) : Option CharSet :=
  (Age.versions.find? fun version => (Age.names version).any fun n => normalize n == name).map
    Age.upTo

/-- The characters of a class of Unicode. -/
def ClassName.chars? : ClassName → Option CharSet
  | .plain name =>
    let name := normalize name
    -- Three of the names also belong to properties that are not binary.
    let property? := if ["cf", "sc", "lc"].contains name then none else property? name
    (property?.or (category? name)).or ((scriptCode? name).map Script.among)
  | .value kind name =>
    let kind := normalize kind
    let name := normalize name
    if kind == "gc" || kind == "generalcategory" then category? name
    else if kind == "sc" || kind == "script" then (scriptCode? name).map Script.among
    else if kind == "scx" || kind == "scriptextensions" then
      (scriptCode? name).map Script.extended
    else if kind == "age" then age? name
    else if kind == "gcb" || kind == "graphemeclusterbreak" then boundary? .grapheme name
    else if kind == "wb" || kind == "wordbreak" then boundary? .word name
    else if kind == "sb" || kind == "sentencebreak" then boundary? .sentence name
    else none

/-- The decimal digits of all scripts. -/
def unicodeDigit : CharSet := Category.among ["Nd"]

/-- The characters of words. -/
def unicodeWord : CharSet :=
  CharSet.ofRanges <|
    Property.alphabetic.ranges ++ Property.joinControl.ranges ++
      (Category.among ["Mn", "Mc", "Me", "Nd", "Pc"]).ranges

/-- A one-letter class among all characters. -/
def Shorthand.chars : Shorthand → CharSet
  | .digit => unicodeDigit
  | .space => Property.whiteSpace
  | .word => unicodeWord

def range (low high : Char) : Nat × Nat := (low.toNat, high.toNat)

/-- A class of ASCII. -/
def AsciiClass.chars : AsciiClass → CharSet
  | .alnum => .ofRanges [range '0' '9', range 'A' 'Z', range 'a' 'z']
  | .alpha => .ofRanges [range 'A' 'Z', range 'a' 'z']
  | .ascii => ⟨[(0, 0x7F)]⟩
  | .blank => .ofRanges [range '\t' '\t', range ' ' ' ']
  | .cntrl => ⟨[(0, 0x1F), (0x7F, 0x7F)]⟩
  | .digit => ⟨[range '0' '9']⟩
  | .graph => ⟨[range '!' '~']⟩
  | .lower => ⟨[range 'a' 'z']⟩
  | .print => ⟨[range ' ' '~']⟩
  | .punct => .ofRanges [range '!' '/', range ':' '@', range '[' '\x60', range '\x7b' '~']
  | .space => .ofRanges [(9, 13), range ' ' ' ']
  | .upper => ⟨[range 'A' 'Z']⟩
  | .word => .ofRanges [range '0' '9', range 'A' 'Z', range '_' '_', range 'a' 'z']
  | .xdigit => .ofRanges [range '0' '9', range 'A' 'F', range 'a' 'f']

/-- A one-letter class among ASCII alone. -/
def Shorthand.asciiChars : Shorthand → CharSet
  | .digit => AsciiClass.digit.chars
  | .space => AsciiClass.space.chars
  | .word => AsciiClass.word.chars

end ContainerRoster.Pattern
