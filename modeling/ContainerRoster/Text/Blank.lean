/-!
# White space

The characters that count as blank around a line or a value: those with the Unicode property
`White_Space`. `trim` removes them at both ends.
-/

namespace ContainerRoster.Text

def isBlank (c : Char) : Bool :=
  let n := c.toNat
  (9 ≤ n && n ≤ 13) || n == 0x20 || n == 0x85 || n == 0xA0 || n == 0x1680 ||
    (0x2000 ≤ n && n ≤ 0x200A) || n == 0x2028 || n == 0x2029 || n == 0x202F || n == 0x205F ||
    n == 0x3000

/-- Without the blanks at the end. -/
def trimRight (cs : List Char) : List Char := (cs.reverse.dropWhile isBlank).reverse

/-- Without the blanks at either end. -/
def trim (cs : List Char) : List Char := trimRight (cs.dropWhile isBlank)

end ContainerRoster.Text
