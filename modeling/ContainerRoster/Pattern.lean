import ContainerRoster.Pattern.Matcher
import ContainerRoster.Pattern.Meaning
import ContainerRoster.Pattern.Memory
import ContainerRoster.Pattern.Reader

/-!
# Name patterns

Regular expressions over the characters of a name. A pattern matches a name when it matches
somewhere in it.
-/

namespace ContainerRoster

structure Pattern where
  node : Pattern.Node

namespace Pattern

/-- The pattern that a text writes, if it is one and not too large. -/
def parse? (text : String) : Option Pattern := do
  let tree ← Tree.ofText? text.toList
  let (node, _) ← Flags.meaning? {} tree
  if node.fits then return ⟨node⟩ else none

/-- Whether the pattern matches somewhere in a name. -/
def accepts (pattern : Pattern) (name : String) : Bool := pattern.node.accepts name.toList

end Pattern

end ContainerRoster
