/-!
# Refusals

The readers of documents, settings and patterns refuse what is not written as it should be, and each
says why in words of its own. A refusal carries what was refused. The words depend on that alone,
and nothing but messages depends on the words, so a run gets them from outside.
-/

namespace ContainerRoster

/-- The documents that storage keeps for a container. -/
inductive DocumentKind
  | config
  | state
  deriving DecidableEq, Repr

/-- What a reader refuses. -/
inductive Refusal
  | document (kind : DocumentKind) (bytes : List UInt8)
  | settings (text : List Char)
  | pattern (text : String)
  deriving DecidableEq, Repr

/-- What the readers say of what they refuse. -/
abbrev Wording := Refusal → String

end ContainerRoster
