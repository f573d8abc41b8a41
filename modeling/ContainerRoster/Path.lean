/-!
# Paths

Paths are text with `/` between the names of directories. Joining keeps a path that starts at the
root as it is, whatever it is joined to. What a path leads through is the list of its components:
empty names and all but a leading `.` say nothing, so different texts may have the same components.
-/

namespace ContainerRoster.Path

def isAbsolute (path : String) : Bool := path.toList.head? == some '/'

/-- The second path as seen from the first. -/
def join (base path : String) : String :=
  if isAbsolute path then path
  else if base.isEmpty || base.toList.getLast? == some '/' then base ++ path
  else base ++ "/" ++ path

/-- A step on the way that a path describes. -/
inductive Component
  | root
  | current
  | parent
  | normal (name : String)
  deriving DecidableEq, Repr

/-- The text between the slashes of a path. -/
def names (path : String) : List String := (path.toList.splitOn '/').map String.ofList

/-- The step that a name inside a path stands for, if it stands for one. -/
def innerComponent? (name : String) : Option Component :=
  if name == "" || name == "." then none
  else if name == ".." then some .parent
  else some (.normal name)

/-- The step that the first name of a path stands for: here `.` counts. -/
def firstComponent? (name : String) : Option Component :=
  if name == "." then some .current else innerComponent? name

/-- The steps that the names of a path stand for. -/
def steps : List String → List Component
  | [] => []
  | first :: rest => (firstComponent? first).toList ++ rest.filterMap innerComponent?

/-- The components of a path. -/
def components (path : String) : List Component :=
  (if isAbsolute path then [.root] else []) ++ steps (names path)

end ContainerRoster.Path
