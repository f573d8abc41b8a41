/-!
# Container states

The runtime numbers the states of a container; a number it does not define counts as unknown.
Listings show a label for each state, and a state is chosen by its label in any case.
-/

namespace ContainerRoster

inductive ContainerState
  | created
  | running
  | exited
  | unknown
  deriving DecidableEq, Repr

namespace ContainerState

def all : List ContainerState := [created, running, exited, unknown]

/-- The number that stands for the state on the wire. -/
def code : ContainerState → Int
  | created => 0
  | running => 1
  | exited => 2
  | unknown => 3

def ofCode (n : Int) : ContainerState :=
  if n = 0 then created else if n = 1 then running else if n = 2 then exited else unknown

def label : ContainerState → String
  | created => "created"
  | running => "running"
  | exited => "exited"
  | unknown => "unknown"

/-- The lowercase of the characters whose lowercase is an ASCII letter: the ASCII capitals and the
Kelvin sign. All labels are made of such letters, so the lowercase of other characters has no part
in telling them. -/
def lower (c : Char) : Char :=
  if c = '\u212a' then 'k' else c.toLower

/-- The state with this label, in any case. -/
def ofLabel? (text : String) : Option ContainerState :=
  all.find? fun state => state.label.toList == text.toList.map lower

@[simp] theorem ofCode_code (state : ContainerState) : ofCode state.code = state := by
  cases state <;> rfl

@[simp] theorem ofLabel?_label (state : ContainerState) : ofLabel? state.label = some state := by
  cases state <;> decide

end ContainerState

end ContainerRoster
