import ContainerRoster.Age
import ContainerRoster.Container
import ContainerRoster.Storage.Layout

/-!
# Records of a listing

A record joins what the runtime and what storage tell about a container, as text. What is not
known is empty.
-/

namespace ContainerRoster

structure Record where
  id : String
  created : String
  state : String
  name : String
  pid : String
  ip : String
  mountPoint : String
  deriving DecidableEq, Repr

namespace Record

/-- How many characters of an id are shown unless all are asked for. -/
def shownIdLength : Nat := 13

/-- The beginning of an id, up to the byte at which the first character that is not shown starts. -/
def truncateId (id : String) : String :=
  match (Utf8.starts 0 id.toList)[shownIdLength]? with
  | some stop => String.Pos.Raw.extract id 0 ⟨stop⟩
  | none => id

/-- The record of a container at a time in nanoseconds since the epoch. -/
def assemble (container : Container) (stored : StorageRecord) (noTrunc : Bool) (now : Int) :
    Record where
  id := if noTrunc then container.id else truncateId container.id
  created := (Age.ofNanos (now - container.createdAt)).text ++ " ago"
  state := (ContainerState.ofCode container.state).label
  name := container.name
  pid := stored.pid.getD ""
  ip := stored.ip.getD ""
  mountPoint := stored.mountPoint.getD ""

end Record

end ContainerRoster
