import ContainerRoster.State
import ContainerRoster.Text.Quoted

/-!
# Containers as the runtime reports them

A runtime answers a filter with containers, or with the status of a failed call.
-/

namespace ContainerRoster

structure Container where
  id : String
  /-- The name from the container's metadata, when it has any. -/
  name? : Option String
  /-- The number of its state, which need not be one that is defined. -/
  state : Int
  /-- When it was created, in nanoseconds since the epoch. -/
  createdAt : Int
  deriving DecidableEq, Repr

/-- The name of a container, empty without metadata. -/
def Container.name (c : Container) : String := c.name?.getD ""

/-- What a request asks for; a part that is absent or empty excludes nothing. -/
structure ContainerFilter where
  state : Option ContainerState := none
  id : String := ""
  podSandboxId : String := ""
  labels : List (String × String) := []
  deriving DecidableEq, Repr

/-- The status of a failed call. -/
structure Status where
  code : Int
  message : String
  /-- Bytes of the service's own. -/
  details : List UInt8
  /-- What came with the answer, in the form in which it is shown. -/
  metadata : String
  /-- What the failure goes back to, the nearest first; nothing if the service answered so. -/
  causes : List String
  deriving DecidableEq, Repr

namespace Status

/-- The names of the codes from 0 on. -/
def codeNames : List String :=
  ["Ok", "Cancelled", "Unknown", "InvalidArgument", "DeadlineExceeded", "NotFound",
   "AlreadyExists", "PermissionDenied", "ResourceExhausted", "FailedPrecondition", "Aborted",
   "OutOfRange", "Unimplemented", "Internal", "Unavailable", "DataLoss", "Unauthenticated"]

/-- The name of the code; a number without a name is unknown. -/
def codeName (status : Status) : String :=
  if status.code < 0 then "Unknown" else codeNames.getD status.code.toNat "Unknown"

/-- The status in one line. -/
def text (status : Status) : String :=
  "status: " ++ status.codeName ++ ", message: " ++ Text.quoted status.message ++
    ", details: [" ++ String.intercalate ", " (status.details.map toString) ++
    "], metadata: " ++ status.metadata

end Status

/-- A runtime service, by its answer to each request. -/
structure Runtime where
  answer : ContainerFilter → Except Status (List Container)

/-- A service that holds some containers and answers with those in the state asked for. -/
def Runtime.holding (containers : List Container) : Runtime where
  answer filter := .ok <|
    match filter.state with
    | none => containers
    | some state => containers.filter fun c => c.state == state.code

end ContainerRoster
