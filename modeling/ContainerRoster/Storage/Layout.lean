import ContainerRoster.Failure
import ContainerRoster.Path
import ContainerRoster.Storage.Metadata
import ContainerRoster.Storage.Store

/-!
# Where containers are stored

All containers of a driver have their directories side by side, each named by the container's id,
with the documents in a directory inside. An id that is not the plain name of a directory is
refused before anything is read, so no id leads out of its own directory.
-/

namespace ContainerRoster

/-- The directory that holds those of the containers. -/
structure Layout where
  containersDir : String
  deriving DecidableEq, Repr

/-- What storage tells about a container. -/
structure StorageRecord where
  id : String
  pid : Option String := none
  ip : Option String := none
  mountPoint : Option String := none
  deriving DecidableEq, Repr

namespace Layout

/-- The layout of a driver under a root. -/
def of (graphRoot driver : String) : Layout := ⟨Path.join graphRoot (driver ++ "-containers")⟩

def userdataDir (layout : Layout) (id : String) : String :=
  Path.join (Path.join layout.containersDir id) "userdata"

def configPath (layout : Layout) (id : String) : String :=
  Path.join (layout.userdataDir id) "config.json"

def statePath (layout : Layout) (id : String) : String :=
  Path.join (layout.userdataDir id) "state.json"

/-- Whether an id is the plain name of a directory: the only component of its own path. The
comparison refuses an id that only leads to a plain name, such as one with a slash at its end. -/
def isPlainName (id : String) : Bool :=
  match Path.components id with
  | [.normal name] => name == id
  | _ => false

/-- Read a document of a container. One that cannot be read is a failure; one that is malformed
says nothing, which is told in a warning. -/
def readDocument {α : Type} (files : FileSystem) (path : String) (kind : DocumentKind) (nothing : α)
    (parse : List UInt8 → Option α) : ExceptT Failure Traced α := do
  match ← Traced.read files path with
  | .error cause => throw (.storage (.unreadable path cause))
  | .ok bytes =>
    match parse bytes with
    | some document => return document
    | none =>
      Traced.warn (.malformedDocument path kind bytes)
      return nothing

/-- What storage tells about a container, from its configuration and then its state. -/
def correlate (layout : Layout) (files : FileSystem) (id : String) :
    ExceptT Failure Traced StorageRecord := do
  if isPlainName id then
    let config ← readDocument files (layout.configPath id) .config {} ConfigDocument.ofBytes?
    let state ← readDocument files (layout.statePath id) .state {} StateDocument.ofBytes?
    return { id, pid := state.pid, ip := state.ip, mountPoint := config.mountPoint }
  else throw (.storage (.badId id layout.containersDir))

end Layout

/-- The layout of a store. -/
def Store.layout (store : Store) : Layout := Layout.of store.graphRoot store.driver

end ContainerRoster
