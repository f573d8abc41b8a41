import ContainerRoster.Json.Decode
import ContainerRoster.Text.Utf8

/-!
# Container metadata

Two JSON documents lie beside every container: its configuration, which names the mount point of
its root, and its state, which holds the process id and the address in the annotations. Of each
document only some members are looked at. Those must be well formed, and so must the shape of the
rest; a document where they are not is malformed as a whole. A member of another type than
expected counts as absent.
-/

namespace ContainerRoster

namespace Metadata

/-- What a bracket nested in a looked-at member may hold inside it. -/
def nestingLimit : Nat := 126

/-- The value of a looked-at member of an object: absent, or decoded. A member that occurs twice
makes the document malformed. -/
def member? (name : String) (members : List (String × Json.Raw)) : Option (Option Json) :=
  match members.filter (·.1 == name) with
  | [] => some none
  | [m] => (m.2.decode nestingLimit).map some
  | _ => none

/-- The looked-at members of a document, in the order of their names. An array gives them by
position, and may not hold more. -/
def members? (names : List String) : Json.Raw → Option (List (Option Json))
  | .object members => do
    let members ← members.mapM fun m => (Json.Raw.decodeString m.1).map (·, m.2)
    names.mapM fun name => member? name members
  | .array items => do
    if names.length < items.length then none
    else
      let values ← items.mapM fun item => item.decode nestingLimit
      return values.map some ++ List.replicate (names.length - items.length) none
  | _ => none

/-- The looked-at members of a file's bytes. -/
def read? (names : List String) (bytes : List UInt8) : Option (List (Option Json)) := do
  members? names (← Json.Raw.ofInput? (Utf8.decode bytes))

/-- The mount point in the root section: its path member, or the only element of an array. -/
def rootPath? : Json → Option String
  | .object members => (Json.lookup "path" members).bind Json.scalar?
  | .array [path] => path.scalar?
  | _ => none

/-- The annotation that holds the address of the pod. -/
def addressKey : String := "io.kubernetes.cri-o.IP"

/-- The annotation that holds its address on the first interface. -/
def firstAddressKey : String := "io.kubernetes.cri-o.IP.0"

/-- The address among annotations. -/
def address? : Json → Option String
  | .object annotations =>
    ((Json.lookup addressKey annotations).bind Json.scalar?).or
      ((Json.lookup firstAddressKey annotations).bind Json.scalar?)
  | _ => none

end Metadata

/-- What the configuration document says. -/
structure ConfigDocument where
  mountPoint : Option String := none
  deriving DecidableEq, Repr

/-- What the state document says. -/
structure StateDocument where
  pid : Option String := none
  ip : Option String := none
  deriving DecidableEq, Repr

/-- Read a configuration document, unless it is malformed. -/
def ConfigDocument.ofBytes? (bytes : List UInt8) : Option ConfigDocument := do
  match ← Metadata.read? ["root"] bytes with
  | [root] => return ⟨root.bind Metadata.rootPath?⟩
  | _ => none

/-- Read a state document, unless it is malformed. -/
def StateDocument.ofBytes? (bytes : List UInt8) : Option StateDocument := do
  match ← Metadata.read? ["pid", "annotations"] bytes with
  | [pid, annotations] =>
    return ⟨pid.bind Json.scalar?, annotations.bind Metadata.address?⟩
  | _ => none

end ContainerRoster
