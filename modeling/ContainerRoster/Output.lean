import ContainerRoster.Failure
import ContainerRoster.Json.Printer
import ContainerRoster.Record
import ContainerRoster.Table
import ContainerRoster.Yaml.Printer

/-!
# Output

Listings and storage settings are documents: trees that are written as JSON in the order of their
fields and as YAML in the order of their keys. A table shows the same fields without the tree.
-/

namespace ContainerRoster

inductive OutputFormat
  | json
  | yaml
  | table
  deriving DecidableEq, Repr

namespace OutputFormat

/-- The format that is used when none is given. -/
def default : OutputFormat := table

def name : OutputFormat → String
  | json => "json"
  | yaml => "yaml"
  | table => "table"

/-- The format with this name, the default one without a name. -/
def ofName (name : String) : Except Failure OutputFormat :=
  if name.isEmpty then .ok default
  else
    match [json, yaml, table].find? fun format => format.name == name with
    | some format => .ok format
    | none => .error (.unsupportedOutput name)

end OutputFormat

/-- The members of a document in the order of their fields. -/
abbrev Document := List (String × Json)

namespace Record

def document (r : Record) : Document :=
  [("ContainerId", .string r.id),
   ("CTM", .string r.created),
   ("State", .string r.state),
   ("Name", .string r.name),
   ("PID", .string r.pid),
   ("IP", .string r.ip),
   ("MountPoint", .string r.mountPoint)]

def cells (r : Record) : List String :=
  [r.id, r.created, r.state, r.name, r.pid, r.ip, r.mountPoint]

def header : List String := ["CONTAINER", "CREATED", "STATE", "NAME", "PID", "IP", "MOUNTPOINT"]

/-- The document of a listing. -/
def listing (records : List Record) : Document :=
  [("Containers", .array (records.map fun r => .object r.document))]

end Record

namespace IdMap

def number (n : UInt32) : Json := .number (.integer n.toNat)

def document (m : IdMap) : Document :=
  [("container_id", number m.containerId), ("host_id", number m.hostId), ("size", number m.size)]

end IdMap

namespace Store

def document (s : Store) : Document :=
  [("runroot", .string s.runRoot),
   ("root", .string s.graphRoot),
   ("driver", .string s.driver),
   ("driver-options", .array (s.driverOptions.map .string)),
   ("uidmap", .array (s.uidMap.map fun m => .object m.document)),
   ("gidmap", .array (s.gidMap.map fun m => .object m.document))]

def header : List String := ["KEY", "VALUE"]

def joined (parts : List String) : String := String.intercalate "," parts

def rows (s : Store) : List (List String) :=
  [["runroot", s.runRoot],
   ["root", s.graphRoot],
   ["driver", s.driver],
   ["driver-options", joined s.driverOptions],
   ["uidmap", joined (s.uidMap.map IdMap.text)],
   ["gidmap", joined (s.gidMap.map IdMap.text)]]

end Store

namespace Document

def toJson (d : Document) : String := Json.documentText (.object d)

/-- The same document with sorted keys. -/
def toYaml (d : Document) : String :=
  match Json.sorted (.object d) with
  | .object members => Yaml.documentText members
  | _ => ""

end Document

/-- A listing in a format. -/
def renderRecords (format : OutputFormat) (records : List Record) : String :=
  match format with
  | .json => (Record.listing records).toJson
  | .yaml => (Record.listing records).toYaml
  | .table => Table.render Record.header (records.map Record.cells)

/-- The settings of a store in a format. -/
def renderStore (format : OutputFormat) (store : Store) : String :=
  match format with
  | .json => store.document.toJson
  | .yaml => store.document.toYaml
  | .table => Table.render Store.header store.rows

end ContainerRoster
