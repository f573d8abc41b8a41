import ContainerRoster.Refusal
import ContainerRoster.Storage.SubIds

/-!
# Warnings

What a run tolerates and tells about. Of a document or settings that are malformed it tells what
their reader says.
-/

namespace ContainerRoster

inductive Warning
  /-- A container's document is not what it should be; its fields count as absent. -/
  | malformedDocument (path : String) (kind : DocumentKind) (bytes : List UInt8)
  | unreadableSettings (path : String) (cause : IoError)
  | malformedSettings (path : String) (text : List Char)
  /-- The ranges of a user and a group were not found; none are mapped. -/
  | noMappings (user group : String) (cause : SubIdError)
  /-- A setting with id maps is malformed and counts as empty. -/
  | malformedIdMap (setting : String)
  deriving DecidableEq, Repr

/-- What is said of a setting that does not hold id maps. -/
def malformedIdMapMessage (setting : String) : String :=
  "error initializing ID mappings: " ++ setting ++ " setting is malformed"

def Warning.message (wording : Wording) : Warning → String
  | .malformedDocument path kind bytes =>
    "Ignoring malformed " ++ path ++ ": " ++ wording (.document kind bytes)
  | .unreadableSettings path cause => "Failed to read " ++ path ++ ": " ++ cause.message
  | .malformedSettings path text => "Failed to parse " ++ path ++ ": " ++ wording (.settings text)
  | .noMappings user group cause =>
    "Error initializing ID mappings for " ++ user ++ ":" ++ group ++ ": " ++ cause.message
  | .malformedIdMap setting => malformedIdMapMessage setting

end ContainerRoster
