import ContainerRoster.Container
import ContainerRoster.FileSystem
import ContainerRoster.Refusal

/-!
# Failures

Every way in which a command fails, with what its message needs. Some failures are the user's: a
flag or an endpoint that makes no sense. These are reported by their message alone; all others are
reported with what was being done and with their causes.
-/

namespace ContainerRoster

/-- Why an endpoint makes no sense. -/
inductive EndpointError
  | emptyPath
  | emptyAddress
  | unknownProtocol
  | tooLong
  | emptyAuthority
  | invalidCharacter
  | invalidFormat
  | invalidAuthority
  deriving DecidableEq, Repr

def EndpointError.message : EndpointError → String
  | .emptyPath => "empty socket path"
  | .emptyAddress => "empty address"
  | .unknownProtocol => "protocol not supported, use unix:// or tcp://"
  | .tooLong => "uri too long"
  | .emptyAuthority => "empty string"
  | .invalidCharacter => "invalid uri character"
  | .invalidFormat => "invalid format"
  | .invalidAuthority => "invalid authority"

/-- Why no runtime was reached. -/
inductive ConnectionError
  /-- The endpoint does not answer, for these causes, the nearest first. -/
  | unreachable (endpoint : String) (causes : List String)
  /-- No endpoint was given and none of the usual ones answers. -/
  | noneAnswered (tried : List String)
  deriving DecidableEq, Repr

namespace ConnectionError

def message : ConnectionError → String
  | unreachable endpoint _ => "failed to connect to " ++ endpoint
  | noneAnswered tried =>
    "no runtime endpoint configured and none of the defaults answered (" ++
      String.intercalate ", " tried ++ ")"

def causes : ConnectionError → List String
  | unreachable _ causes => causes
  | noneAnswered _ => []

end ConnectionError

/-- What is wrong with the storage of a container. -/
inductive StorageError
  /-- Its id is not the name of a directory. -/
  | badId (id directory : String)
  /-- A document of it was not read. -/
  | unreadable (path : String) (cause : IoError)
  deriving DecidableEq, Repr

namespace StorageError

def message : StorageError → String
  | badId _ directory =>
    "container id does not name a directory under the storage root: " ++ directory
  | unreadable path _ => "failed to read container metadata: " ++ path

def cause : StorageError → String
  | badId id _ => "bad container id " ++ Text.quoted id
  | unreadable _ cause => cause.message

end StorageError

inductive Failure
  | invalidState (value : String)
  | unsupportedOutput (format : String)
  | invalidNamePattern (pattern : String)
  | invalidEndpoint (endpoint : String) (cause : EndpointError)
  | connection (cause : ConnectionError)
  | transport (status : Status)
  | storage (cause : StorageError)
  deriving DecidableEq, Repr

namespace Failure

/-- The failure in one line, without its causes. -/
def message : Failure → String
  | invalidState _ => "--state should be one of created, running, exited or unknown"
  | unsupportedOutput format => "unsupported output format " ++ Text.quoted format
  | invalidNamePattern pattern => "invalid name pattern " ++ Text.quoted pattern
  | invalidEndpoint endpoint cause =>
    "invalid runtime endpoint " ++ Text.quoted endpoint ++ ": " ++ cause.message
  | connection cause => "Connection error: " ++ cause.message
  | transport status => status.text
  | storage cause => "Storage error: " ++ cause.message

/-- What the failure goes back to, the nearest first. -/
def causes (wording : Wording) : Failure → List String
  | invalidState _ => []
  | unsupportedOutput _ => []
  | invalidNamePattern pattern => [wording (.pattern pattern)]
  | invalidEndpoint _ _ => []
  | connection cause => cause.causes
  -- The failure is shown as its status is, which it then goes back to.
  | transport status => status.text :: status.causes
  | storage cause => [cause.cause]

/-- The failure and all that it goes back to, in one line each. -/
def chain (wording : Wording) (failure : Failure) : List String :=
  failure.message :: failure.causes wording

/-- Whether the failure is the user's. -/
def isUsage : Failure → Bool
  | invalidState _ => true
  | unsupportedOutput _ => true
  | invalidNamePattern _ => true
  | invalidEndpoint _ _ => true
  | connection _ => false
  | transport _ => false
  | storage _ => false

end Failure

end ContainerRoster
