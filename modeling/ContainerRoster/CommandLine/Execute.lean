import ContainerRoster.CommandLine.Invocation

/-!
# Running a command

A listing is planned before the storage settings are read, and the runtime is looked for after
that. A run of the program prints all of its output or nothing: it ends with status 0 and the
output, or with status 1 and one error behind the warnings.
-/

namespace ContainerRoster

/-- All that a run depends on besides its command line. -/
structure Host where
  files : FileSystem
  /-- Where subordinate ids are granted. -/
  subIds : SubIdFiles := ⟨"/etc/subuid", "/etc/subgid"⟩
  env : Environment
  services : Services
  /-- What is said of documents, settings and patterns that are not well-formed. -/
  wording : Wording
  /-- The time in nanoseconds since the epoch. -/
  now : Int

namespace Invocation

/-- The output of a command. -/
def execute (call : Invocation) (host : Host) : ExceptT Failure Traced String :=
  match call.command with
  | .ps options => do
    let plan ← ExceptT.mk (return ListPlan.of options)
    let store ← Store.load host.files host.subIds host.env call.storageConf
    let runtime ← ExceptT.mk (return host.services.find call.runtimeEndpoint)
    plan.list host.files store.layout host.now runtime
  | .storage output => do
    let format ← ExceptT.mk (return OutputFormat.ofName output)
    let store ← Store.load host.files host.subIds host.env call.storageConf
    return renderStore format store

/-- What a command was doing when it failed. -/
def purpose (call : Invocation) : String :=
  match call.command with
  | .ps _ => "listing containers failed"
  | .storage _ => "reading storage configuration failed"

/-- What is said of a failure: the failure alone where it is the user's, else what was being done
and then the failure with all that it goes back to. -/
def report (call : Invocation) (wording : Wording) (failure : Failure) : String :=
  if failure.isUsage then failure.message
  else String.intercalate ": " (call.purpose :: failure.chain wording)

end Invocation

inductive LogLevel
  | warning
  | error
  deriving DecidableEq, Repr

structure LogEntry where
  level : LogLevel
  text : String
  deriving DecidableEq, Repr

def LogEntry.line (entry : LogEntry) : String :=
  match entry.level with
  | .warning => "WARN: " ++ entry.text
  | .error => "ERROR: " ++ entry.text

/-- How a run of the program ends. -/
structure Outcome where
  exitStatus : Nat
  stdout : String
  log : List LogEntry
  deriving DecidableEq, Repr

namespace Outcome

/-- A run that ended because of its command line. -/
def ofFlagError : Outcome := ⟨2, "", []⟩

/-- A run of a command. -/
def ofCall (call : Invocation) (host : Host) : Outcome :=
  let run := (call.execute host).run
  let warnings := run.warnings.map fun w => (⟨.warning, w.message host.wording⟩ : LogEntry)
  match run.value with
  | .ok output => ⟨0, output, warnings⟩
  | .error failure => ⟨1, "", warnings ++ [⟨.error, call.report host.wording failure⟩]⟩

/-- A run of the program with arguments after its name. -/
def ofArguments (host : Host) (args : List String) : Outcome :=
  match Invocation.ofArguments host.env args with
  | .ok call => ofCall call host
  | .error _ => ofFlagError

end Outcome

end ContainerRoster
