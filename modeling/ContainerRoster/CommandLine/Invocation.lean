import ContainerRoster.CommandLine.Flags
import ContainerRoster.Listing

/-!
# Invocations

What a command line asks for. The options for all commands count on whichever side of the command
they stand; if one stands on both, the one after the command counts. The environment gives the
endpoint where no option does.
-/

namespace ContainerRoster

inductive Command
  | ps (options : ListOptions)
  | storage (output : String)
  deriving DecidableEq, Repr

structure Invocation where
  runtimeEndpoint : Option String
  /-- How many seconds connecting may take. -/
  timeout : Nat
  storageConf : String
  debug : Bool
  command : Command
  deriving DecidableEq, Repr

namespace Invocation

/-- The variable that gives the endpoint. -/
def endpointVariable : String := "CONTAINER_RUNTIME_ENDPOINT"

def defaultTimeout : Nat := 2

def defaultStorageConf : String := "/etc/containers/storage.conf"

/-- The command that options after its name describe. -/
def commandOf (name : CommandName) (given : List (Flag × String)) : Command :=
  let text (flag : Flag) : String := (given.lookup flag).getD ""
  let isGiven (flag : Flag) : Bool := (given.lookup flag).isSome
  match name with
  | .ps =>
    .ps { all := isGiven .all
          pid := text .pid
          state := text .state
          name := text .name
          noTrunc := isGiven .noTrunc
          output := text .output }
  | .storage => .storage (text .output)

/-- Put together what stands before and after the name of a command. -/
def assemble (env : Environment) (name : CommandName) (before after : List (Flag × String)) :
    Invocation :=
  let given := after ++ before
  { runtimeEndpoint := (given.lookup .runtimeEndpoint).or (env endpointVariable)
    timeout :=
      match (given.lookup .timeout).map readTimeout with
      | some (.ok n) => n
      | _ => defaultTimeout
    storageConf := (given.lookup .storageConf).getD defaultStorageConf
    debug := (given.lookup .debug).isSome
    command := commandOf name after }

/-- Read the arguments after the name of the program. What follows the command is checked before
an option in front of it whose value has not been checked. -/
def ofArguments (env : Environment) (args : List String) : Except FlagError Invocation := do
  let (before, stop) ← Scan.arguments Flag.globals true false {} args
  match stop with
  | .finished =>
    let before ← before.settle
    if before.given.isEmpty && (env endpointVariable).isNone then
      throw ⟨.displayHelpOnMissing, none⟩
    else throw ⟨.missingSubcommand, none⟩
  | .command name rest =>
    let (after, _) ← Scan.arguments name.flags false false {} rest
    let after ← after.settle
    let before ← before.settle
    return assemble env name before.given after.given

end Invocation

end ContainerRoster
