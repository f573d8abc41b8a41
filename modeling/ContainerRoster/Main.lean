import ContainerRoster.CommandLine.Execute

/-!
# The program

Reads the command line and the environment, takes a snapshot of the files that hold settings, and
prints what the run comes to. No runtime service is reached from here.
-/

namespace ContainerRoster

/-- Why a file was not read. -/
def IoError.ofIO : IO.Error → IoError
  | .noFileOrDirectory _ _ _ => .notFound
  | e => .other (toString e)

/-- The files at some paths as they are now. -/
def snapshot (paths : List String) : IO FileSystem := do
  let files ← paths.mapM fun (path : String) => do
    try
      let bytes ← IO.FS.readBinFile path
      return (path, Except.ok bytes.toList)
    catch e => return (path, Except.error (IoError.ofIO e))
  return ⟨fun path => (files.lookup path).getD (.error .notFound)⟩

/-- The variables that a run asks for. -/
def variableNames : List String := [Invocation.endpointVariable, "STORAGE_DRIVER", "STORAGE_OPTS"]

/-- The environment as it is now. -/
def environment : IO Environment := do
  let values ← variableNames.mapM fun name => return (name, ← IO.getEnv name)
  return fun name => (values.lookup name).bind id

end ContainerRoster

open ContainerRoster in
def main (args : List String) : IO UInt32 := do
  let env ← environment
  let places : SubIdFiles := ⟨"/etc/subuid", "/etc/subgid"⟩
  let conf :=
    match Invocation.ofArguments env args with
    | .ok call => [call.storageConf]
    | .error _ => []
  let files ← snapshot (conf ++ [places.users, places.groups])
  let services : Services := fun _ => .error ["no service is reached from here"]
  let host : Host := ⟨files, places, env, services, fun _ => "not well-formed", 0⟩
  let outcome := Outcome.ofArguments host args
  for entry in outcome.log do
    IO.eprintln entry.line
  IO.print outcome.stdout
  return UInt32.ofNat outcome.exitStatus
