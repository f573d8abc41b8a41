import ContainerRoster.Endpoint
import ContainerRoster.Output
import ContainerRoster.Pattern

/-!
# Listings

A listing is planned from its options before anything is asked or read. Then the runtime gets one
request, and the containers of its answer are gone through in order: those whose name does not
match are passed over, storage is asked about each other one, and with a process id the first
container that has it is the only record.
-/

namespace ContainerRoster

/-- What the flags of a listing say. -/
structure ListOptions where
  all : Bool := false
  pid : String := ""
  state : String := ""
  name : String := ""
  noTrunc : Bool := false
  output : String := ""
  deriving DecidableEq, Repr

/-- The filter for the runtime: a state that is given decides, else only running containers are
asked for unless all are. -/
def ContainerFilter.of (all : Bool) (state : String) : Except Failure ContainerFilter :=
  if state.isEmpty then
    .ok { state := if all then none else some .running }
  else
    match ContainerState.ofLabel? state with
    | some state => .ok { state := some state }
    | none => .error (.invalidState state)

/-- What is done with a container once its process id is known. -/
inductive PidVerdict
  | accept
  | reject
  /-- Accept it and look at no other. -/
  | acceptLast
  deriving DecidableEq, Repr

/-- What is checked on this side of the request. -/
structure PostFilter where
  /-- The pattern that names must match somewhere. -/
  pattern? : Option Pattern
  /-- The process id that is looked for. -/
  pid? : Option String

namespace PostFilter

def of (name pid : String) : Except Failure PostFilter := do
  let pattern? ←
    if name.isEmpty then pure none
    else
      match Pattern.parse? name with
      | some pattern => pure (some pattern)
      | none => throw (.invalidNamePattern name)
  return ⟨pattern?, if pid.isEmpty then none else some pid⟩

def matchesName (filter : PostFilter) (name : String) : Bool :=
  match filter.pattern? with
  | some pattern => pattern.accepts name
  | none => true

def checkPid (filter : PostFilter) (pid : String) : PidVerdict :=
  match filter.pid? with
  | none => .accept
  | some wanted => if wanted = pid then .acceptLast else .reject

end PostFilter

/-- A listing whose options have been checked. -/
structure ListPlan where
  filter : ContainerFilter
  postFilter : PostFilter
  noTrunc : Bool
  format : OutputFormat

/-- Check the options: the state, the name pattern and then the format. -/
def ListPlan.of (options : ListOptions) : Except Failure ListPlan := do
  let filter ← ContainerFilter.of options.all options.state
  let postFilter ← PostFilter.of options.name options.pid
  let format ← OutputFormat.ofName options.output
  return ⟨filter, postFilter, options.noTrunc, format⟩

namespace ListPlan

/-- The records of the containers of an answer, up to the one that is looked for. -/
def collectFrom (plan : ListPlan) (files : FileSystem) (layout : Layout) (now : Int) :
    List Container → ExceptT Failure Traced (List Record)
  | [] => return []
  | c :: rest =>
    if plan.postFilter.matchesName c.name then do
      let stored ← layout.correlate files c.id
      let record := Record.assemble c stored plan.noTrunc now
      match plan.postFilter.checkPid (stored.pid.getD "") with
      | .accept => do
        let records ← plan.collectFrom files layout now rest
        return record :: records
      | .reject => plan.collectFrom files layout now rest
      | .acceptLast => return [record]
    else plan.collectFrom files layout now rest

/-- The records of a listing. -/
def collect (plan : ListPlan) (files : FileSystem) (layout : Layout) (now : Int)
    (runtime : Runtime) : ExceptT Failure Traced (List Record) := do
  match ← Traced.request runtime plan.filter with
  | .error status => throw (.transport status)
  | .ok containers => plan.collectFrom files layout now containers

/-- The text of a listing. -/
def list (plan : ListPlan) (files : FileSystem) (layout : Layout) (now : Int)
    (runtime : Runtime) : ExceptT Failure Traced String := do
  return renderRecords plan.format (← plan.collect files layout now runtime)

end ListPlan

end ContainerRoster
