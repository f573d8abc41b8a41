import ContainerRoster.CommandLine.Execute
import ContainerRoster.Proofs.Listing.Visited
import ContainerRoster.Proofs.Storage.Loading

/-!
# The stages of a listing

A listing can fail for seven reasons, and any number of them may hold of the same run.  Each stage
below says when it fails without looking at the others, except that the last ones have nothing to
go by before a runtime is reached.  `execute_ps` puts them in order: the first stage that fails
gives the failure of the run, the runtime hears nothing before the sixth, and a run without a
failing stage prints what the containers visited have on record.
-/

namespace ContainerRoster

/-- The failure that a step ends with, if it does. -/
def failure? {α : Type} : Except Failure α → Option Failure
  | .ok _ => none
  | .error failure => some failure

theorem failure?_map {α β : Type} (x : Except Failure α) (f : α → β) :
    failure? (x.map f) = failure? x := by
  cases x <;> rfl

/-- The failure of the first stage that has one. -/
def firstFailure (stages : List (Option Failure)) : Option Failure := stages.findSome? id

theorem firstFailure_append (stages later : List (Option Failure)) :
    firstFailure (stages ++ later) = (firstFailure stages).or (firstFailure later) :=
  List.findSome?_append

/-! ## Planning -/

namespace ListOptions

def stateFailure? (options : ListOptions) : Option Failure :=
  if options.state.isEmpty || (ContainerState.ofLabel? options.state).isSome then none
  else some (.invalidState options.state)

def nameFailure? (options : ListOptions) : Option Failure :=
  if options.name.isEmpty || (Pattern.parse? options.name).isSome then none
  else some (.invalidNamePattern options.name)

def outputFailure? (options : ListOptions) : Option Failure :=
  if options.output ∈ ["", "json", "yaml", "table"] then none
  else some (.unsupportedOutput options.output)

/-- What a listing asks the runtime for. -/
def request (options : ListOptions) : ContainerFilter where
  state :=
    if options.state.isEmpty then
      if options.all then none else some .running
    else ContainerState.ofLabel? options.state
  id := ""
  podSandboxId := ""
  labels := []

theorem containerFilter_eq (options : ListOptions) :
    ContainerFilter.of options.all options.state =
      match options.stateFailure? with
      | some failure => .error failure
      | none => .ok options.request := by
  unfold ContainerFilter.of stateFailure? request
  by_cases he : options.state.isEmpty
  · simp only [he, if_true, Bool.true_or]
  · simp only [he, Bool.false_or, Bool.false_eq_true, if_false]
    cases ContainerState.ofLabel? options.state with
    | none => rfl
    | some state => rfl

theorem failure?_postFilter (options : ListOptions) :
    failure? (PostFilter.of options.name options.pid) = options.nameFailure? := by
  unfold PostFilter.of nameFailure?
  by_cases he : options.name.isEmpty
  · simp only [he, if_true, Bool.true_or]
    rfl
  · simp only [he, Bool.false_or, Bool.false_eq_true, if_false]
    cases Pattern.parse? options.name with
    | none => rfl
    | some pattern => rfl

theorem failure?_format (options : ListOptions) :
    failure? (OutputFormat.ofName options.output) = options.outputFailure? := by
  unfold OutputFormat.ofName outputFailure?
  by_cases he : options.output.isEmpty
  · rw [if_pos he, String.isEmpty_iff.mp he]
    rfl
  · rw [if_neg he]
    have hne : options.output ≠ "" := fun h => he (String.isEmpty_iff.mpr h)
    cases hf : [OutputFormat.json, .yaml, .table].find? (fun f => f.name == options.output) with
    | some format =>
      have hname : format.name = options.output := by
        simpa using List.find?_some hf
      rw [← hname]
      cases format <;> rfl
    | none =>
      have hmem : options.output ∉ ["", "json", "yaml", "table"] := by
        simp only [List.find?_eq_none, List.mem_cons, List.not_mem_nil, or_false, beq_iff_eq,
          forall_eq_or_imp, forall_eq, OutputFormat.name] at hf
        simp only [List.mem_cons, List.not_mem_nil, or_false, not_or]
        exact ⟨hne, fun h => hf.1 h.symm, fun h => hf.2.1 h.symm, fun h => hf.2.2 h.symm⟩
      rw [if_neg hmem]
      rfl

end ListOptions

/-- The first of the checks that fails is the failure of planning, and without one there is a
plan. -/
theorem ListPlan.of_checks (options : ListOptions) :
    match firstFailure
        [options.stateFailure?, options.nameFailure?, options.outputFailure?] with
    | some failure => ListPlan.of options = .error failure
    | none => ∃ plan, ListPlan.of options = .ok plan ∧ plan.filter = options.request ∧
        OutputFormat.ofName options.output = .ok plan.format := by
  unfold ListPlan.of
  rw [options.containerFilter_eq, ← options.failure?_postFilter, ← options.failure?_format]
  cases options.stateFailure? with
  | some failure => rfl
  | none =>
    cases PostFilter.of options.name options.pid with
    | error failure => rfl
    | ok postFilter =>
      cases OutputFormat.ofName options.output with
      | error failure => rfl
      | ok format => exact ⟨_, rfl, rfl, rfl⟩

/-! ## Reaching the runtime -/

/-- What is wrong with the text of an endpoint, also when it is found only as the address is put
to use. -/
def Endpoint.textFailure? : Option String → Option Failure
  | none => none
  | some text =>
    match Endpoint.parse text with
    | .error failure => some failure
    | .ok (.unix _) => none
    | .ok (.tcp address) => (Address.problem? address).map (.invalidEndpoint address)

namespace Services

/-- The runtime that a run talks to. -/
def reached? (services : Services) : Option String → Option Runtime
  | none => Endpoint.usual.findSome? fun endpoint => (services endpoint).toOption
  | some text =>
    match Endpoint.parse text with
    | .error _ => none
    | .ok endpoint => (services endpoint).toOption

def connectionFailure? (services : Services) : Option String → Option Failure
  | none =>
    if (services.reached? none).isSome then none
    else some (.connection (.noneAnswered (Endpoint.usual.map Endpoint.text)))
  | some text =>
    match Endpoint.parse text with
    | .error _ => none
    | .ok endpoint =>
      match services endpoint with
      | .error causes => some (.connection (.unreachable endpoint.text causes))
      | .ok _ => none

theorem reach_of_ok {services : Services} {endpoint : Endpoint} {runtime : Runtime}
    (h : services endpoint = .ok runtime) : connect.reach services endpoint = .ok runtime := by
  rw [connect.reach, h]

theorem reach_of_error {services : Services} {endpoint : Endpoint} {causes : List String}
    (h : services endpoint = .error causes) :
    connect.reach services endpoint =
      .error (.connection (.unreachable endpoint.text causes)) := by
  rw [connect.reach, h]

/-- A text that makes no sense, or else an endpoint that does not answer, is the failure of looking
for the runtime.  Without either there is one. -/
theorem find_checks (services : Services) (given : Option String) :
    match firstFailure [Endpoint.textFailure? given, services.connectionFailure? given] with
    | some failure => services.find given = .error failure
    | none => ∃ runtime, services.find given = .ok runtime ∧
        services.reached? given = some runtime := by
  cases given with
  | none =>
    rw [connectionFailure?, reached?, find]
    cases Endpoint.usual.findSome? fun endpoint => (services endpoint).toOption with
    | none => rfl
    | some runtime => exact ⟨runtime, rfl, rfl⟩
  | some text =>
    rw [connectionFailure?, reached?, find, Endpoint.textFailure?]
    cases Endpoint.parse text with
    | error failure => rfl
    | ok endpoint =>
      have reaches : match firstFailure [match services endpoint with
            | .error causes => some (.connection (.unreachable endpoint.text causes))
            | .ok _ => none] with
          | some failure => connect.reach services endpoint = .error failure
          | none => ∃ runtime, connect.reach services endpoint = .ok runtime ∧
              (services endpoint).toOption = some runtime := by
        cases h : services endpoint with
        | error causes => exact reach_of_error h
        | ok runtime => exact ⟨runtime, reach_of_ok h, rfl⟩
      cases endpoint with
      | unix path => exact reaches
      | tcp address =>
        show match firstFailure [(Address.problem? address).map (.invalidEndpoint address), _] with
          | some failure => services.connect (.tcp address) = .error failure
          | none => ∃ runtime, services.connect (.tcp address) = .ok runtime ∧
              (services (.tcp address)).toOption = some runtime
        rw [connect]
        cases Address.problem? address with
        | some cause => rfl
        | none => exact reaches

end Services

/-! ## Listing -/

namespace ListPlan

variable {plan : ListPlan} {files : FileSystem} {layout : Layout} {pid : String} {now : Int}

/-- The first container visited that storage fails on. -/
def storageFailure? (plan : ListPlan) (files : FileSystem) (layout : Layout) (pid : String)
    (containers : List Container) : Option Failure :=
  (plan.visited files layout pid containers).findSome? fun c => failure? (layout.found files c)

/-- Going through an answer fails as storage fails on a container visited, and not otherwise. -/
theorem failure?_collectFrom (hp : plan.Seeks pid) (containers : List Container) :
    failure? (plan.collectFrom files layout now containers).run.value =
      plan.storageFailure? files layout pid containers := by
  unfold storageFailure?
  induction containers using visit_induction plan files layout pid with
  | nil => rfl
  | skip c rest hm ih => rw [collectFrom_skip hm, visited_cons_of_skip hm, ih]
  | fail c rest failure hm hf he =>
    rw [collectFrom_fail hm hf, visited_cons_of_end hm he, List.findSome?_cons, hf]
    rfl
  | last c rest stored hm hf he =>
    rw [collectFrom_last hp hm hf he, visited_cons_of_end hm he, List.findSome?_cons, hf]
    rfl
  | go c rest stored hm hf he ih =>
    rw [collectFrom_go hp hm hf he, visited_cons_of_go hm he, List.findSome?_cons, hf]
    by_cases hpid : pid.isEmpty
    · rw [if_pos hpid, failure?_map, ih]
      rfl
    · rw [if_neg hpid, ih]
      rfl

theorem requests_collectFrom (hp : plan.Seeks pid) (containers : List Container) :
    (plan.collectFrom files layout now containers).run.requests = [] := by
  show (plan.collectFrom files layout now containers).run.events.filterMap _ = []
  rw [collectFrom_events hp, List.filterMap_flatMap, List.flatMap_eq_nil_iff]
  intro c _
  exact Layout.requests_correlate files c.id

/-- A listing sends its filter and nothing else, whatever the answer is. -/
theorem requests_collect (hp : plan.Seeks pid) (runtime : Runtime) :
    (plan.collect files layout now runtime).run.requests = [plan.filter] := by
  cases ha : runtime.answer plan.filter with
  | error status =>
    rw [run_collect_of_error ha]
    rfl
  | ok containers =>
    rw [run_collect_of_ok ha]
    show plan.filter :: (plan.collectFrom files layout now containers).run.requests = _
    rw [requests_collectFrom hp]

/-- The failure of a request that is answered with a status. -/
def statusFailure? (runtime : Runtime) (filter : ContainerFilter) : Option Failure :=
  match runtime.answer filter with
  | .error status => some (.transport status)
  | .ok _ => none

/-- The failure that storage gives to the containers of an answer. -/
def answerFailure? (plan : ListPlan) (files : FileSystem) (layout : Layout) (pid : String)
    (runtime : Runtime) : Option Failure :=
  match runtime.answer plan.filter with
  | .error _ => none
  | .ok containers => plan.storageFailure? files layout pid containers

theorem failure?_collect (hp : plan.Seeks pid) (runtime : Runtime) :
    failure? (plan.collect files layout now runtime).run.value =
      firstFailure [statusFailure? runtime plan.filter,
        plan.answerFailure? files layout pid runtime] := by
  unfold statusFailure? answerFailure?
  cases ha : runtime.answer plan.filter with
  | error status =>
    rw [run_collect_of_error ha]
    rfl
  | ok containers =>
    rw [run_collect_of_ok ha, failure?_collectFrom hp]
    show _ = firstFailure [none, plan.storageFailure? files layout pid containers]
    cases plan.storageFailure? files layout pid containers with
    | none => rfl
    | some failure => rfl

/-- The text of a listing adds nothing to its trace. -/
theorem run_list (plan : ListPlan) (files : FileSystem) (layout : Layout) (now : Int)
    (runtime : Runtime) :
    (plan.list files layout now runtime).run =
      ⟨(plan.collect files layout now runtime).run.events,
        (plan.collect files layout now runtime).run.value.map (renderRecords plan.format)⟩ := by
  rw [list]
  cases h : (plan.collect files layout now runtime).run.value with
  | error failure => exact Traced.run_bind_error h _
  | ok records =>
    rw [Traced.run_bind_ok h, Traced.run_pure, List.append_nil]
    rfl

end ListPlan

/-! ## A whole run -/

namespace Invocation

variable {call : Invocation} {options : ListOptions} {host : Host} {plan : ListPlan}
  {runtime : Runtime} {failure : Failure}

/-- The invocation that lists containers and is otherwise the same. -/
def ps (call : Invocation) (options : ListOptions) : Invocation :=
  { call with command := .ps options }

theorem ps_eq_self (h : call.command = .ps options) : call.ps options = call := by
  rw [ps, ← h]

/-- The store that the storage settings of a run describe. -/
def loaded (call : Invocation) (host : Host) : Traced Store :=
  Store.load host.files host.subIds host.env call.storageConf

/-- What may fail until a runtime is connected to. -/
def stagesToConnect (call : Invocation) (options : ListOptions) (host : Host) :
    List (Option Failure) :=
  [options.stateFailure?, options.nameFailure?, options.outputFailure?,
   Endpoint.textFailure? call.runtimeEndpoint,
   host.services.connectionFailure? call.runtimeEndpoint]

/-- What may fail once the request is sent: the request itself, and then storage. -/
def stagesOfAnswer (call : Invocation) (options : ListOptions) (host : Host) :
    List (Option Failure) :=
  match host.services.reached? call.runtimeEndpoint, ListPlan.of options with
  | some runtime, .ok plan =>
    [ListPlan.statusFailure? runtime options.request,
     plan.answerFailure? host.files (call.loaded host).value.layout options.pid runtime]
  | _, _ => []

theorem run_execute_of_plan_error (hp : ListPlan.of options = .error failure) :
    ((call.ps options).execute host).run = ⟨[], .error failure⟩ :=
  Traced.run_check_bind_error hp _

theorem run_execute_of_find_error (hp : ListPlan.of options = .ok plan)
    (hf : host.services.find call.runtimeEndpoint = .error failure) :
    ((call.ps options).execute host).run = ⟨(call.loaded host).events, .error failure⟩ := by
  have hf' : host.services.find (call.ps options).runtimeEndpoint = .error failure := hf
  refine (Traced.run_check_bind_ok hp _).trans ?_
  rw [Traced.run_lift_bind, Traced.run_check_bind_error hf', List.append_nil]
  rfl

theorem run_execute_of_found (hp : ListPlan.of options = .ok plan)
    (hf : host.services.find call.runtimeEndpoint = .ok runtime) :
    ((call.ps options).execute host).run =
      ⟨(call.loaded host).events ++
          (plan.collect host.files (call.loaded host).value.layout host.now runtime).run.events,
        (plan.collect host.files (call.loaded host).value.layout host.now runtime).run.value.map
          (renderRecords plan.format)⟩ := by
  have hf' : host.services.find (call.ps options).runtimeEndpoint = .ok runtime := hf
  refine (Traced.run_check_bind_ok hp _).trans ?_
  rw [Traced.run_lift_bind, Traced.run_check_bind_ok hf', ListPlan.run_list]
  rfl

/-- The first failing stage decides how a listing fails, and how far it gets with the runtime. -/
theorem execute_ps (call : Invocation) (options : ListOptions) (host : Host) :
    let run := ((call.ps options).execute host).run
    (match firstFailure (call.stagesToConnect options host ++ call.stagesOfAnswer options host) with
      | some failure => run.value = .error failure
      | none => ∃ plan runtime records,
          ListPlan.of options = .ok plan ∧
          OutputFormat.ofName options.output = .ok plan.format ∧
          host.services.reached? call.runtimeEndpoint = some runtime ∧
          (plan.collect host.files (call.loaded host).value.layout host.now runtime).run.value =
            .ok records ∧
          run.value = .ok (renderRecords plan.format records)) ∧
      run.requests =
        if (firstFailure (call.stagesToConnect options host)).isSome then []
        else [options.request] := by
  intro run
  have hloaded : (call.loaded host).requests = [] := Store.requests_load _ _ _ _
  have hplan := ListPlan.of_checks options
  have hfind := Services.find_checks host.services call.runtimeEndpoint
  have hsplit : call.stagesToConnect options host =
      [options.stateFailure?, options.nameFailure?, options.outputFailure?] ++
        [Endpoint.textFailure? call.runtimeEndpoint,
          host.services.connectionFailure? call.runtimeEndpoint] := rfl
  rw [firstFailure_append, hsplit, firstFailure_append]
  cases hc : firstFailure [options.stateFailure?, options.nameFailure?, options.outputFailure?] with
  | some failure =>
    rw [hc] at hplan
    have hrun : run = ⟨[], .error failure⟩ := run_execute_of_plan_error hplan
    rw [hrun]
    exact ⟨rfl, rfl⟩
  | none =>
    rw [hc] at hplan
    obtain ⟨plan, hp, hfilter, hformat⟩ := hplan
    obtain ⟨hseeks, -⟩ := ListPlan.of_valid hp
    rw [Option.none_or]
    cases he : firstFailure [Endpoint.textFailure? call.runtimeEndpoint,
        host.services.connectionFailure? call.runtimeEndpoint] with
    | some failure =>
      rw [he] at hfind
      have hrun : run = ⟨(call.loaded host).events, .error failure⟩ :=
        run_execute_of_find_error hp hfind
      rw [hrun]
      exact ⟨rfl, hloaded⟩
    | none =>
      rw [he] at hfind
      obtain ⟨runtime, hf, hreached⟩ := hfind
      have hanswer : firstFailure (call.stagesOfAnswer options host) =
          failure? (plan.collect host.files (call.loaded host).value.layout host.now
            runtime).run.value := by
        rw [ListPlan.failure?_collect hseeks, stagesOfAnswer, hreached, hp, hfilter]
      have hrun : run = _ := run_execute_of_found hp hf
      have hsent : run.requests = (call.loaded host).requests ++ (plan.collect host.files
          (call.loaded host).value.layout host.now runtime).run.requests := by
        rw [hrun]
        exact List.filterMap_append
      rw [hloaded, ListPlan.requests_collect hseeks, hfilter] at hsent
      rw [Option.none_or, hanswer]
      refine ⟨?_, hsent⟩
      cases hv : (plan.collect host.files (call.loaded host).value.layout host.now
          runtime).run.value with
      | error failure =>
        rw [hv] at hrun
        rw [hrun]
        rfl
      | ok records =>
        rw [hv] at hrun
        exact ⟨plan, runtime, records, hp, hformat, hreached, hv, by rw [hrun]; rfl⟩

end Invocation
end ContainerRoster
