import ContainerRoster.Proofs.CommandLine.Stages
import ContainerRoster.Proofs.Endpoint.Texts

/-!
# Failures that are the user's

A flag or an endpoint that makes no sense ends a run with its own message.  How much has happened
by then depends on which of the two it is: the flags of a command are checked before anything is
read, but an endpoint is looked at only once the storage settings are loaded, so the warnings of
loading stand in front of its message.  `usage_outcome` says this for every command line that
makes sense as such.  Nothing behind these checks is ever the user's fault: no request has been
sent, and no document of a container has been read.
-/

namespace ContainerRoster

variable {failure : Failure}

/-! ## Where failures come from -/

/-- Whether a failure says that an endpoint makes no sense. -/
def Failure.ofEndpoint : Failure → Bool
  | .invalidEndpoint _ _ => true
  | _ => false

theorem mem_of_firstFailure {stages : List (Option Failure)}
    (h : firstFailure stages = some failure) : some failure ∈ stages := by
  obtain ⟨stage, hmem, hstage⟩ := List.exists_of_findSome?_eq_some h
  rw [← show stage = some failure from hstage]
  exact hmem

/-- What is wrong with the flags of a listing is the user's, and no endpoint. -/
theorem ListPlan.usage_of_error {options : ListOptions} (h : ListPlan.of options = .error failure) :
    failure.isUsage = true ∧ failure.ofEndpoint = false := by
  have hchecks := ListPlan.of_checks options
  cases hf : firstFailure
      [options.stateFailure?, options.nameFailure?, options.outputFailure?] with
  | none =>
    rw [hf] at hchecks
    obtain ⟨plan, hplan, -⟩ := hchecks
    rw [h] at hplan
    cases hplan
  | some first =>
    rw [hf] at hchecks
    have hfirst : first = failure := Except.error.inj (hchecks.symm.trans h)
    subst hfirst
    have hmem := mem_of_firstFailure hf
    simp only [ListOptions.stateFailure?, ListOptions.nameFailure?, ListOptions.outputFailure?,
      List.mem_cons, List.not_mem_nil, or_false, eq_comm (a := some first),
      Option.ite_none_left_eq_some, Option.some.injEq] at hmem
    rcases hmem with ⟨-, rfl⟩ | ⟨-, rfl⟩ | ⟨-, rfl⟩ <;> exact ⟨rfl, rfl⟩

theorem OutputFormat.usage_of_error {name : String}
    (h : OutputFormat.ofName name = .error failure) :
    failure.isUsage = true ∧ failure.ofEndpoint = false := by
  unfold OutputFormat.ofName at h
  split at h
  · cases h
  · split at h
    · cases h
    · cases h
      exact ⟨rfl, rfl⟩

namespace Services

variable {services : Services}

/-- That nothing answers is not the user's. -/
theorem usage_of_reach_error {endpoint : Endpoint}
    (h : connect.reach services endpoint = .error failure) :
    failure.isUsage = failure.ofEndpoint := by
  cases hs : services endpoint with
  | error causes =>
    rw [reach_of_error hs] at h
    cases h
    rfl
  | ok runtime =>
    rw [reach_of_ok hs] at h
    cases h

theorem usage_of_connect_error {endpoint : Endpoint}
    (h : services.connect endpoint = .error failure) : failure.isUsage = failure.ofEndpoint := by
  cases endpoint with
  | unix path => exact usage_of_reach_error h
  | tcp address =>
    rw [connect] at h
    cases ha : Address.problem? address with
    | some cause =>
      rw [ha] at h
      cases h
      rfl
    | none =>
      rw [ha] at h
      exact usage_of_reach_error h

/-- No runtime is found where the endpoint makes no sense or nothing answers, and only the first is
the user's. -/
theorem usage_of_error {given : Option String} (h : services.find given = .error failure) :
    failure.isUsage = failure.ofEndpoint := by
  cases given with
  | none =>
    rw [find] at h
    cases hu : Endpoint.usual.findSome? fun endpoint => (services endpoint).toOption with
    | none =>
      rw [hu] at h
      cases h
      rfl
    | some runtime =>
      rw [hu] at h
      cases h
  | some text =>
    rw [find] at h
    cases hp : Endpoint.parse text with
    | error refused =>
      rw [hp] at h
      cases h
      obtain ⟨cause, -, rfl⟩ := Endpoint.parse_eq_error_iff.mp hp
      rfl
    | ok endpoint =>
      rw [hp] at h
      exact usage_of_connect_error h

end Services

/-- What the runtime and storage come to is never the user's. -/
theorem ListPlan.not_usage_of_collect {plan : ListPlan} {files : FileSystem} {layout : Layout}
    {pid : String} {now : Int} {runtime : Runtime} (hp : plan.Seeks pid)
    (h : (plan.collect files layout now runtime).run.value = .error failure) :
    failure.isUsage = false := by
  cases ha : runtime.answer plan.filter with
  | error status =>
    rw [run_collect_of_error ha] at h
    cases h
    rfl
  | ok containers =>
    rw [run_collect_of_ok ha] at h
    have hf : failure? (plan.collectFrom files layout now containers).run.value =
        plan.storageFailure? files layout pid containers := failure?_collectFrom hp containers
    rw [h] at hf
    obtain ⟨c, -, hc⟩ := List.exists_of_findSome?_eq_some hf.symm
    cases hfound : layout.found files c with
    | ok stored =>
      rw [hfound] at hc
      cases hc
    | error failure' =>
      rw [hfound] at hc
      cases hc
      obtain ⟨cause, rfl⟩ := Layout.correlate_error hfound
      rfl

/-! ## How far such a run gets -/

namespace Invocation

variable {call : Invocation} {host : Host}

theorem run_execute_storage {output : String} (hc : call.command = .storage output)
    (host : Host) :
    (call.execute host).run =
      match OutputFormat.ofName output with
      | .error failure => ⟨[], .error failure⟩
      | .ok format => ⟨(call.loaded host).events,
          .ok (renderStore format (call.loaded host).value)⟩ := by
  rw [execute, hc]
  cases hf : OutputFormat.ofName output with
  | error failure => exact Traced.run_check_bind_error hf _
  | ok format =>
    refine (Traced.run_check_bind_ok hf _).trans ?_
    rw [Traced.run_lift_bind, Traced.run_pure, List.append_nil]
    rfl

theorem events_storage_of_usage {output : String} (hc : call.command = .storage output)
    (h : (call.execute host).run.value = .error failure) :
    (call.execute host).run.events = [] ∧ failure.ofEndpoint = false := by
  have hrun := run_execute_storage hc host
  cases hf : OutputFormat.ofName output with
  | error refused =>
    rw [hf] at hrun
    rw [hrun] at h ⊢
    cases h
    exact ⟨rfl, (OutputFormat.usage_of_error hf).2⟩
  | ok format =>
    rw [hf] at hrun
    rw [hrun] at h
    cases h

theorem events_ps_of_usage {options : ListOptions}
    (h : ((call.ps options).execute host).run.value = .error failure)
    (usage : failure.isUsage = true) :
    ((call.ps options).execute host).run.events =
      if failure.ofEndpoint then (call.loaded host).events else [] := by
  cases hp : ListPlan.of options with
  | error refused =>
    have hrun : ((call.ps options).execute host).run = ⟨[], .error refused⟩ :=
      run_execute_of_plan_error hp
    rw [hrun] at h ⊢
    cases h
    rw [(ListPlan.usage_of_error hp).2]
    rfl
  | ok plan =>
    cases hf : host.services.find call.runtimeEndpoint with
    | error refused =>
      have hrun := run_execute_of_find_error hp hf
      rw [hrun] at h ⊢
      cases h
      rw [← Services.usage_of_error hf, usage]
      rfl
    | ok runtime =>
      have hrun := run_execute_of_found hp hf
      rw [hrun] at h
      cases hv : (plan.collect host.files (call.loaded host).value.layout host.now
          runtime).run.value with
      | ok records =>
        rw [hv] at h
        cases h
      | error refused =>
        rw [hv] at h
        cases h
        rw [ListPlan.not_usage_of_collect (ListPlan.of_valid hp).1 hv] at usage
        cases usage

/-- A run that ends with a failure of the user's has done nothing before a flag was refused, and
nothing but load the storage settings before an endpoint was. -/
theorem run_execute_of_usage (h : (call.execute host).run.value = .error failure)
    (usage : failure.isUsage = true) :
    (call.execute host).run.events =
      if failure.ofEndpoint then (call.loaded host).events else [] := by
  cases hc : call.command with
  | storage output =>
    obtain ⟨hevents, hendpoint⟩ := events_storage_of_usage hc h
    rw [hevents, hendpoint]
    rfl
  | ps options =>
    rw [← ps_eq_self hc] at h ⊢
    exact events_ps_of_usage h usage

end Invocation

/-! ## How the program ends -/

namespace Outcome

theorem ofArguments_of_error {host : Host} {args : List String} {call : Invocation}
    (accepted : Invocation.ofArguments host.env args = .ok call)
    (failed : (call.execute host).run.value = .error failure) :
    ofArguments host args = ⟨1, "", (call.execute host).run.warnings.map (fun w =>
      ⟨.warning, w.message host.wording⟩) ++ [⟨.error, call.report host.wording failure⟩]⟩ := by
  simp only [ofArguments, accepted, ofCall, failed]

theorem usage_outcome {host : Host} {args : List String} {call : Invocation}
    (accepted : Invocation.ofArguments host.env args = .ok call)
    (failed : (call.execute host).run.value = .error failure) (usage : failure.isUsage = true) :
    let run := (call.execute host).run
    let loaded := call.loaded host
    run.requests = [] ∧
      match failure with
      | .invalidEndpoint _ _ =>
        run.events = loaded.events ∧
          ofArguments host args =
            ⟨1, "", loaded.warnings.map (fun w => ⟨.warning, w.message host.wording⟩) ++
              [⟨.error, failure.message⟩]⟩
      | _ => run.events = [] ∧ ofArguments host args = ⟨1, "", [⟨.error, failure.message⟩]⟩ := by
  intro run loaded
  have hevents := Invocation.run_execute_of_usage failed usage
  have houtcome := ofArguments_of_error accepted failed
  rw [Invocation.report, if_pos usage] at houtcome
  have hwarnings : run.warnings = if failure.ofEndpoint then loaded.warnings else [] := by
    rw [Traced.warnings, hevents]
    split <;> rfl
  have hrequests : run.requests = [] := by
    rw [Traced.requests, hevents]
    split
    · exact Store.requests_load _ _ _ _
    · rfl
  rw [hwarnings] at houtcome
  refine ⟨hrequests, ?_⟩
  cases failure with
  | invalidEndpoint text cause => exact ⟨hevents, houtcome⟩
  | _ => exact ⟨hevents, houtcome⟩

/-- A format that does not exist is all that a run tells of, although the endpoint makes no sense
and the storage settings are malformed. -/
theorem usage_outcome_format :
    let files : FileSystem := ⟨fun _ => .ok (Utf8.encode "[")⟩
    let wording : Wording := fun _ => "not well-formed"
    let host : Host :=
      { files, env := fun _ => none, services := fun _ => .error [], wording, now := 0 }
    let args := ["--runtime-endpoint=npipe", "--storage-conf=storage.conf", "ps", "--output=xml"]
    let call : Invocation :=
      ⟨some "npipe", 2, "storage.conf", false, .ps { output := "xml" }⟩
    Invocation.ofArguments host.env args = .ok call ∧
      (call.execute host).run.value = .error (.unsupportedOutput "xml") ∧
      (call.execute host).run.events = [] ∧
      ofArguments host args = ⟨1, "", [⟨.error, "unsupported output format \"xml\""⟩]⟩ := by
  intro files wording host args call
  have accepted : Invocation.ofArguments host.env args = .ok call := by decide +kernel
  have failed : (call.execute host).run.value = .error (.unsupportedOutput "xml") := by
    decide +kernel
  obtain ⟨-, hevents, houtcome⟩ := usage_outcome accepted failed rfl
  refine ⟨accepted, failed, hevents, houtcome.trans ?_⟩
  decide +kernel

/-- An endpoint that makes no sense is told of behind the warning that the storage settings are
malformed, which have been read by then. -/
theorem endpoint_behind_settings :
    let files : FileSystem :=
      ⟨fun path => if path = "storage.conf" then .ok (Utf8.encode "[") else .error .notFound⟩
    let wording : Wording := fun _ => "not well-formed"
    let host : Host :=
      { files, env := fun _ => none, services := fun _ => .error [], wording, now := 0 }
    let args := ["--runtime-endpoint=npipe", "--storage-conf=storage.conf", "ps"]
    let call : Invocation := ⟨some "npipe", 2, "storage.conf", false, .ps {}⟩
    let malformed : Warning := .malformedSettings "storage.conf" "[".toList
    let failure : Failure := .invalidEndpoint "npipe" .unknownProtocol
    Invocation.ofArguments host.env args = .ok call ∧
      (call.execute host).run = ⟨[.read "storage.conf", .warn malformed], .error failure⟩ ∧
      failure.isUsage = true ∧
      ofArguments host args = ⟨1, "",
        [⟨.warning, "Failed to parse storage.conf: " ++ wording (.settings "[".toList)⟩,
         ⟨.error, "invalid runtime endpoint \"npipe\": " ++
          "protocol not supported, use unix:// or tcp://"⟩]⟩ := by
  decide +kernel

end Outcome
end ContainerRoster
