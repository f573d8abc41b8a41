import ContainerRoster.Proofs.CommandLine.Roots
import ContainerRoster.Proofs.Listing.Selection

/-!
# How a run of the program ends

A run prints all of its output or nothing.  `all_or_nothing`: it ends with status 0 exactly if its
command succeeds, and then what it prints is the whole document; else it ends with status 1 and one
error behind the warnings, whatever had been put together by then.  The error names the failure and
all that it goes back to: the causes that an endpoint is not reached for, the status that a request
is answered with, or what storage says of a container, wherever that stands among those visited.
-/

namespace ContainerRoster

/-! ## Failures -/

theorem Failure.message_unreachable (endpoint : String) (causes : List String) :
    (connection (.unreachable endpoint causes)).message =
      "Connection error: failed to connect to " ++ endpoint := by
  show "Connection error: " ++ ("failed to connect to " ++ endpoint) = _
  simp only [← String.append_assoc, String.reduceAppend]

theorem Services.find_of_unreachable {services : Services} {text : String} {endpoint : Endpoint}
    {causes : List String} (hp : Endpoint.parse text = .ok endpoint)
    (hsense : Endpoint.textFailure? (some text) = none) (hs : services endpoint = .error causes) :
    services.find (some text) = .error (.connection (.unreachable endpoint.text causes)) := by
  have hchecks := find_checks services (some text)
  simp only [hsense, connectionFailure?, hp, hs] at hchecks
  exact hchecks

namespace Invocation

variable {call : Invocation} {options : ListOptions} {host : Host} {plan : ListPlan}

theorem report_of_listing (hc : call.command = .ps options) {failure : Failure}
    (hf : failure.isUsage = false) (wording : Wording) :
    call.report wording failure =
      String.intercalate ": " ("listing containers failed" :: failure.chain wording) := by
  rw [report, hf, if_neg Bool.false_ne_true, purpose, hc]

/-- The causes of a connection that fails stand behind the endpoint. -/
example : report ⟨some "/rt.sock", 2, "storage.conf", false, .ps {}⟩ (fun _ => "")
    (.connection (.unreachable "unix:///rt.sock"
      ["transport error", "No such file or directory (os error 2)"])) =
    "listing containers failed: Connection error: failed to connect to unix:///rt.sock: " ++
      "transport error: No such file or directory (os error 2)" := by
  decide +kernel

theorem value_execute_of_status {runtime : Runtime} {status : Status}
    (hp : ListPlan.of options = .ok plan)
    (hf : host.services.find call.runtimeEndpoint = .ok runtime)
    (ha : runtime.answer plan.filter = .error status) :
    ((call.ps options).execute host).run.value = .error (.transport status) := by
  rw [run_execute_of_found hp hf, ListPlan.run_collect_of_error ha]
  rfl

end Invocation

/-! ## Successes -/

namespace Invocation

variable {call : Invocation} {host : Host} {output : String}

/-- Whether a text is all that a command is to print: the settings as they were loaded, or a record
of every container that is selected from the answer. -/
def Prints (call : Invocation) (host : Host) (output : String) : Prop :=
  match call.command with
  | .storage name => ∃ format, OutputFormat.ofName name = .ok format ∧
      output = renderStore format (call.loaded host).value
  | .ps options => ∃ plan runtime containers shown, ListPlan.of options = .ok plan ∧
      host.services.find call.runtimeEndpoint = .ok runtime ∧
      runtime.answer plan.filter = .ok containers ∧
      plan.postFilter.Selects host.files (call.loaded host).value.layout containers shown ∧
      output = renderRecords plan.format
        (shown.map fun s => Record.assemble s.1 s.2 plan.noTrunc host.now)

theorem value_execute_storage_iff {name : String} :
    ((call.storage name).execute host).run.value = .ok output ↔
      (call.storage name).Prints host output := by
  show _ ↔ ∃ format, _
  rw [run_execute_storage rfl]
  cases hf : OutputFormat.ofName name with
  | error failure => simp
  | ok format =>
    constructor
    · intro h
      exact ⟨format, rfl, (Except.ok.inj h).symm⟩
    · rintro ⟨_, h, rfl⟩
      rw [← Except.ok.inj h]

theorem value_execute_ps_iff {options : ListOptions} :
    ((call.ps options).execute host).run.value = .ok output ↔
      (call.ps options).Prints host output := by
  show _ ↔ ∃ plan runtime containers shown, _
  cases hp : ListPlan.of options with
  | error failure =>
    rw [run_execute_of_plan_error hp]
    simp
  | ok plan =>
    have hendpoint : (call.ps options).runtimeEndpoint = call.runtimeEndpoint := rfl
    rw [hendpoint]
    cases hf : host.services.find call.runtimeEndpoint with
    | error failure =>
      rw [run_execute_of_find_error hp hf]
      simp
    | ok runtime =>
      rw [run_execute_of_found hp hf, map_eq_ok_iff]
      constructor
      · rintro ⟨records, hr, rfl⟩
        obtain ⟨containers, shown, ha, hs, rfl⟩ := ListPlan.value_collect_iff.mp hr
        exact ⟨plan, runtime, containers, shown, rfl, rfl, ha, hs, rfl⟩
      · rintro ⟨_, _, containers, shown, hplan, hruntime, ha, hs, rfl⟩
        cases hplan
        cases hruntime
        exact ⟨_, ListPlan.value_collect_iff.mpr ⟨containers, shown, ha, hs, rfl⟩, rfl⟩

theorem value_execute_iff :
    (call.execute host).run.value = .ok output ↔ call.Prints host output := by
  cases hc : call.command with
  | storage name =>
    rw [← storage_eq_self hc]
    exact value_execute_storage_iff
  | ps options =>
    rw [← ps_eq_self hc]
    exact value_execute_ps_iff

end Invocation

/-! ## Containers that storage fails on -/

namespace ListPlan

variable {plan : ListPlan} {files : FileSystem} {layout : Layout} {pid : String} {now : Int}
  {containers : List Container} {c : Container} {failure : Failure}

/-- A visit that ends a listing is the last one. -/
theorem find?_of_mem_visited (hc : c ∈ plan.visited files layout pid containers)
    (he : layout.endsAt files pid c = true) :
    (plan.candidates containers).find? (layout.endsAt files pid) = some c := by
  obtain ⟨i, hi, hget⟩ := List.mem_take_iff_getElem.mp hc
  have hlast : (plan.candidates containers).findIdx (layout.endsAt files pid) = i := by
    refine Nat.le_antisymm ?_ (by omega)
    by_contra hlt
    have hgo := List.not_of_lt_findIdx (Nat.lt_of_not_le hlt)
    rw [hget, he] at hgo
    cases hgo
  rw [List.find?_eq_getElem?_findIdx, hlast, List.getElem?_eq_getElem (by omega), hget]

/-- Whichever container visited storage fails on, the listing fails like that. -/
theorem value_collectFrom_of_broken (hp : plan.Seeks pid)
    (hc : c ∈ plan.visited files layout pid containers)
    (hf : layout.found files c = .error failure) :
    (plan.collectFrom files layout now containers).run.value = .error failure := by
  have he : layout.endsAt files pid c = true := by rw [Layout.endsAt, hf]
  have hv := @collectFrom_value plan files layout pid now hp containers
  rw [find?_of_mem_visited hc he] at hv
  simp only [hf] at hv
  exact hv.1

end ListPlan

/-- A listing fails as storage fails on a container visited. -/
theorem Invocation.value_execute_of_broken {call : Invocation} {options : ListOptions} {host : Host}
    {plan : ListPlan} {runtime : Runtime} {containers : List Container} {c : Container}
    {failure : Failure} (hp : ListPlan.of options = .ok plan)
    (hf : host.services.find call.runtimeEndpoint = .ok runtime)
    (ha : runtime.answer plan.filter = .ok containers)
    (hc : c ∈ plan.visited host.files (call.loaded host).value.layout options.pid containers)
    (hbroken : (call.loaded host).value.layout.found host.files c = .error failure) :
    ((call.ps options).execute host).run.value = .error failure := by
  rw [run_execute_of_found hp hf, ListPlan.run_collect_of_ok ha,
    ListPlan.value_collectFrom_of_broken (ListPlan.of_valid hp).1 hc hbroken]
  rfl

/-! ## Whole runs -/

namespace Outcome

variable {host : Host} {args : List String} {call : Invocation}

/-- How a run ends, by what its command comes to. -/
theorem ofArguments_of_accepted (accepted : Invocation.ofArguments host.env args = .ok call) :
    let run := (call.execute host).run
    let warnings := run.warnings.map fun w => (⟨.warning, w.message host.wording⟩ : LogEntry)
    match run.value with
    | .ok output => ofArguments host args = ⟨0, output, warnings⟩
    | .error failure => ofArguments host args =
        ⟨1, "", warnings ++ [⟨.error, call.report host.wording failure⟩]⟩ := by
  intro run warnings
  cases hv : run.value with
  | ok output => simp only [ofArguments, accepted, ofCall, hv, run, warnings]
  | error failure => exact ofArguments_of_error accepted hv

/-- A listing that fails, and not by the user's fault, tells of the failure and of all that it goes
back to. -/
theorem ofArguments_of_failed_listing {options : ListOptions} {failure : Failure}
    (accepted : Invocation.ofArguments host.env args = .ok call) (hc : call.command = .ps options)
    (hv : ((call.ps options).execute host).run.value = .error failure)
    (hf : failure.isUsage = false) :
    ofArguments host args = ⟨1, "",
      (call.execute host).run.warnings.map (fun w => ⟨.warning, w.message host.wording⟩) ++
        [⟨.error, String.intercalate ": "
          ("listing containers failed" :: failure.chain host.wording)⟩]⟩ := by
  rw [Invocation.ps_eq_self hc] at hv
  rw [ofArguments_of_error accepted hv, Invocation.report_of_listing hc hf]

theorem exitStatus_eq_zero_iff (accepted : Invocation.ofArguments host.env args = .ok call) :
    (ofArguments host args).exitStatus = 0 ↔
      ∃ output, (call.execute host).run.value = .ok output := by
  have hends := ofArguments_of_accepted accepted
  cases hv : (call.execute host).run.value with
  | ok output =>
    simp only [hv] at hends
    rw [hends]
    exact ⟨fun _ => ⟨output, rfl⟩, fun _ => rfl⟩
  | error failure =>
    simp only [hv] at hends
    rw [hends]
    constructor
    · intro h
      cases h
    · rintro ⟨_, h⟩
      cases h

theorem all_or_nothing (accepted : Invocation.ofArguments host.env args = .ok call) :
    let run := (call.execute host).run
    let outcome := ofArguments host args
    let warnings := run.warnings.map fun w => (⟨.warning, w.message host.wording⟩ : LogEntry)
    (∀ output, run.value = .ok output ↔ call.Prints host output) ∧
    (outcome.exitStatus = 0 ↔ ∃ output, call.Prints host output) ∧
    (match run.value with
      | .ok output => outcome = ⟨0, output, warnings⟩
      | .error failure => outcome = ⟨1, "", warnings ++ [⟨.error,
          if failure.isUsage then failure.message
          else String.intercalate ": " (call.purpose :: failure.chain host.wording)⟩]⟩) ∧
    ∀ options plan, call.command = .ps options → ListPlan.of options = .ok plan →
      let failsWith (chain : List String) : Prop :=
        outcome = ⟨1, "", warnings ++ [⟨.error,
          String.intercalate ": " ("listing containers failed" :: chain)⟩]⟩
      (∀ text endpoint causes, call.runtimeEndpoint = some text →
        Endpoint.parse text = .ok endpoint → Endpoint.textFailure? (some text) = none →
        host.services endpoint = .error causes →
        failsWith (("Connection error: failed to connect to " ++ endpoint.text) :: causes)) ∧
      ∀ runtime, host.services.find call.runtimeEndpoint = .ok runtime →
        (∀ status, runtime.answer plan.filter = .error status →
          failsWith (status.text :: status.text :: status.causes)) ∧
        ∀ containers, runtime.answer plan.filter = .ok containers →
          let layout := (call.loaded host).value.layout
          ∀ c ∈ plan.visited host.files layout options.pid containers, ∀ failure,
            layout.found host.files c = .error failure →
            failsWith (failure.chain host.wording) := by
  intro run outcome warnings
  refine ⟨fun output => Invocation.value_execute_iff, ?_, ofArguments_of_accepted accepted, ?_⟩
  · simp only [← Invocation.value_execute_iff]
    exact exitStatus_eq_zero_iff accepted
  intro options plan hcommand hp failsWith
  have hends : ∀ failure, ((call.ps options).execute host).run.value = .error failure →
      failure.isUsage = false → failsWith (failure.chain host.wording) :=
    fun failure hv hf => ofArguments_of_failed_listing accepted hcommand hv hf
  refine ⟨?unreachable, fun runtime hf => ⟨?status, ?storage⟩⟩
  case unreachable =>
    intro text endpoint causes hgiven hparse hsense hs
    have hfind := Services.find_of_unreachable hparse hsense hs
    rw [← hgiven] at hfind
    have hrun := Invocation.run_execute_of_find_error hp hfind
    have hunreachable := hends _ (by rw [hrun]) rfl
    rw [Failure.chain, Failure.message_unreachable] at hunreachable
    exact hunreachable
  case status =>
    intro status ha
    exact hends (.transport status) (Invocation.value_execute_of_status hp hf ha) rfl
  case storage =>
    intro containers ha layout c hc failure hbroken
    have hv := Invocation.value_execute_of_broken hp hf ha hc hbroken
    obtain ⟨cause, rfl⟩ := Layout.correlate_error hbroken
    exact hends (.storage cause) hv rfl

/-- A listing whose first container has been put together says only that storage fails on the second
one, behind a warning about the first. -/
theorem all_or_nothing_second_broken :
    let directory := "/var/lib/containers/storage/-containers"
    let files : FileSystem := ⟨fun path =>
      if path = directory ++ "/a/userdata/config.json" then .ok (Utf8.encode "[")
      else if path = directory ++ "/a/userdata/state.json" then .ok (Utf8.encode "\x7b\x7d")
      else .error .notFound⟩
    let containers : List Container := [⟨"a", none, 1, 0⟩, ⟨"b", none, 1, 0⟩, ⟨"c", none, 1, 0⟩]
    let wording : Wording := fun _ => "EOF while parsing a list at line 1 column 1"
    let runtime : Runtime := ⟨fun _ => .ok containers⟩
    let host : Host :=
      { files, env := fun _ => none, services := fun _ => .ok runtime, wording, now := 0 }
    let args := ["--runtime-endpoint=/rt.sock", "--storage-conf=conf", "ps", "--output=json"]
    Invocation.ofArguments host.env args =
        .ok ⟨some "/rt.sock", 2, "conf", false, .ps { output := "json" }⟩ ∧
      ofArguments host args = ⟨1, "",
        [⟨.warning, "Ignoring malformed " ++ directory ++
          "/a/userdata/config.json: EOF while parsing a list at line 1 column 1"⟩,
         ⟨.error, "listing containers failed: " ++
          "Storage error: failed to read container metadata: " ++
          directory ++ "/b/userdata/config.json: No such file or directory (os error 2)"⟩]⟩ := by
  intro directory files containers wording runtime host args
  have accepted : Invocation.ofArguments host.env args =
      .ok ⟨some "/rt.sock", 2, "conf", false, .ps { output := "json" }⟩ := by decide +kernel
  obtain ⟨-, -, -, hlisting⟩ := all_or_nothing accepted
  obtain ⟨-, hreached⟩ := hlisting { output := "json" }
    ⟨{ state := some .running }, ⟨none, none⟩, false, .json⟩ rfl rfl
  obtain ⟨-, hbroken⟩ := hreached runtime rfl
  have hends := hbroken containers rfl ⟨"b", none, 1, 0⟩ (by decide +kernel)
    (.storage (.unreadable (directory ++ "/b/userdata/config.json") .notFound)) (by decide +kernel)
  exact ⟨accepted, hends.trans (by decide +kernel)⟩

end Outcome
end ContainerRoster
