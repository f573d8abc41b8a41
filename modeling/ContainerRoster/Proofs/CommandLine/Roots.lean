import ContainerRoster.Proofs.CommandLine.Usage
import ContainerRoster.Proofs.Output.Lossless

/-!
# Where a listing reads

The storage command prints the root and the driver that a listing with the same settings and
environment goes by, so that one can tell where it will read.  `listing_below_root`: every document
that a listing reads has the components of the root in front, unless the driver starts with a slash.
Such a driver is a path of its own, and the root is not looked at.
-/

namespace ContainerRoster

/-! ## The directory of a driver -/

theorem Path.isAbsolute_driver (driver : String) :
    Path.isAbsolute (driver ++ "-containers") = Path.isAbsolute driver := by
  by_cases h : driver = ""
  · subst h
    rfl
  · exact Path.isAbsolute_append h _

namespace Layout

variable {layout : Layout} {files : FileSystem} {root driver id path : String}

/-- A driver that starts with a slash is not looked for under the root. -/
theorem components_containersDir (hroot : root ≠ "") :
    Path.components (Layout.of root driver).containersDir =
      if Path.isAbsolute driver then Path.components (driver ++ "-containers")
      else Path.components root ++
        (Path.components (driver ++ "-containers")).filter (· ≠ .current) := by
  have habsolute := Path.isAbsolute_driver driver
  cases h : Path.isAbsolute driver with
  | true =>
    rw [h] at habsolute
    rw [Layout.of, Path.join, habsolute]
    rfl
  | false =>
    rw [h] at habsolute
    rw [Layout.of, Path.components_join_of_not_isAbsolute hroot habsolute,
      Path.innerSteps_eq_filter habsolute]
    rfl

/-- Only for plain names anything is read, and then one of their documents. -/
theorem components_of_mem_reads (h : path ∈ (layout.correlate files id).run.reads) :
    Path.IsPlain id ∧ ∃ document ∈ ["config.json", "state.json"],
      Path.components path = Path.components layout.containersDir ++
        [.normal id, .normal "userdata", .normal document] := by
  have hid : Path.IsPlain id := by
    by_contra hid
    rw [run_correlate_of_not_isPlain hid] at h
    cases h
  refine ⟨hid, ?_⟩
  have hmem := reads_correlate_subset files id h
  simp only [List.mem_cons, List.not_mem_nil, or_false] at hmem ⊢
  rcases hmem with rfl | rfl
  · exact ⟨_, .inl rfl, components_configPath hid⟩
  · exact ⟨_, .inr rfl, components_statePath hid⟩

end Layout

/-! ## What a listing reads -/

theorem ListPlan.exists_reads_collect {plan : ListPlan} {pid : String} (hp : plan.Seeks pid)
    (files : FileSystem) (layout : Layout) (now : Int) (runtime : Runtime) :
    ∃ visited : List Container, (plan.collect files layout now runtime).run.reads =
      visited.flatMap fun c => (layout.correlate files c.id).run.reads := by
  cases ha : runtime.answer plan.filter with
  | error status =>
    rw [run_collect_of_error ha]
    exact ⟨[], rfl⟩
  | ok containers =>
    refine ⟨plan.visited files layout pid containers, ?_⟩
    rw [run_collect_of_ok ha, Traced.reads, collectFrom_events hp, List.filterMap_cons,
      List.filterMap_flatMap]
    rfl

namespace Store

/-- The root of a store is not empty, as an empty setting counts as none. -/
theorem graphRoot_ofSettings_ne (files : FileSystem) (places : SubIdFiles) (s : Settings) :
    (ofSettings files places s).value.graphRoot ≠ "" := by
  simp only [ofSettings, Traced.value_bind, Traced.value_pure]
  split
  · decide
  · next h => exact fun hempty => h (String.isEmpty_iff.mpr hempty)

theorem graphRoot_load_ne (files : FileSystem) (places : SubIdFiles) (env : Environment)
    (path : String) : (load files places env path).value.graphRoot ≠ "" := by
  have hdefault : ({} : Store).graphRoot ≠ "" := by decide
  show (ofFile files places path).value.graphRoot ≠ ""
  rw [ofFile, Traced.value_bind]
  split
  · split
    · exact graphRoot_ofSettings_ne files places _
    · exact hdefault
  · exact hdefault
  · exact hdefault

theorem lookup_root (s : Store) : s.document.lookup "root" = some (.string s.graphRoot) := rfl

theorem lookup_driver (s : Store) : s.document.lookup "driver" = some (.string s.driver) := rfl

end Store

namespace Invocation

variable {call : Invocation} {host : Host} {root driver : String}

/-- The invocation that prints the storage settings and is otherwise the same. -/
def storage (call : Invocation) (output : String) : Invocation :=
  { call with command := .storage output }

theorem storage_eq_self {output : String} (h : call.command = .storage output) :
    call.storage output = call := by
  rw [storage, ← h]

/-- Whether the storage command prints a root and a driver under their keys. -/
def Reports (call : Invocation) (host : Host) (root driver : String) : Prop :=
  ∃ output members, ((call.storage "json").execute host).run.value = .ok output ∧
    Json.ofBytes? (Utf8.encode output) = some (.object members) ∧
    members.lookup "root" = some (.string root) ∧
    members.lookup "driver" = some (.string driver)

/-- What is reported is what the settings are loaded as. -/
theorem reports_iff : call.Reports host root driver ↔
    root = (call.loaded host).value.graphRoot ∧ driver = (call.loaded host).value.driver := by
  have hcommand : (call.storage "json").command = .storage "json" := rfl
  have hrun : ((call.storage "json").execute host).run.value =
      .ok (renderStore .json (call.loaded host).value) :=
    congrArg Traced.value (run_execute_storage hcommand host)
  have hread := (call.loaded host).value.ofBytes?_document
  constructor
  · rintro ⟨output, members, ho, hm, hroot, hdriver⟩
    rw [← Except.ok.inj (hrun.symm.trans ho), hread] at hm
    rw [← Json.object.inj (Option.some.inj hm)] at hroot hdriver
    rw [Store.lookup_root, Option.some.injEq, Json.string.injEq] at hroot
    rw [Store.lookup_driver, Option.some.injEq, Json.string.injEq] at hdriver
    exact ⟨hroot.symm, hdriver.symm⟩
  · rintro ⟨rfl, rfl⟩
    exact ⟨_, _, hrun, hread, Store.lookup_root _, Store.lookup_driver _⟩

/-- A listing that gets past its flags loads the settings and then asks storage about containers. -/
theorem reads_ps (call : Invocation) (options : ListOptions) (host : Host) :
    ∃ visited : List Container, ((call.ps options).execute host).run.reads = [] ∨
      ((call.ps options).execute host).run.reads = (call.loaded host).reads ++
        visited.flatMap fun c =>
          ((call.loaded host).value.layout.correlate host.files c.id).run.reads := by
  cases hp : ListPlan.of options with
  | error failure =>
    rw [run_execute_of_plan_error hp]
    exact ⟨[], .inl rfl⟩
  | ok plan =>
    cases hf : host.services.find call.runtimeEndpoint with
    | error failure =>
      rw [run_execute_of_find_error hp hf]
      exact ⟨[], .inr (List.append_nil _).symm⟩
    | ok runtime =>
      obtain ⟨visited, hreads⟩ := ListPlan.exists_reads_collect (ListPlan.of_valid hp).1
        host.files (call.loaded host).value.layout host.now runtime
      refine ⟨visited, .inr ?_⟩
      rw [run_execute_of_found hp hf, ← hreads]
      exact List.filterMap_append

theorem listing_below_root (reported : call.Reports host root driver) :
    (∀ options, ∃ visited : List Container,
      ((call.ps options).execute host).run.reads = [] ∨
        ((call.ps options).execute host).run.reads = (call.loaded host).reads ++
          visited.flatMap fun c =>
            ((Layout.of root driver).correlate host.files c.id).run.reads) ∧
    ∀ id, ∀ path ∈ ((Layout.of root driver).correlate host.files id).run.reads,
      Path.IsPlain id ∧ ∃ document ∈ ["config.json", "state.json"],
        Path.components path =
          (if Path.isAbsolute driver then Path.components (driver ++ "-containers")
            else Path.components root ++
              (Path.components (driver ++ "-containers")).filter (· ≠ .current)) ++
          [.normal id, .normal "userdata", .normal document] := by
  obtain ⟨rfl, rfl⟩ := reports_iff.mp reported
  have hroot : (call.loaded host).value.graphRoot ≠ "" := Store.graphRoot_load_ne _ _ _ _
  refine ⟨fun options => reads_ps call options host, fun id path hpath => ?_⟩
  obtain ⟨hid, document, hdocument, hcomponents⟩ := Layout.components_of_mem_reads hpath
  refine ⟨hid, document, hdocument, ?_⟩
  rw [hcomponents, Layout.components_containersDir hroot]

/-- A driver may lead anywhere, but it does so from the root on. -/
theorem listing_below_root_parent :
    let files : FileSystem := ⟨fun path =>
      if path = "conf" then .ok (Utf8.encode "[storage]\ngraphroot = \"store/\"\n")
      else .ok (Utf8.encode "\x7b\x7d")⟩
    let env : Environment := fun name => if name = "STORAGE_DRIVER" then some "./a/../b" else none
    let runtime : Runtime := Runtime.holding [⟨"c1", none, 1, 0⟩]
    let wording : Wording := fun _ => "not well-formed"
    let host : Host := { files, env, services := fun _ => .ok runtime, wording, now := 0 }
    let call : Invocation := ⟨some "/rt.sock", 2, "conf", false, .ps {}⟩
    let path := "store/./a/../b-containers/c1/userdata/state.json"
    call.Reports host "store/" "./a/../b" ∧ path ∈ (call.execute host).run.reads ∧
      ∃ document ∈ ["config.json", "state.json"], Path.components path =
        [.normal "store", .normal "a", .parent, .normal "b-containers", .normal "c1",
          .normal "userdata", .normal document] := by
  intro files env runtime wording host call path
  have reported : call.Reports host "store/" "./a/../b" :=
    reports_iff.mpr ⟨by decide +kernel, by decide +kernel⟩
  have hread : path ∈ ((Layout.of "store/" "./a/../b").correlate files "c1").run.reads := by
    decide +kernel
  have hbase : Path.components "store/" ++
      (Path.components ("./a/../b" ++ "-containers")).filter (· ≠ .current) =
        [.normal "store", .normal "a", .parent, .normal "b-containers"] := by decide +kernel
  obtain ⟨-, document, hdocument, hcomponents⟩ :=
    (listing_below_root reported).2 "c1" path hread
  rw [show Path.isAbsolute "./a/../b" = false from rfl, if_neg Bool.false_ne_true, hbase]
    at hcomponents
  exact ⟨reported, by decide +kernel, document, hdocument, hcomponents⟩

/-- A driver that starts with a slash leads away from the root that is reported. -/
theorem absolute_driver_leaves_root :
    let files : FileSystem := ⟨fun path =>
      if path = "conf" then .ok (Utf8.encode "[storage]\ngraphroot = \"store\"\n")
      else .error .notFound⟩
    let env : Environment := fun name => if name = "STORAGE_DRIVER" then some "/x" else none
    let runtime : Runtime := Runtime.holding [⟨"c1", none, 1, 0⟩]
    let wording : Wording := fun _ => "not well-formed"
    let host : Host := { files, env, services := fun _ => .ok runtime, wording, now := 0 }
    let call : Invocation := ⟨some "/rt.sock", 2, "conf", false, .ps {}⟩
    let path := "/x-containers/c1/userdata/config.json"
    call.Reports host "store" "/x" ∧ (call.execute host).run.reads = ["conf", path] ∧
      ¬Path.components "store" <+: Path.components path := by
  intro files env runtime wording host call path
  exact ⟨reports_iff.mpr ⟨by decide +kernel, by decide +kernel⟩, by decide +kernel,
    by decide +kernel⟩

end Invocation
end ContainerRoster
