import ContainerRoster.Proofs.Storage.Correlate
import ContainerRoster.Proofs.Storage.Documents

/-!
# The fields of a container

Where the mount point, the process id and the address of a container come from.
`correlate_tolerant` is about what goes wrong: a document that cannot be read ends the question, one
that is malformed says nothing of its own fields, and of an object each field is decided by its own
member.  `fields_by_key` is about what is found: as long as no document and no root section is an
array, there is a path of keys to it.  `array_root_names_mountPoint` shows why that has to be asked.
-/

namespace ContainerRoster
namespace Layout

open Metadata Json

variable {id : String}

theorem correlate_tolerant (layout : Layout) (hid : Path.IsPlain id) (files : FileSystem) :
    (let run := (layout.correlate files id).run;
      match files.read (layout.configPath id), files.read (layout.statePath id) with
      | .error cause, _ =>
        run.value = .error (.storage (.unreadable (layout.configPath id) cause)) ∧
          run.warnings = []
      | .ok config, .error cause =>
        run.value = .error (.storage (.unreadable (layout.statePath id) cause)) ∧
          run.warnings =
            complaint (layout.configPath id) .config config (ConfigDocument.ofBytes? config)
      | .ok config, .ok state =>
        run.value = .ok {
          id
          pid := (StateDocument.ofBytes? state).bind (·.pid)
          ip := (StateDocument.ofBytes? state).bind (·.ip)
          mountPoint := (ConfigDocument.ofBytes? config).bind (·.mountPoint) } ∧
        run.warnings =
          complaint (layout.configPath id) .config config (ConfigDocument.ofBytes? config) ++
          complaint (layout.statePath id) .state state (StateDocument.ofBytes? state)) ∧
    (∀ bytes, Raw.ofInput? (Utf8.decode bytes) = none →
      ConfigDocument.ofBytes? bytes = none ∧ StateDocument.ofBytes? bytes = none) ∧
    (∀ config members, IsObject ["root"] config members →
      ∃ document, ConfigDocument.ofBytes? config = some document ∧
        ((∀ items, ¬Holds config "root" (.array items)) → ∀ text,
          document.mountPoint = some text ↔ ∃ entries, Holds config "root" (.object entries) ∧
            ShowsAt entries "path" text) ∧
        ∀ config' members' document', IsObject ["root"] config' members' →
          ConfigDocument.ofBytes? config' = some document' →
          (∀ v, Holds config "root" v ↔ Holds config' "root" v) →
            document.mountPoint = document'.mountPoint) ∧
    (∀ state members, IsObject ["pid", "annotations"] state members →
      ∃ document, StateDocument.ofBytes? state = some document ∧
        (∀ text, document.pid = some text ↔ ∃ value, Holds state "pid" value ∧ value.Shows text) ∧
        (∀ text, document.ip = some text ↔ ∃ entries, Holds state "annotations" (.object entries) ∧
          (ShowsAt entries "io.kubernetes.cri-o.IP" text ∨
            (∀ other, ¬ShowsAt entries "io.kubernetes.cri-o.IP" other) ∧
              ShowsAt entries "io.kubernetes.cri-o.IP.0" text)) ∧
        ∀ state' members' document', IsObject ["pid", "annotations"] state' members' →
          StateDocument.ofBytes? state' = some document' →
          ((∀ v, Holds state "pid" v ↔ Holds state' "pid" v) → document.pid = document'.pid) ∧
          ((∀ v, Holds state "annotations" v ↔ Holds state' "annotations" v) →
            document.ip = document'.ip)) := by
  refine ⟨?_, ?_, ?_, ?_⟩
  -- The documents are read one after the other, so the cases follow the two outcomes.
  · intro run
    cases hc : files.read (layout.configPath id) with
    | error cause =>
      have hrun : run = _ := run_correlate_config_error hid hc
      rw [hrun]
      exact ⟨rfl, rfl⟩
    | ok config =>
      cases hs : files.read (layout.statePath id) with
      | error cause =>
        have hrun : run = _ := run_correlate_state_error hid hc hs
        rw [hrun]
        refine ⟨rfl, (Traced.warnings_read_append _ _ _ _).trans ?_⟩
        exact List.append_nil _
      | ok state =>
        have hrun : run = _ := run_correlate_ok hid hc hs
        rw [hrun]
        refine ⟨rfl, (Traced.warnings_read_append _ _ _ _).trans ?_⟩
        rw [Traced.warnings_read_told]
  · intro bytes h
    exact ⟨ConfigDocument.ofBytes?_eq_none h, StateDocument.ofBytes?_eq_none h⟩
  · intro config members h
    obtain ⟨document, hd⟩ := ConfigDocument.exists_ofBytes?_eq_some h
    refine ⟨document, hd, ConfigDocument.mountPoint_eq_some_iff h.text hd, ?_⟩
    intro config' members' document' h' hd'
    exact ConfigDocument.mountPoint_congr h.text h'.text hd hd'
  · intro state members h
    obtain ⟨document, hd⟩ := StateDocument.exists_ofBytes?_eq_some h
    refine ⟨document, hd, StateDocument.pid_eq_some_iff h.text hd,
      StateDocument.ip_eq_some_iff h.text hd, ?_⟩
    intro state' members' document' h' hd'
    exact ⟨StateDocument.pid_congr h.text h'.text hd hd',
      StateDocument.ip_congr h.text h'.text hd hd'⟩

/-- A state without an address under the first key, beside a malformed configuration. -/
theorem correlate_tolerant_second_address :
    let annotations : List (String × Json) :=
      [("io.kubernetes.cri-o.IP", .null), ("io.kubernetes.cri-o.IP.0", .string "10.0.0.2")]
    let state : List (String × Json) :=
      [("pid", .number (.integer 7)), ("annotations", .object annotations)]
    let config := Utf8.encode "\x7b\"root\":"
    let files : FileSystem := ⟨fun path => .ok (if path = "r/a/userdata/config.json" then config
      else Utf8.encode (documentText (.object state)))⟩
    Path.IsPlain "a" ∧ Raw.ofInput? (Utf8.decode config) = none ∧
      IsObject ["pid", "annotations"] (Utf8.encode (documentText (.object state)))
        (spelledMembers state) ∧
      (correlate ⟨"r"⟩ files "a").run.value = .ok ⟨"a", some "7", some "10.0.0.2", none⟩ ∧
      (correlate ⟨"r"⟩ files "a").run.warnings =
        [.malformedDocument "r/a/userdata/config.json" .config config] := by
  intro annotations state config files
  have hid : Path.IsPlain "a" := by decide
  have hc : files.read (configPath ⟨"r"⟩ "a") = .ok config := by decide +kernel
  have hs : files.read (statePath ⟨"r"⟩ "a") =
      .ok (Utf8.encode (documentText (.object state))) := by decide +kernel
  have hfits : Fits depthLimit (.object state) := by
    simp only [state, annotations, Fits, FitsMembers, depthLimit]
    exact ⟨by decide, ⟨7, rfl, by decide⟩, ⟨by decide, trivial, trivial, trivial⟩, trivial⟩
  have hobject := isObject_documentText hfits (by decide) ["pid", "annotations"]
  have hbroken : Raw.ofInput? (Utf8.decode config) = none := by decide +kernel
  obtain ⟨hrun, hmalformed, -, hstate⟩ := correlate_tolerant ⟨"r"⟩ hid files
  obtain ⟨document, hd, hpid, hip, -⟩ := hstate _ _ hobject
  have h7 : document.pid = some "7" := (hpid "7").mpr
    ⟨.number (.integer 7), (holds_documentText hfits).mpr List.mem_cons_self, .number (.integer 7)⟩
  have haddress : document.ip = some "10.0.0.2" := by
    refine (hip "10.0.0.2").mpr ⟨annotations, (holds_documentText hfits).mpr ?_, .inr ⟨?_, ?_⟩⟩
    · exact List.mem_cons_of_mem _ List.mem_cons_self
    · rintro other ⟨value, hv, hshows⟩
      have hnull : lookup "io.kubernetes.cri-o.IP" annotations = some .null := rfl
      rw [hnull] at hv
      cases hv
      cases hshows
    · exact ⟨.string "10.0.0.2", rfl, .string _⟩
  have hpath : configPath ⟨"r"⟩ "a" = "r/a/userdata/config.json" := by decide +kernel
  rw [hc, hs] at hrun
  simp only [(hmalformed config hbroken).1, hd, Option.bind_none, Option.bind_some, h7, haddress,
    hpath] at hrun
  exact ⟨hid, hbroken, hobject, hrun⟩

/-- Without arrays every field has been found under its keys. -/
theorem fields_by_key (layout : Layout) (files : FileSystem) {config state : List UInt8}
    (hid : Path.IsPlain id) (hc : files.read (layout.configPath id) = .ok config)
    (hs : files.read (layout.statePath id) = .ok state) :
    ∃ stored, (layout.correlate files id).run.value = .ok stored ∧
      ((∀ items, Raw.ofInput? (Utf8.decode config) ≠ some (.array items)) →
        (∀ items, ¬Holds config "root" (.array items)) →
        ∀ text, stored.mountPoint = some text → ∃ root path,
          Holds config "root" (.object root) ∧ lookup "path" root = some path ∧
            path.Shows text) ∧
      ((∀ items, Raw.ofInput? (Utf8.decode state) ≠ some (.array items)) →
        (∀ text, stored.pid = some text → ∃ pid, Holds state "pid" pid ∧ pid.Shows text) ∧
        ∀ text, stored.ip = some text → ∃ annotations ip,
          Holds state "annotations" (.object annotations) ∧
          (lookup "io.kubernetes.cri-o.IP" annotations = some ip ∨
            lookup "io.kubernetes.cri-o.IP.0" annotations = some ip) ∧ ip.Shows text) := by
  rw [run_correlate_ok hid hc hs]
  refine ⟨_, rfl, ?_, fun hstate => ⟨?_, ?_⟩⟩
  · intro hconfig hroot text h
    obtain ⟨document, hd, h⟩ := Option.bind_eq_some_iff.mp h
    obtain ⟨_, hread, -⟩ := ConfigDocument.ofBytes?_eq_some_iff.mp hd
    obtain ⟨members, htext⟩ := exists_object_of_read? hread hconfig
    obtain ⟨root, hr, path, hpath, hshows⟩ :=
      (ConfigDocument.mountPoint_eq_some_iff htext hd hroot text).mp h
    exact ⟨root, path, hr, hpath, hshows⟩
  · intro text h
    obtain ⟨document, hd, h⟩ := Option.bind_eq_some_iff.mp h
    obtain ⟨_, _, hread, -⟩ := StateDocument.ofBytes?_eq_some_iff.mp hd
    obtain ⟨members, htext⟩ := exists_object_of_read? hread hstate
    exact (StateDocument.pid_eq_some_iff htext hd text).mp h
  · intro text h
    obtain ⟨document, hd, h⟩ := Option.bind_eq_some_iff.mp h
    obtain ⟨_, _, hread, -⟩ := StateDocument.ofBytes?_eq_some_iff.mp hd
    obtain ⟨members, htext⟩ := exists_object_of_read? hread hstate
    obtain ⟨annotations, ha, ⟨ip, hip, hshows⟩ | ⟨-, ip, hip, hshows⟩⟩ :=
      (StateDocument.ip_eq_some_iff htext hd text).mp h
    · exact ⟨annotations, ip, ha, .inl hip, hshows⟩
    · exact ⟨annotations, ip, ha, .inr hip, hshows⟩

theorem fields_by_key_mountPoint :
    let root : List (String × Json) := [("path", .string "/m")]
    let config := Utf8.encode (documentText (.object [("root", .object root)]))
    let state := Utf8.encode (documentText (.object [("pid", .number (.integer 7))]))
    let files : FileSystem :=
      ⟨fun path => .ok (if path = "r/a/userdata/config.json" then config else state)⟩
    Path.IsPlain "a" ∧
      (correlate ⟨"r"⟩ files "a").run.value = .ok ⟨"a", some "7", none, some "/m"⟩ ∧
      (∃ root path, Holds config "root" (.object root) ∧ lookup "path" root = some path ∧
        path.Shows "/m") ∧
      ∃ pid, Holds state "pid" pid ∧ pid.Shows "7" := by
  intro root config state files
  have hid : Path.IsPlain "a" := by decide
  have hc : files.read (configPath ⟨"r"⟩ "a") = .ok config := by decide +kernel
  have hs : files.read (statePath ⟨"r"⟩ "a") = .ok state := by decide +kernel
  have hroot : Fits depthLimit (.object [("root", .object root)]) := by
    simp only [root, Fits, FitsMembers, depthLimit]
    exact ⟨by decide, ⟨by decide, trivial, trivial⟩, trivial⟩
  have hfits : Fits depthLimit (.object [("pid", .number (.integer 7))]) := by
    simp only [Fits, FitsMembers, depthLimit]
    exact ⟨by decide, ⟨7, rfl, by decide⟩, trivial⟩
  obtain ⟨stored, hstored, hconfig, hstate⟩ := fields_by_key ⟨"r"⟩ files hid hc hs
  have hmount := hconfig (ne_array_documentText hroot) fun items hi => by
    simpa using (holds_documentText hroot).mp hi
  obtain ⟨hpid, -⟩ := hstate (ne_array_documentText hfits)
  have hvalue : (correlate ⟨"r"⟩ files "a").run.value =
      .ok ⟨"a", some "7", none, some "/m"⟩ := by decide +kernel
  rw [hvalue] at hstored
  cases hstored
  exact ⟨hid, hvalue, hmount "/m" rfl, hpid "7" rfl⟩

/-- An array in place of the root section gives a mount point although there is no such path of
keys. -/
theorem array_root_names_mountPoint :
    let config := Utf8.encode (documentText (.object [("root", .array [.string "/m"])]))
    let state := Utf8.encode (documentText (.object []))
    let files : FileSystem :=
      ⟨fun path => .ok (if path = "r/a/userdata/config.json" then config else state)⟩
    Path.IsPlain "a" ∧
      (correlate ⟨"r"⟩ files "a").run.value = .ok ⟨"a", none, none, some "/m"⟩ ∧
      ¬∃ root path, Holds config "root" (.object root) ∧ lookup "path" root = some path ∧
        path.Shows "/m" := by
  intro config state files
  refine ⟨by decide, by decide +kernel, ?_⟩
  rintro ⟨root, path, hroot, -⟩
  have hfits : Fits depthLimit (.object [("root", .array [.string "/m"])]) := by
    simp only [Fits, FitsMembers, FitsItems, depthLimit]
    exact ⟨by decide, ⟨by decide, trivial, trivial⟩, trivial⟩
  simpa using (holds_documentText hfits).mp hroot

end Layout
end ContainerRoster
