import ContainerRoster.Proofs.Failing
import ContainerRoster.Proofs.Path.Components
import ContainerRoster.Storage.Layout

/-!
# What storage reads for a container

`correlate` by the id it is asked about.  An id that is no plain name fails before anything is
read.  Any other one is answered from the two documents in its own directory, so a file system
enters only through the outcomes of these two reads, and no two ids share a document.
-/

namespace ContainerRoster
namespace Layout

variable {layout : Layout} {files files' : FileSystem} {id id' : String}

theorem isPlainName_iff : isPlainName id = true ↔ Path.IsPlain id := by
  rw [← Path.components_eq_singleton_iff, isPlainName]
  split
  · next name h =>
    rw [beq_iff_eq, h]
    exact ⟨fun e => by rw [e], fun e => by cases e; rfl⟩
  · next h =>
    exact ⟨fun e => absurd e Bool.false_ne_true, fun e => absurd e (h id)⟩

/-! ## The paths of an id -/

theorem configPath_eq (h : Path.IsPlain id) :
    layout.configPath id = Path.join layout.containersDir (id ++ "/userdata/config.json") := by
  rw [configPath, userdataDir, Path.join_join (by decide) (by decide), Path.join_join h (by decide),
    String.append_assoc]
  rfl

theorem statePath_eq (h : Path.IsPlain id) :
    layout.statePath id = Path.join layout.containersDir (id ++ "/userdata/state.json") := by
  rw [statePath, userdataDir, Path.join_join (by decide) (by decide), Path.join_join h (by decide),
    String.append_assoc]
  rfl

theorem components_configPath (h : Path.IsPlain id) :
    Path.components (layout.configPath id) = Path.components layout.containersDir ++
      [.normal id, .normal "userdata", .normal "config.json"] := by
  rw [configPath, userdataDir, Path.components_join (by decide), Path.components_join (by decide),
    Path.components_join h]
  simp

theorem components_statePath (h : Path.IsPlain id) :
    Path.components (layout.statePath id) = Path.components layout.containersDir ++
      [.normal id, .normal "userdata", .normal "state.json"] := by
  rw [statePath, userdataDir, Path.components_join (by decide), Path.components_join (by decide),
    Path.components_join h]
  simp

/-- No document of one id is, by whatever text, a document of another one. -/
theorem components_ne_of_ne (h : Path.IsPlain id) (h' : Path.IsPlain id') (hne : id ≠ id')
    {p q : String} (hp : p ∈ [layout.configPath id, layout.statePath id])
    (hq : q ∈ [layout.configPath id', layout.statePath id']) :
    Path.components p ≠ Path.components q := by
  have through : ∀ {name path : String}, Path.IsPlain name →
      path ∈ [layout.configPath name, layout.statePath name] → ∃ document,
        Path.components path = Path.components layout.containersDir ++
          [.normal name, .normal "userdata", .normal document] := by
    intro name path hn hm
    simp only [List.mem_cons, List.not_mem_nil, or_false] at hm
    rcases hm with rfl | rfl
    · exact ⟨_, components_configPath hn⟩
    · exact ⟨_, components_statePath hn⟩
  obtain ⟨document, hd⟩ := through h hp
  obtain ⟨document', hd'⟩ := through h' hq
  rw [hd, hd']
  intro e
  have he := List.append_cancel_left e
  simp only [List.cons.injEq, Path.Component.normal.injEq] at he
  exact hne he.1

/-! ## One document -/

/-- A document is decided by the outcome of reading its path. -/
theorem run_readDocument {α : Type} (path : String) (kind : DocumentKind)
    (nothing : α) (parse : List UInt8 → Option α) :
    (readDocument files path kind nothing parse).run =
      match files.read path with
      | .error cause => ⟨[.read path], .error (.storage (.unreadable path cause))⟩
      | .ok bytes =>
        match parse bytes with
        | some document => ⟨[.read path], .ok document⟩
        | none => ⟨[.read path, .warn (.malformedDocument path kind bytes)], .ok nothing⟩ := by
  rw [readDocument, Traced.run_lift_bind]
  simp only [Traced.read]
  cases files.read path with
  | error cause => rfl
  | ok bytes =>
    cases h : parse bytes with
    | none =>
      simp only [h, Traced.run_lift_bind, Traced.run_pure]
      rfl
    | some document =>
      simp only [h, Traced.run_pure]
      rfl

@[simp] theorem reads_readDocument {α : Type} (path : String) (kind : DocumentKind)
    (nothing : α) (parse : List UInt8 → Option α) :
    (readDocument files path kind nothing parse).run.reads = [path] := by
  rw [run_readDocument]
  cases files.read path with
  | error cause => rfl
  | ok bytes => cases h : parse bytes <;> simp [h, Traced.reads]

@[simp] theorem requests_readDocument {α : Type} (path : String) (kind : DocumentKind)
    (nothing : α) (parse : List UInt8 → Option α) :
    (readDocument files path kind nothing parse).run.requests = [] := by
  rw [run_readDocument]
  cases files.read path with
  | error cause => rfl
  | ok bytes => cases h : parse bytes <;> simp [h, Traced.requests]

/-- What is told of a document that was read: that it is malformed, if it is. -/
def complaint {α : Type} (path : String) (kind : DocumentKind) (bytes : List UInt8)
    (document : Option α) : List Warning :=
  if document.isSome then [] else [.malformedDocument path kind bytes]

theorem run_readDocument_ok {α : Type} {path : String} {bytes : List UInt8}
    (h : files.read path = .ok bytes) (kind : DocumentKind) (nothing : α)
    (parse : List UInt8 → Option α) :
    (readDocument files path kind nothing parse).run =
      ⟨.read path :: (complaint path kind bytes (parse bytes)).map .warn,
        .ok ((parse bytes).getD nothing)⟩ := by
  rw [run_readDocument, h]
  cases hp : parse bytes <;> simp [hp, complaint]

theorem run_readDocument_error {α : Type} {path : String} {cause : IoError}
    (h : files.read path = .error cause) (kind : DocumentKind) (nothing : α)
    (parse : List UInt8 → Option α) :
    (readDocument files path kind nothing parse).run =
      ⟨[.read path], .error (.storage (.unreadable path cause))⟩ := by
  rw [run_readDocument, h]

theorem readDocument_congr {path : String} (h : files.read path = files'.read path) {α : Type}
    (kind : DocumentKind) (nothing : α) (parse : List UInt8 → Option α) :
    readDocument files path kind nothing parse = readDocument files' path kind nothing parse := by
  show (readDocument files path kind nothing parse).run =
    (readDocument files' path kind nothing parse).run
  rw [run_readDocument, run_readDocument, h]

/-! ## The documents of an id -/

/-- What is asked of storage about an id that is no plain name does not reach the files. -/
theorem run_correlate_of_not_isPlain (h : ¬Path.IsPlain id) (files : FileSystem) :
    (layout.correlate files id).run =
      ⟨[], .error (.storage (.badId id layout.containersDir))⟩ := by
  rw [correlate, if_neg (mt isPlainName_iff.mp h)]
  rfl

theorem correlate_of_isPlain (h : Path.IsPlain id) (files : FileSystem) :
    layout.correlate files id = do
      let config ← readDocument files (layout.configPath id) .config {} ConfigDocument.ofBytes?
      let state ← readDocument files (layout.statePath id) .state {} StateDocument.ofBytes?
      return { id, pid := state.pid, ip := state.ip, mountPoint := config.mountPoint } := by
  rw [correlate, if_pos (isPlainName_iff.mpr h)]

/-- A plain name whose first document cannot be read. -/
theorem run_correlate_config_error (h : Path.IsPlain id) {cause : IoError}
    (hc : files.read (layout.configPath id) = .error cause) :
    (layout.correlate files id).run = ⟨[.read (layout.configPath id)],
      .error (.storage (.unreadable (layout.configPath id) cause))⟩ := by
  rw [correlate_of_isPlain h]
  have hrun := run_readDocument_error hc .config ({} : ConfigDocument) ConfigDocument.ofBytes?
  rw [Traced.run_bind_error (congrArg Traced.value hrun), hrun]

/-- A plain name of whose documents only the first can be read. -/
theorem run_correlate_state_error (h : Path.IsPlain id) {config : List UInt8} {cause : IoError}
    (hc : files.read (layout.configPath id) = .ok config)
    (hs : files.read (layout.statePath id) = .error cause) :
    (layout.correlate files id).run =
      ⟨.read (layout.configPath id) ::
          (complaint (layout.configPath id) .config config
            (ConfigDocument.ofBytes? config)).map .warn ++
        [.read (layout.statePath id)],
        .error (.storage (.unreadable (layout.statePath id) cause))⟩ := by
  rw [correlate_of_isPlain h]
  have hconfig := run_readDocument_ok hc .config ({} : ConfigDocument) ConfigDocument.ofBytes?
  have hstate := run_readDocument_error hs .state ({} : StateDocument) StateDocument.ofBytes?
  rw [Traced.run_bind_ok (congrArg Traced.value hconfig), hconfig,
    Traced.run_bind_error (congrArg Traced.value hstate), hstate]

/-- A plain name both of whose documents can be read. -/
theorem run_correlate_ok (h : Path.IsPlain id) {config state : List UInt8}
    (hc : files.read (layout.configPath id) = .ok config)
    (hs : files.read (layout.statePath id) = .ok state) :
    (layout.correlate files id).run =
      ⟨.read (layout.configPath id) ::
          (complaint (layout.configPath id) .config config
            (ConfigDocument.ofBytes? config)).map .warn ++
        .read (layout.statePath id) ::
          (complaint (layout.statePath id) .state state (StateDocument.ofBytes? state)).map .warn,
        .ok {
          id
          pid := (StateDocument.ofBytes? state).bind (·.pid)
          ip := (StateDocument.ofBytes? state).bind (·.ip)
          mountPoint := (ConfigDocument.ofBytes? config).bind (·.mountPoint) }⟩ := by
  rw [correlate_of_isPlain h]
  have hconfig := run_readDocument_ok hc .config ({} : ConfigDocument) ConfigDocument.ofBytes?
  have hstate := run_readDocument_ok hs .state ({} : StateDocument) StateDocument.ofBytes?
  rw [Traced.run_bind_ok (congrArg Traced.value hconfig), hconfig,
    Traced.run_bind_ok (congrArg Traced.value hstate), hstate, Traced.run_pure, List.append_nil]
  cases ConfigDocument.ofBytes? config <;> cases StateDocument.ofBytes? state <;> rfl

/-- A plain name is answered once both of its documents can be read. -/
theorem correlate_ok_of_readable (h : Path.IsPlain id) {config state : List UInt8}
    (hc : files.read (layout.configPath id) = .ok config)
    (hs : files.read (layout.statePath id) = .ok state) :
    ∃ stored, stored.id = id ∧ (layout.correlate files id).run.value = .ok stored := by
  rw [run_correlate_ok h hc hs]
  exact ⟨_, rfl, rfl⟩

/-- A plain name fails only on a document of its own that cannot be read. -/
theorem correlate_error_of_isPlain (h : Path.IsPlain id) {failure : Failure}
    (he : (layout.correlate files id).run.value = .error failure) :
    ∃ path ∈ [layout.configPath id, layout.statePath id], ∃ cause,
      files.read path = .error cause ∧ failure = .storage (.unreadable path cause) := by
  cases hc : files.read (layout.configPath id) with
  | error cause =>
    rw [run_correlate_config_error h hc] at he
    cases he
    exact ⟨_, List.mem_cons_self, cause, hc, rfl⟩
  | ok config =>
    cases hs : files.read (layout.statePath id) with
    | error cause =>
      rw [run_correlate_state_error h hc hs] at he
      cases he
      exact ⟨_, List.mem_cons_of_mem _ List.mem_cons_self, cause, hs, rfl⟩
    | ok state =>
      rw [run_correlate_ok h hc hs] at he
      cases he

/-- Whenever storage fails on a container, it says so as storage. -/
theorem correlate_error {failure : Failure}
    (he : (layout.correlate files id).run.value = .error failure) :
    ∃ cause, failure = .storage cause := by
  by_cases h : Path.IsPlain id
  · obtain ⟨path, -, cause, -, rfl⟩ := correlate_error_of_isPlain h he
    exact ⟨_, rfl⟩
  · rw [run_correlate_of_not_isPlain h] at he
    cases he
    exact ⟨_, rfl⟩

/-- Nothing but the two documents of an id is ever read for it. -/
theorem reads_correlate_subset (files : FileSystem) (id : String) :
    (layout.correlate files id).run.reads ⊆ [layout.configPath id, layout.statePath id] := by
  by_cases h : Path.IsPlain id
  · rw [correlate_of_isPlain h]
    cases hc : (readDocument files (layout.configPath id) .config {}
      ConfigDocument.ofBytes?).run.value with
    | error e =>
      rw [Traced.reads_run_bind_error hc, reads_readDocument]
      exact List.cons_subset_cons _ (List.nil_subset _)
    | ok config =>
      rw [Traced.reads_run_bind_ok hc, reads_readDocument]
      cases hs : (readDocument files (layout.statePath id) .state {}
        StateDocument.ofBytes?).run.value with
      | error e =>
        rw [Traced.reads_run_bind_error hs, reads_readDocument]
        exact List.Subset.refl _
      | ok state =>
        rw [Traced.reads_run_bind_ok hs, reads_readDocument]
        exact List.Subset.refl _
  · rw [run_correlate_of_not_isPlain h]
    exact List.nil_subset _

/-- Storage is looked at without the runtime. -/
theorem requests_correlate (files : FileSystem) (id : String) :
    (layout.correlate files id).run.requests = [] := by
  by_cases h : Path.IsPlain id
  · rw [correlate_of_isPlain h]
    refine Traced.requests_run_bind_eq_nil (requests_readDocument _ _ _ _) fun config => ?_
    refine Traced.requests_run_bind_eq_nil (requests_readDocument _ _ _ _) fun state => ?_
    rfl
  · rw [run_correlate_of_not_isPlain h]
    rfl

theorem correlate_congr
    (h : Path.IsPlain id → files.read (layout.configPath id) = files'.read (layout.configPath id) ∧
      files.read (layout.statePath id) = files'.read (layout.statePath id)) :
    layout.correlate files id = layout.correlate files' id := by
  by_cases hp : Path.IsPlain id
  · rw [correlate_of_isPlain hp, correlate_of_isPlain hp, readDocument_congr (h hp).1,
      readDocument_congr (h hp).2]
  · show (layout.correlate files id).run = (layout.correlate files' id).run
    rw [run_correlate_of_not_isPlain hp, run_correlate_of_not_isPlain hp]

end Layout
end ContainerRoster
