import ContainerRoster.Proofs.Path.Components
import ContainerRoster.Proofs.Storage.Faults
import ContainerRoster.Proofs.Storage.Keys

/-!
# The options of the driver

`options_in_order`: which options a configuration file gives the driver, from which keys and in
which order, and what the environment adds to them.  An option of the file has an equals sign in
it, and a text that is not empty is not cut into one empty piece.  So the list is never the single
empty option that would be cleared, and what the environment adds stands behind all that there was.
-/

namespace ContainerRoster
namespace Store

open Settings

variable {files : FileSystem} {places : SubIdFiles} {env : Environment} {path : String}
  {store : Store}

/-- Whether options are the pieces of a text between its commas; an empty text has none. -/
def ArePieces (text : String) (options : List String) : Prop :=
  String.intercalate "," options = text ∧ (∀ piece ∈ options, ',' ∉ piece.toList) ∧
    (options = [] ↔ text = "")

/-! ## What the environment adds -/

/-- The options of the environment. -/
def added (env : Environment) : List String :=
  ((setVariable? env "STORAGE_OPTS").map pieces).getD []

theorem intercalate_pieces (text : String) : String.intercalate "," (pieces text) = text := by
  apply String.toList_injective
  have hcomma : ",".toList = [','] := by decide
  rw [String.toList_intercalate, pieces, List.map_map, hcomma]
  simp only [Function.comp_def, String.toList_ofList, List.map_id']
  exact List.intercalate_splitOn ','

theorem comma_notMem_pieces (text : String) : ∀ piece ∈ pieces text, ',' ∉ piece.toList := by
  unfold pieces
  simp only [List.forall_mem_map, String.toList_ofList]
  exact Path.notMem_of_mem_splitOn ',' text.toList

theorem pieces_ne_nil (text : String) : pieces text ≠ [] := by
  unfold pieces
  simp only [ne_eq, List.map_eq_nil_iff]
  exact List.splitOn_ne_nil _ _

/-- A variable that is empty counts as one that is not set. -/
theorem setVariable?_eq (env : Environment) (name : String) :
    setVariable? env name =
      if (env name).getD "" = "" then none else some ((env name).getD "") := by
  rw [setVariable?]
  cases env name with
  | none => rfl
  | some value =>
    rw [Option.filter_some, Option.getD_some]
    by_cases h : value = "" <;> simp [h]

theorem arePieces_added (env : Environment) :
    ArePieces ((env "STORAGE_OPTS").getD "") (added env) := by
  rw [added, setVariable?_eq]
  by_cases h : (env "STORAGE_OPTS").getD "" = ""
  · rw [if_pos h, h]
    exact ⟨rfl, nofun, by simp⟩
  · rw [if_neg h, Option.map_some, Option.getD_some]
    refine ⟨intercalate_pieces _, comma_notMem_pieces _, ?_⟩
    simp only [pieces_ne_nil, h]

theorem ArePieces.ne_singleton {text : String} {options : List String}
    (h : ArePieces text options) : options ≠ [""] := by
  rintro rfl
  obtain ⟨htext, -, hnil⟩ := h
  have hempty : text = "" := by
    rw [← htext]
    rfl
  exact absurd (hnil.mpr hempty) (List.cons_ne_nil _ _)

/-- Options that say something are kept, and those of the environment stand behind them. -/
theorem driverOptions_withEnvironment (h : ∀ option ∈ store.driverOptions, option ≠ "")
    (env : Environment) :
    (withEnvironment env store).driverOptions = store.driverOptions ++ added env := by
  have hkept : store.driverOptions ++ added env ≠ [""] := by
    intro hone
    rcases List.append_eq_singleton_iff.mp hone with ⟨-, hadded⟩ | ⟨hstore, -⟩
    · exact (arePieces_added env).ne_singleton hadded
    · rw [hstore] at h
      exact h "" List.mem_cons_self rfl
  show (if (store.driverOptions ++ added env) == [""] then [] else _) = _
  rw [if_neg (by simpa using hkept)]
  rfl

theorem driver_withEnvironment (env : Environment) (store : Store) :
    (withEnvironment env store).driver = if (env "STORAGE_DRIVER").getD "" = "" then store.driver
      else (env "STORAGE_DRIVER").getD "" := by
  rw [withEnvironment, setVariable?_eq]
  dsimp only
  split <;> rfl

/-! ## What the file gives -/

theorem driverOptions_ne_empty (s : Settings) : ∀ option ∈ s.driverOptions, option ≠ "" := by
  unfold Settings.driverOptions
  simp only [List.forall_mem_map]
  intro a _ hempty
  have hlist := congrArg String.toList hempty
  simp [String.toList_append] at hlist

theorem ofFile_driverOptions_ne_empty (files : FileSystem) (places : SubIdFiles) (path : String) :
    ∀ option ∈ (ofFile files places path).value.driverOptions, option ≠ "" := by
  cases hread : files.readText path with
  | ok text =>
    cases hs : Settings.ofText? text with
    | some s =>
      rw [ofFile_makes ⟨text, hread, hs⟩]
      exact driverOptions_ne_empty s
    | none =>
      rw [ofFile_malformed hread hs]
      exact nofun
  | error cause =>
    by_cases hmissing : cause = .notFound
    · rw [ofFile_missing (hmissing ▸ hread)]
      exact nofun
    · rw [ofFile_unreadable hread hmissing]
      exact nofun

theorem driverOptions_load (files : FileSystem) (places : SubIdFiles) (env : Environment)
    (path : String) : (load files places env path).value.driverOptions =
      (ofFile files places path).value.driverOptions ++ added env := by
  rw [value_load]
  exact driverOptions_withEnvironment (ofFile_driverOptions_ne_empty files places path) env

theorem options_in_order (files : FileSystem) (places : SubIdFiles) (env : Environment)
    (path : String) :
    (∀ text doc, files.readText path = .ok text → Toml.ofText? text = some doc →
      (Settings.ofText? text).isSome →
      let driver := textOf (storageItem? doc "driver")
      let option := fun name => textOf (optionItem? doc name)
      let pool := fun name => textOf (poolItem? doc name)
      let assigned : List (String × String) :=
        [("dm.thinp_autoextend_percent", pool "autoextend_percent"),
         ("dm.thinp_autoextend_threshold", pool "autoextend_threshold"),
         ("dm.basesize", pool "basesize"),
         ("dm.blocksize", pool "blocksize"),
         ("dm.directlvm_device", pool "directlvm_device"),
         ("dm.directlvm_device_force", pool "directlvm_device_force"),
         ("dm.fs", pool "fs"),
         ("dm.libdm_log_level", pool "log_level"),
         ("dm.min_free_space", pool "min_free_space"),
         ("dm.mkfsarg", pool "mkfsarg"),
         (driver ++ ".mountopt", pool "mountopt"),
         ("dm.use_deferred_deletion", pool "use_deferred_deletion"),
         ("dm.use_deferred_removal", pool "use_deferred_removal"),
         ("dm.xfs_nospace_max_retries", pool "xfs_nospace_max_retries")] ++
        (textsOf (optionItem? doc "additionalimagestores")).map
          (fun store => (driver ++ ".imagestore", store)) ++
        [(driver ++ ".size", option "size"),
         (driver ++ ".ostree_repo", option "ostree_repo"),
         (driver ++ ".skip_mount_home", option "skip_mount_home"),
         (driver ++ ".mount_program", option "mount_program"),
         (driver ++ ".ignore_chown_errors", option "ignore_chown_errors"),
         (driver ++ ".mountopt", option "mountopt")]
      let store := (load files places env path).value
      (∃ added, ArePieces ((env "STORAGE_OPTS").getD "") added ∧ store.driverOptions =
        (assigned.filter fun a => a.2 ≠ "").map (fun a => a.1 ++ "=" ++ a.2) ++ added) ∧
      store.driver =
        if (env "STORAGE_DRIVER").getD "" = "" then driver else (env "STORAGE_DRIVER").getD "") ∧
    (let store := (load files places env path).value
      let bare := (load files places (fun _ => none) path).value
      store.runRoot = bare.runRoot ∧ store.graphRoot = bare.graphRoot ∧
      store.uidMap = bare.uidMap ∧ store.gidMap = bare.gidMap ∧
      store.driver = (if (env "STORAGE_DRIVER").getD "" = "" then bare.driver
        else (env "STORAGE_DRIVER").getD "") ∧
      ∃ added, ArePieces ((env "STORAGE_OPTS").getD "") added ∧
        store.driverOptions = bare.driverOptions ++ added) ∧
    (load files places env path).events = (load files places (fun _ => none) path).events ∧
    ∀ other : Environment, (other "STORAGE_OPTS").getD "" = "" →
      (load files places other path).value.driverOptions <+:
        (load files places env path).value.driverOptions := by
  refine ⟨?_, ?_, rfl, ?_⟩
  · intro text doc hread hdoc hsome driver option pool assigned store
    obtain ⟨s, hs⟩ := Option.isSome_iff_exists.mp hsome
    have hfile : (ofFile files places path).value = (ofSettings files places s).value := by
      rw [ofFile_makes ⟨text, hread, hs⟩]
      rfl
    obtain rfl : settingsOf (doc.lookup "storage") = s := ofText?_eq_some hdoc hs
    have hassigned : (settingsOf (doc.lookup "storage")).assignments = assigned := by
      simp only [Settings.assignments, String.append_assoc, String.reduceAppend]
      rfl
    refine ⟨⟨added env, arePieces_added env, ?_⟩, ?_⟩
    · show (load files places env path).value.driverOptions = _
      rw [driverOptions_load, hfile, ← hassigned]
      show (List.map _ (List.filter _ _)) ++ _ = _
      simp only [ne_eq, decide_not, ← String.isEmpty_iff, Bool.decide_eq_true]
    · show (withEnvironment env (ofFile files places path).value).driver = _
      rw [driver_withEnvironment, hfile]
      rfl
  · intro store bare
    have hbare : bare.driverOptions = (ofFile files places path).value.driverOptions := by
      rw [driverOptions_load]
      exact List.append_nil _
    refine ⟨rfl, rfl, rfl, rfl, driver_withEnvironment env _, added env, arePieces_added env, ?_⟩
    rw [hbare]
    exact driverOptions_load files places env path
  · intro other hempty
    have hnone : added other = [] := (arePieces_added other).2.2.mpr hempty
    rw [driverOptions_load, driverOptions_load, hnone, List.append_nil]
    exact List.prefix_append _ _

/-- Both mount options come under one key, that of the pool first.  An empty setting and an empty
store are left out, while an empty piece of the environment is not. -/
theorem options_in_order_with_environment :
    let text := "[storage]\ndriver = \"d\"\n[storage.options]\nsize = \"\"\nmountopt = \"rw\"\n" ++
      "additionalimagestores = [\"/a\", \"\"]\n[storage.options.thinpool]\nlog_level = \"7\"\n" ++
      "mountopt = \"ro\"\n"
    let files : FileSystem := ⟨fun _ => .ok (Utf8.encode text)⟩
    let env : Environment := fun name =>
      if name = "STORAGE_DRIVER" then some "vfs"
      else if name = "STORAGE_OPTS" then some "vfs.foo=bar,," else none
    let places : SubIdFiles := ⟨"subuid", "subgid"⟩
    let store := (load files places env "conf").value
    let bare := (load files places (fun _ => none) "conf").value
    (Settings.ofText? text.toList).isSome ∧
      (∃ added, ArePieces "vfs.foo=bar,," added ∧ store.driverOptions =
        ["dm.libdm_log_level=7", "d.mountopt=ro", "d.imagestore=/a", "d.mountopt=rw"] ++ added) ∧
      store.driver = "vfs" ∧ bare.driverOptions <+: store.driverOptions := by
  intro text files env places store bare
  have hread : files.readText "conf" = .ok text.toList := Utf8.readText_of_read rfl
  have hsettings : (Settings.ofText? text.toList).isSome := by decide +kernel
  have hdoc : Toml.ofText? text.toList = some ((Toml.ofText? text.toList).getD []) := by
    obtain ⟨doc, hdoc⟩ := exists_document hsettings
    rw [hdoc, Option.getD_some]
  obtain ⟨hfile, -, -, hprefix⟩ := options_in_order files places env "conf"
  obtain ⟨⟨added, hadded, hoptions⟩, hdriver⟩ :=
    hfile text.toList _ hread hdoc hsettings
  refine ⟨hsettings, ⟨added, hadded, hoptions.trans (congrArg (· ++ added) ?_)⟩, hdriver,
    hprefix (fun _ => none) rfl⟩
  decide +kernel

end Store
end ContainerRoster
