import ContainerRoster.Storage.Settings

/-!
# Settings and the keys they stand under

`ofText?_eq_some`: each setting that is read from a document is what stands under its own key there,
and nothing when the key is missing.  A section may give its settings in their order instead, which
`under?` knows, so that what is said of keys holds of arrays too.
-/

namespace ContainerRoster
namespace Settings

variable {item : Option Toml.Item} {text : List Char} {doc : Toml.Entries}

/-- What stands under a name in a section, given all names in their order. -/
def under? (names : List String) (item : Option Toml.Item) (name : String) : Option Toml.Item :=
  item.bind fun item => (section? names item).bind fun setting => setting name

/-- What a setting says, nothing when it is missing. -/
def textOf (item : Option Toml.Item) : String := (text? item).getD ""

/-- What a setting with several texts says. -/
def textsOf (item : Option Toml.Item) : List String := (texts? item).getD []

/-- The settings of thin pools by their keys. -/
def thinPoolOf (item : Option Toml.Item) : ThinPool :=
  let setting (name : String) : String := textOf (under? thinPoolNames item name)
  { autoextendPercent := setting "autoextend_percent"
    autoextendThreshold := setting "autoextend_threshold"
    baseSize := setting "basesize"
    blockSize := setting "blocksize"
    directLvmDevice := setting "directlvm_device"
    directLvmDeviceForce := setting "directlvm_device_force"
    fileSystem := setting "fs"
    logLevel := setting "log_level"
    minFreeSpace := setting "min_free_space"
    mkfsArg := setting "mkfsarg"
    mountOptions := setting "mountopt"
    useDeferredDeletion := setting "use_deferred_deletion"
    useDeferredRemoval := setting "use_deferred_removal"
    xfsNospaceMaxRetries := setting "xfs_nospace_max_retries" }

/-- The settings of the driver and of the id maps by their keys. -/
def driverSettingsOf (item : Option Toml.Item) : DriverSettings :=
  let setting (name : String) : String := textOf (under? driverNames item name)
  { imageStores := textsOf (under? driverNames item "additionalimagestores")
    size := setting "size"
    remapUids := setting "remap-uids"
    remapGids := setting "remap-gids"
    remapUser := setting "remap-user"
    remapGroup := setting "remap-group"
    ostreeRepo := setting "ostree_repo"
    skipMountHome := setting "skip_mount_home"
    mountProgram := setting "mount_program"
    ignoreChownErrors := setting "ignore_chown_errors"
    mountOptions := setting "mountopt"
    thinPool := thinPoolOf (under? driverNames item "thinpool") }

/-- All settings by their keys. -/
def settingsOf (item : Option Toml.Item) : Settings where
  driver := textOf (under? settingsNames item "driver")
  runRoot := textOf (under? settingsNames item "runroot")
  graphRoot := textOf (under? settingsNames item "graphroot")
  options := driverSettingsOf (under? settingsNames item "options")

theorem under?_of_section? {names : List String} {i : Toml.Item}
    {setting : String → Option Toml.Item} (h : section? names i = some setting) (name : String) :
    under? names (some i) name = setting name := by
  rw [under?, Option.bind_some, h, Option.bind_some]

/-! ## One setting after the other -/

section Bind

variable {α β : Type} {b : β}

/-- What is read first is known beforehand, so reading on can be looked at without it. -/
theorem bind_eq_some_iff_of_forall {read : Option α} {value : α} {f : α → Option β}
    (h : ∀ a, read = some a → value = a) :
    (read >>= f) = some b ↔ read.isSome ∧ f value = some b := by
  cases read with
  | none => simp
  | some a =>
    rw [h a rfl]
    simp

theorem bind_text?_eq_some_iff {f : String → Option β} :
    (text? item >>= f) = some b ↔ (text? item).isSome ∧ f (textOf item) = some b :=
  bind_eq_some_iff_of_forall fun s h => by rw [textOf, h, Option.getD_some]

theorem bind_texts?_eq_some_iff {f : List String → Option β} :
    (texts? item >>= f) = some b ↔ (texts? item).isSome ∧ f (textsOf item) = some b :=
  bind_eq_some_iff_of_forall fun texts h => by rw [textsOf, h, Option.getD_some]

end Bind

theorem thinPoolOf_eq {pool : ThinPool} (h : thinPool? item = some pool) :
    thinPoolOf item = pool := by
  cases item with
  | none =>
    cases h
    rfl
  | some i =>
    obtain ⟨setting, hs, h⟩ := Option.bind_eq_some_iff.mp h
    simp only [bind_text?_eq_some_iff, Option.pure_def, Option.some.injEq] at h
    simp only [thinPoolOf, under?_of_section? hs, h]

theorem driverSettingsOf_eq {options : DriverSettings} (h : driverSettings? item = some options) :
    driverSettingsOf item = options := by
  cases item with
  | none =>
    cases h
    rfl
  | some i =>
    obtain ⟨setting, hs, h⟩ := Option.bind_eq_some_iff.mp h
    simp only [bind_text?_eq_some_iff, bind_texts?_eq_some_iff,
      bind_eq_some_iff_of_forall fun _ => thinPoolOf_eq, Option.pure_def, Option.some.injEq] at h
    simp only [driverSettingsOf, under?_of_section? hs, h]

theorem settingsOf_eq {s : Settings} (h : ofItem? item = some s) : settingsOf item = s := by
  cases item with
  | none =>
    cases h
    rfl
  | some i =>
    obtain ⟨setting, hs, h⟩ := Option.bind_eq_some_iff.mp h
    simp only [bind_text?_eq_some_iff, bind_eq_some_iff_of_forall fun _ => driverSettingsOf_eq,
      Option.pure_def, Option.some.injEq] at h
    simp only [settingsOf, under?_of_section? hs, h]

/-! ## Keys in a document -/

/-- What stands under a key of the storage section. -/
def storageItem? (doc : Toml.Entries) : String → Option Toml.Item :=
  under? settingsNames (doc.lookup "storage")

/-- What stands under a key of its options. -/
def optionItem? (doc : Toml.Entries) : String → Option Toml.Item :=
  under? driverNames (storageItem? doc "options")

/-- What stands under a key of the thin pools among them. -/
def poolItem? (doc : Toml.Entries) : String → Option Toml.Item :=
  under? thinPoolNames (optionItem? doc "thinpool")

/-- Settings come from a document. -/
theorem exists_document (h : (ofText? text).isSome) : ∃ doc, Toml.ofText? text = some doc :=
  Option.isSome_iff_exists.mp (Option.isSome_of_isSome_bind h)

/-- The settings of a file are those under the keys of its document. -/
theorem ofText?_eq_some {s : Settings} (hdoc : Toml.ofText? text = some doc)
    (h : ofText? text = some s) : settingsOf (doc.lookup "storage") = s := by
  rw [ofText?, hdoc] at h
  exact settingsOf_eq h

end Settings
end ContainerRoster
