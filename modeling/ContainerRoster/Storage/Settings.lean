import ContainerRoster.Toml.Document

/-!
# Storage settings

The `storage` section of the configuration file. A section is a table with the settings as keys,
or an array that gives them in their order; what is missing is empty, and other keys are ignored.
A date in place of a section is one without settings. A setting of the wrong type makes the whole
file malformed.
-/

namespace ContainerRoster

/-- The settings of thin pools. -/
structure ThinPool where
  autoextendPercent : String := ""
  autoextendThreshold : String := ""
  baseSize : String := ""
  blockSize : String := ""
  directLvmDevice : String := ""
  directLvmDeviceForce : String := ""
  fileSystem : String := ""
  logLevel : String := ""
  minFreeSpace : String := ""
  mkfsArg : String := ""
  mountOptions : String := ""
  useDeferredDeletion : String := ""
  useDeferredRemoval : String := ""
  xfsNospaceMaxRetries : String := ""
  deriving DecidableEq, Repr

/-- The settings of the storage driver and of the id maps. -/
structure DriverSettings where
  imageStores : List String := []
  size : String := ""
  remapUids : String := ""
  remapGids : String := ""
  remapUser : String := ""
  remapGroup : String := ""
  ostreeRepo : String := ""
  skipMountHome : String := ""
  mountProgram : String := ""
  ignoreChownErrors : String := ""
  mountOptions : String := ""
  thinPool : ThinPool := {}
  deriving DecidableEq, Repr

structure Settings where
  driver : String := ""
  runRoot : String := ""
  graphRoot : String := ""
  options : DriverSettings := {}
  deriving DecidableEq, Repr

namespace Settings

/-- The settings of a section by name, given all names in their order. -/
def section? (names : List String) : Toml.Item → Option (String → Option Toml.Item)
  | .table _ entries => some fun name => entries.lookup name
  | .array items => some fun name => (names.zip items).lookup name
  | .tables elements =>
    some fun name => (names.zip (elements.map (Toml.Item.table .header))).lookup name
  | .date => some fun _ => none
  | .string _ | .scalar => none

/-- A string, empty when missing. -/
def text? : Option Toml.Item → Option String
  | none => some ""
  | some (.string s) => some s
  | some _ => none

/-- A list of strings, empty when missing. -/
def texts? : Option Toml.Item → Option (List String)
  | none => some []
  | some (.array items) => items.mapM fun item => text? (some item)
  | some _ => none

def thinPoolNames : List String :=
  ["autoextend_percent", "autoextend_threshold", "basesize", "blocksize", "directlvm_device",
   "directlvm_device_force", "fs", "log_level", "min_free_space", "mkfsarg", "mountopt",
   "use_deferred_deletion", "use_deferred_removal", "xfs_nospace_max_retries"]

def thinPool? : Option Toml.Item → Option ThinPool
  | none => some {}
  | some item => do
    let setting ← section? thinPoolNames item
    return {
      autoextendPercent := ← text? (setting "autoextend_percent")
      autoextendThreshold := ← text? (setting "autoextend_threshold")
      baseSize := ← text? (setting "basesize")
      blockSize := ← text? (setting "blocksize")
      directLvmDevice := ← text? (setting "directlvm_device")
      directLvmDeviceForce := ← text? (setting "directlvm_device_force")
      fileSystem := ← text? (setting "fs")
      logLevel := ← text? (setting "log_level")
      minFreeSpace := ← text? (setting "min_free_space")
      mkfsArg := ← text? (setting "mkfsarg")
      mountOptions := ← text? (setting "mountopt")
      useDeferredDeletion := ← text? (setting "use_deferred_deletion")
      useDeferredRemoval := ← text? (setting "use_deferred_removal")
      xfsNospaceMaxRetries := ← text? (setting "xfs_nospace_max_retries") }

def driverNames : List String :=
  ["additionalimagestores", "size", "remap-uids", "remap-gids", "remap-user", "remap-group",
   "ostree_repo", "skip_mount_home", "mount_program", "ignore_chown_errors", "mountopt", "thinpool"]

def driverSettings? : Option Toml.Item → Option DriverSettings
  | none => some {}
  | some item => do
    let setting ← section? driverNames item
    return {
      imageStores := ← texts? (setting "additionalimagestores")
      size := ← text? (setting "size")
      remapUids := ← text? (setting "remap-uids")
      remapGids := ← text? (setting "remap-gids")
      remapUser := ← text? (setting "remap-user")
      remapGroup := ← text? (setting "remap-group")
      ostreeRepo := ← text? (setting "ostree_repo")
      skipMountHome := ← text? (setting "skip_mount_home")
      mountProgram := ← text? (setting "mount_program")
      ignoreChownErrors := ← text? (setting "ignore_chown_errors")
      mountOptions := ← text? (setting "mountopt")
      thinPool := ← thinPool? (setting "thinpool") }

def settingsNames : List String := ["driver", "runroot", "graphroot", "options"]

def ofItem? : Option Toml.Item → Option Settings
  | none => some {}
  | some item => do
    let setting ← section? settingsNames item
    return {
      driver := ← text? (setting "driver")
      runRoot := ← text? (setting "runroot")
      graphRoot := ← text? (setting "graphroot")
      options := ← driverSettings? (setting "options") }

/-- The settings that a configuration file makes, unless it is malformed. -/
def ofText? (text : List Char) : Option Settings := do
  ofItem? ((← Toml.ofText? text).lookup "storage")

end Settings

end ContainerRoster
