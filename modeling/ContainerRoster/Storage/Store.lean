import ContainerRoster.Storage.Mappings
import ContainerRoster.Storage.Settings

/-!
# Resolved storage

Where containers are stored and how: the settings of the configuration file on top of defaults,
with the environment on top of both. Whatever is wrong with a setting costs that setting alone and
is told in a warning.
-/

namespace ContainerRoster

/-- The variables of the environment that are set. -/
abbrev Environment := String → Option String

structure Store where
  runRoot : String := "/run/containers/storage"
  graphRoot : String := "/var/lib/containers/storage"
  driver : String := ""
  driverOptions : List String := []
  uidMap : List IdMap := []
  gidMap : List IdMap := []
  deriving DecidableEq, Repr

namespace Settings

/-- The driver's options in the order in which they are passed on, with empty ones. -/
def assignments (s : Settings) : List (String × String) :=
  let own (name : String) : String := s.driver ++ "." ++ name
  let pool := s.options.thinPool
  [("dm.thinp_autoextend_percent", pool.autoextendPercent),
   ("dm.thinp_autoextend_threshold", pool.autoextendThreshold),
   ("dm.basesize", pool.baseSize),
   ("dm.blocksize", pool.blockSize),
   ("dm.directlvm_device", pool.directLvmDevice),
   ("dm.directlvm_device_force", pool.directLvmDeviceForce),
   ("dm.fs", pool.fileSystem),
   ("dm.libdm_log_level", pool.logLevel),
   ("dm.min_free_space", pool.minFreeSpace),
   ("dm.mkfsarg", pool.mkfsArg),
   (own "mountopt", pool.mountOptions),
   ("dm.use_deferred_deletion", pool.useDeferredDeletion),
   ("dm.use_deferred_removal", pool.useDeferredRemoval),
   ("dm.xfs_nospace_max_retries", pool.xfsNospaceMaxRetries)] ++
  s.options.imageStores.map (fun store => (own "imagestore", store)) ++
  [(own "size", s.options.size),
   (own "ostree_repo", s.options.ostreeRepo),
   (own "skip_mount_home", s.options.skipMountHome),
   (own "mount_program", s.options.mountProgram),
   (own "ignore_chown_errors", s.options.ignoreChownErrors),
   (own "mountopt", s.options.mountOptions)]

/-- The options that have a value, each as key and value. -/
def driverOptions (s : Settings) : List String :=
  (s.assignments.filter fun a => !a.2.isEmpty).map fun a => a.1 ++ "=" ++ a.2

/-- The names whose subordinate ids are mapped: a lone user counts for the group too, and a lone
group for the user. -/
def remapNames? (s : DriverSettings) : Option (String × String) :=
  if s.remapUser.isEmpty then
    if s.remapGroup.isEmpty then none else some (s.remapGroup, s.remapGroup)
  else some (s.remapUser, if s.remapGroup.isEmpty then s.remapUser else s.remapGroup)

/-- The subordinate ids of the remapped names. -/
def subordinateMaps (files : FileSystem) (places : SubIdFiles) (s : DriverSettings) :
    Traced IdMappings :=
  match remapNames? s with
  | none => return ⟨[], []⟩
  | some (user, group) => do
    match ← SubIds.mappings files places user group with
    | .ok maps => return maps
    | .error cause => do
      Traced.warn (.noMappings user group cause)
      return ⟨[], []⟩

/-- The maps that a setting writes, none when it is malformed. -/
def explicitMaps (setting spec : String) : Traced (List IdMap) :=
  match IdMap.parse? spec with
  | some maps => return maps
  | none => do
    Traced.warn (.malformedIdMap setting)
    return []

end Settings

namespace Store

/-- The store that a configuration file describes. -/
def ofSettings (files : FileSystem) (places : SubIdFiles) (s : Settings) : Traced Store := do
  let fallback : Store := {}
  let maps ← Settings.subordinateMaps files places s.options
  let uids ← Settings.explicitMaps "remap-uids" s.options.remapUids
  let gids ← Settings.explicitMaps "remap-gids" s.options.remapGids
  return {
    runRoot := if s.runRoot.isEmpty then fallback.runRoot else s.runRoot
    graphRoot := if s.graphRoot.isEmpty then fallback.graphRoot else s.graphRoot
    driver := s.driver
    driverOptions := s.driverOptions
    uidMap := maps.uids ++ uids
    gidMap := maps.gids ++ gids }

/-- The pieces of a text between commas. -/
def pieces (text : String) : List String := (text.toList.splitOn ',').map String.ofList

/-- The value of a variable, if it is set and not empty. -/
def setVariable? (env : Environment) (name : String) : Option String :=
  (env name).filter fun value => !value.isEmpty

/-- The environment may name another driver and add options. A list of one empty option is empty. -/
def withEnvironment (env : Environment) (store : Store) : Store :=
  let added := ((setVariable? env "STORAGE_OPTS").map pieces).getD []
  let options := store.driverOptions ++ added
  { store with
    driver := (setVariable? env "STORAGE_DRIVER").getD store.driver
    driverOptions := if options == [""] then [] else options }

/-- The store of a configuration file before the environment is looked at. A missing file is as
good as an empty one, and one that cannot be read or is malformed differs only in its warning. -/
def ofFile (files : FileSystem) (places : SubIdFiles) (path : String) : Traced Store := do
  match ← Traced.readText files path with
  | .ok text =>
    match Settings.ofText? text with
    | some settings => ofSettings files places settings
    | none => do
      Traced.warn (.malformedSettings path text)
      return {}
  | .error .notFound => return {}
  | .error cause => do
    Traced.warn (.unreadableSettings path cause)
    return {}

/-- The store that a configuration file and an environment describe. -/
def load (files : FileSystem) (places : SubIdFiles) (env : Environment) (path : String) :
    Traced Store :=
  return withEnvironment env (← ofFile files places path)

end Store

end ContainerRoster
