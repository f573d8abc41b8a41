import ContainerRoster.Proofs.Text.Bytes
import ContainerRoster.Storage.Store

/-!
# What is wrong with the settings

`load_tolerant`: a configuration file that cannot be read or is malformed is as good as a missing
one, and a fault in the settings that say which ids are mapped is as good as erasing just these
settings.  Each costs one warning.  Faults are independent: any of them may be erased and the others
left, so the proof looks at one part of the maps at a time.
-/

namespace ContainerRoster

/-! ## Faults and their erasure -/

namespace Settings

/-- The fault in the remapped names: the user was granted no ids, or else the group was not. -/
def namesFault? (files : FileSystem) (places : SubIdFiles) (s : DriverSettings) : Option Warning :=
  (remapNames? s).bind fun (user, group) =>
    match SubIds.granted places.users .user user (files.readText places.users),
      SubIds.granted places.groups .group group (files.readText places.groups) with
    | .error cause, _ => some (.noMappings user group cause)
    | .ok _, .error cause => some (.noMappings user group cause)
    | .ok _, .ok _ => none

/-- The fault in a setting with id maps: it does not write any. -/
def mapsFault? (setting spec : String) : Option Warning :=
  if (IdMap.parse? spec).isSome then none else some (.malformedIdMap setting)

/-- The settings without the remapped names, the maps of user ids or the maps of group ids. -/
def erase (names uids gids : Bool) (s : Settings) : Settings :=
  { s with options := { s.options with
      remapUser := if names then "" else s.options.remapUser
      remapGroup := if names then "" else s.options.remapGroup
      remapUids := if uids then "" else s.options.remapUids
      remapGids := if gids then "" else s.options.remapGids } }

/-- Whether the file at a path makes these settings. -/
def Makes (files : FileSystem) (path : String) (s : Settings) : Prop :=
  ∃ text, files.readText path = .ok text ∧ ofText? text = some s

end Settings

/-- Two file systems that grant the same subordinate ids. -/
def SubIdFiles.Agree (places : SubIdFiles) (files files' : FileSystem) : Prop :=
  files.readText places.users = files'.readText places.users ∧
    files.readText places.groups = files'.readText places.groups

/-! ## The remapped names -/

namespace SubIds

variable {files files' : FileSystem} {places : SubIdFiles}

theorem lookUp_eq (files : FileSystem) (path : String) (grantee : Grantee) (name : String) :
    lookUp files path grantee name =
      ⟨[.read path], granted path grantee name (files.readText path)⟩ := rfl

/-- There are mappings once both the user and the group were granted ids. -/
theorem value_mappings (files : FileSystem) (places : SubIdFiles) (user group : String) :
    (mappings files places user group).value =
      match granted places.users .user user (files.readText places.users),
        granted places.groups .group group (files.readText places.groups) with
      | .error cause, _ => .error cause
      | .ok _, .error cause => .error cause
      | .ok users, .ok groups => .ok ⟨mapFrom 0 users, mapFrom 0 groups⟩ := by
  rw [mappings, Traced.value_bind, lookUp_eq]
  cases granted places.users .user user (files.readText places.users) with
  | error cause => rfl
  | ok users =>
    simp only [Traced.value_bind, lookUp_eq]
    cases granted places.groups .group group (files.readText places.groups) <;> rfl

theorem warnings_mappings (files : FileSystem) (places : SubIdFiles) (user group : String) :
    (mappings files places user group).warnings = [] := by
  rw [mappings, Traced.warnings_bind, lookUp_eq]
  cases granted places.users .user user (files.readText places.users) with
  | error cause => rfl
  | ok users =>
    simp only [Traced.warnings_bind, lookUp_eq]
    cases granted places.groups .group group (files.readText places.groups) <;> rfl

theorem mappings_congr (h : places.Agree files files') (user group : String) :
    mappings files places user group = mappings files' places user group := by
  simp only [mappings, lookUp_eq, h.1, h.2]

end SubIds

namespace Settings

variable {files files' : FileSystem} {places : SubIdFiles} {s : DriverSettings}

/-- A fault in the names is told, and then no ids are mapped. -/
theorem subordinateMaps_fault (files : FileSystem) (places : SubIdFiles) (s : DriverSettings) :
    (subordinateMaps files places s).warnings = (namesFault? files places s).toList ∧
      ((namesFault? files places s).isSome →
        (subordinateMaps files places s).value = ⟨[], []⟩) := by
  rw [subordinateMaps, namesFault?]
  cases remapNames? s with
  | none => exact ⟨rfl, fun _ => rfl⟩
  | some names =>
    obtain ⟨user, group⟩ := names
    simp only [Traced.warnings_bind, Traced.value_bind, SubIds.warnings_mappings,
      SubIds.value_mappings, Option.bind_some]
    cases SubIds.granted places.users .user user (files.readText places.users) with
    | error cause => exact ⟨rfl, fun _ => rfl⟩
    | ok users =>
      cases SubIds.granted places.groups .group group (files.readText places.groups) with
      | error cause => exact ⟨rfl, fun _ => rfl⟩
      | ok groups => exact ⟨rfl, fun h => absurd h Bool.false_ne_true⟩

theorem subordinateMaps_congr (h : places.Agree files files') :
    subordinateMaps files places s = subordinateMaps files' places s := by
  simp only [subordinateMaps, SubIds.mappings_congr h]

/-! ## Maps that are written out -/

theorem explicitMaps_fault (setting spec : String) :
    (explicitMaps setting spec).warnings = (mapsFault? setting spec).toList ∧
      ((mapsFault? setting spec).isSome → (explicitMaps setting spec).value = []) := by
  rw [explicitMaps, mapsFault?]
  cases IdMap.parse? spec with
  | none => exact ⟨rfl, fun _ => rfl⟩
  | some maps => exact ⟨rfl, fun h => absurd h Bool.false_ne_true⟩

/-- An empty setting writes no maps. -/
theorem explicitMaps_empty (setting : String) : explicitMaps setting "" = return [] := by
  rfl

/-! ## Erasing what is at fault -/

variable {settings : Settings} {names uids gids : Bool}

theorem remapNames?_erase : remapNames? (settings.erase names uids gids).options =
    if names then none else remapNames? settings.options := by
  cases names <;> rfl

theorem namesFault?_erase (h : places.Agree files files') :
    namesFault? files' places (settings.erase names uids gids).options =
      if names then none else namesFault? files places settings.options := by
  rw [namesFault?, namesFault?, remapNames?_erase, h.1, h.2]
  cases names <;> rfl

theorem value_subordinateMaps_erase (h : places.Agree files files')
    (hfault : names → (namesFault? files places settings.options).isSome) :
    (subordinateMaps files' places (settings.erase names uids gids).options).value =
      (subordinateMaps files places settings.options).value := by
  rw [← subordinateMaps_congr h, subordinateMaps, remapNames?_erase]
  cases names with
  | false => rfl
  | true =>
    rw [(subordinateMaps_fault files places settings.options).2 (hfault rfl)]
    rfl

theorem explicitMaps_erase (setting : String) {spec : String} {erased : Bool}
    (hfault : erased → (mapsFault? setting spec).isSome) :
    (explicitMaps setting (if erased then "" else spec)).value = (explicitMaps setting spec).value ∧
    (explicitMaps setting (if erased then "" else spec)).warnings =
      if erased then [] else (mapsFault? setting spec).toList := by
  cases erased with
  | false => exact ⟨rfl, (explicitMaps_fault setting spec).1⟩
  | true =>
    rw [(explicitMaps_fault setting spec).2 (hfault rfl), if_pos rfl, if_pos rfl,
      explicitMaps_empty]
    exact ⟨rfl, rfl⟩

/-- The faults of the settings in the order in which they are told, without those that are
erased. -/
def faults (files : FileSystem) (places : SubIdFiles) (s : Settings) (names uids gids : Bool) :
    List Warning :=
  (if names then [] else (namesFault? files places s.options).toList) ++
    (if uids then [] else (mapsFault? "remap-uids" s.options.remapUids).toList) ++
    if gids then [] else (mapsFault? "remap-gids" s.options.remapGids).toList

/-- What is erased is at fault. -/
structure AreFaults (files : FileSystem) (places : SubIdFiles) (s : Settings)
    (names uids gids : Bool) : Prop where
  names : names → (namesFault? files places s.options).isSome
  uids : uids → (mapsFault? "remap-uids" s.options.remapUids).isSome
  gids : gids → (mapsFault? "remap-gids" s.options.remapGids).isSome

end Settings

namespace Store

open Settings

variable {files files' : FileSystem} {places : SubIdFiles} {s s' : Settings} {path path' : String}
  {names uids gids : Bool}

/-- Settings that lack some of what is at fault resolve alike. -/
theorem ofSettings_erase (h : places.Agree files files')
    (hfaults : AreFaults files places s names uids gids) :
    (ofSettings files' places (s.erase names uids gids)).value =
        (ofSettings files places s).value ∧
      (ofSettings files' places (s.erase names uids gids)).warnings =
        faults files places s names uids gids := by
  obtain ⟨huids, hwuids⟩ := explicitMaps_erase "remap-uids" hfaults.uids
  obtain ⟨hgids, hwgids⟩ := explicitMaps_erase "remap-gids" hfaults.gids
  have hnames : (Settings.subordinateMaps files' places (s.erase names uids gids).options).value =
      (Settings.subordinateMaps files places s.options).value :=
    value_subordinateMaps_erase h hfaults.names
  constructor
  -- What is not erased is copied, so the options of the driver agree by computation.
  · simp only [ofSettings, Traced.value_bind, Traced.value_pure, hnames]
    simp only [erase, huids, hgids]
    rfl
  · simp only [ofSettings, Traced.warnings_bind, Traced.warnings_pure, List.append_nil,
      (subordinateMaps_fault _ _ _).1, namesFault?_erase h]
    simp only [erase, hwuids, hwgids, faults, List.append_assoc]
    cases names <;> rfl

theorem warnings_ofSettings (files : FileSystem) (places : SubIdFiles) (s : Settings) :
    (ofSettings files places s).warnings = faults files places s false false false := by
  have hnone : AreFaults files places s false false false := ⟨nofun, nofun, nofun⟩
  exact (ofSettings_erase ⟨rfl, rfl⟩ hnone).2

/-! ## From the file to the store -/

theorem ofFile_missing (h : files.readText path = .error .notFound) :
    ofFile files places path = ⟨[.read path], {}⟩ := by
  rw [ofFile, Traced.readText, h]
  rfl

theorem ofFile_unreadable {cause : IoError} (h : files.readText path = .error cause)
    (hne : cause ≠ .notFound) :
    ofFile files places path = ⟨[.read path, .warn (.unreadableSettings path cause)], {}⟩ := by
  rw [ofFile, Traced.readText, h]
  cases cause with
  | notFound => exact absurd rfl hne
  | _ => rfl

theorem ofFile_malformed {text : List Char} (h : files.readText path = .ok text)
    (hs : Settings.ofText? text = none) :
    ofFile files places path = ⟨[.read path, .warn (.malformedSettings path text)], {}⟩ := by
  rw [ofFile, Traced.readText, h]
  show Traced.bind _ _ = _
  simp only [Traced.bind, hs]
  rfl

theorem ofFile_makes (h : Makes files path s) :
    ofFile files places path = ⟨[.read path], ()⟩ >>= fun _ => ofSettings files places s := by
  obtain ⟨text, hread, hs⟩ := h
  rw [ofFile, Traced.readText, hread]
  show Traced.bind _ _ = Traced.bind _ _
  simp only [Traced.bind, hs]

theorem value_load (files : FileSystem) (places : SubIdFiles) (env : Environment) (path : String) :
    (load files places env path).value = withEnvironment env (ofFile files places path).value := rfl

theorem warnings_load (files : FileSystem) (places : SubIdFiles) (env : Environment)
    (path : String) :
    (load files places env path).warnings = (ofFile files places path).warnings := by
  rw [load, Traced.warnings_bind, Traced.warnings_pure, List.append_nil]

/-- Settings that a file makes are resolved before the environment is looked at. -/
theorem load_makes (h : Makes files path s) (places : SubIdFiles) (env : Environment) :
    (load files places env path).value = withEnvironment env (ofSettings files places s).value ∧
      (load files places env path).warnings = faults files places s false false false := by
  rw [value_load, warnings_load, ofFile_makes h, ← warnings_ofSettings]
  exact ⟨rfl, rfl⟩

/-- The parts of a store that no remapping has to do with. -/
theorem ofSettings_congr (files files' : FileSystem) (places : SubIdFiles)
    (h : s.erase true true true = s'.erase true true true) :
    let store := (ofSettings files places s).value
    let store' := (ofSettings files' places s').value
    store.runRoot = store'.runRoot ∧ store.graphRoot = store'.graphRoot ∧
      store.driver = store'.driver ∧ store.driverOptions = store'.driverOptions := by
  have hrun : s.runRoot = s'.runRoot := (congrArg Settings.runRoot h :)
  have hroot : s.graphRoot = s'.graphRoot := (congrArg Settings.graphRoot h :)
  have hdriver : s.driver = s'.driver := (congrArg Settings.driver h :)
  have hoptions : s.driverOptions = s'.driverOptions := (congrArg Settings.driverOptions h :)
  simp only [ofSettings, Traced.value_bind, Traced.value_pure, hrun, hroot, hdriver, hoptions,
    and_self]

theorem load_tolerant (places : SubIdFiles) (env : Environment) :
    (∀ files path files' path', files'.readText path' = .error .notFound →
      (load files' places env path').warnings = [] ∧
      (∀ cause, cause ≠ .notFound → files.readText path = .error cause →
        (load files places env path).value = (load files' places env path').value ∧
          (load files places env path).warnings = [.unreadableSettings path cause]) ∧
      ∀ text, files.readText path = .ok text → Settings.ofText? text = none →
        (load files places env path).value = (load files' places env path').value ∧
          (load files places env path).warnings = [.malformedSettings path text]) ∧
    (∀ files path s files' path' names uids gids,
      Makes files path s → Makes files' path' (s.erase names uids gids) →
      places.Agree files files' → AreFaults files places s names uids gids →
        (load files places env path).value = (load files' places env path').value ∧
        (load files places env path).warnings = faults files places s false false false ∧
        (load files' places env path').warnings = faults files places s names uids gids) ∧
    ∀ files path s files' path' s', Makes files path s → Makes files' path' s' →
      s.erase true true true = s'.erase true true true →
      let store := (load files places env path).value
      let store' := (load files' places env path').value
      store.runRoot = store'.runRoot ∧ store.graphRoot = store'.graphRoot ∧
        store.driver = store'.driver ∧ store.driverOptions = store'.driverOptions := by
  refine ⟨?_, ?_, ?_⟩
  -- A file that makes no settings leaves the defaults to the environment, as a missing one does.
  · intro files path files' path' hmissing
    simp only [value_load, warnings_load, ofFile_missing hmissing]
    refine ⟨rfl, fun cause hne hread => ?_, fun text hread hsettings => ?_⟩
    · rw [ofFile_unreadable hread hne]
      exact ⟨rfl, rfl⟩
    · rw [ofFile_malformed hread hsettings]
      exact ⟨rfl, rfl⟩
  · intro files path s files' path' names uids gids h h' hplaces hfaults
    obtain ⟨hvalue, hwarnings⟩ := load_makes h places env
    obtain ⟨hsame, herased⟩ := ofSettings_erase hplaces hfaults
    obtain ⟨hvalue', -⟩ := load_makes h' places env
    refine ⟨by rw [hvalue, hvalue', hsame], hwarnings, ?_⟩
    rw [warnings_load, ofFile_makes h']
    exact herased
  -- The environment looks at the driver and its options alone.
  · intro files path s files' path' s' h h' hsame
    obtain ⟨hrun, hroot, hdriver, hoptions⟩ := ofSettings_congr files files' places hsame
    rw [(load_makes h places env).1, (load_makes h' places env).1]
    simp only [withEnvironment, hrun, hroot, hdriver, hoptions, and_self]

/-- Two faults are erased and the map that is left is kept; a directory and a broken file are as
good as no file. -/
theorem load_tolerant_two_faults :
    let text := "[storage]\ndriver = \"vfs\"\n[storage.options]\n" ++
      "remap-user = \"u\"\nremap-uids = \"0:1\"\nremap-gids = \"0:5:5\"\n"
    let erased := "[storage]\ndriver = \"vfs\"\n[storage.options]\nremap-gids = \"0:5:5\"\n"
    let files : FileSystem := ⟨fun path =>
      if path = "conf" then .ok (Utf8.encode text)
      else if path = "erased" then .ok (Utf8.encode erased)
      else if path = "broken" then .ok (Utf8.encode "[storage")
      else if path = "subuid" then .ok (Utf8.encode "u:100:10\n")
      else if path = "directory" then .error .isDirectory
      else .error .notFound⟩
    let places : SubIdFiles := ⟨"subuid", "subgid"⟩
    let s : Settings :=
      { driver := "vfs", options := { remapUser := "u", remapUids := "0:1", remapGids := "0:5:5" } }
    let run := fun path => load files places (fun _ => none) path
    (Makes files "conf" s ∧ Makes files "erased" (s.erase true true false) ∧
      AreFaults files places s true true false ∧
      (run "conf").value = (run "erased").value ∧
      (run "conf").warnings =
        [.noMappings "u" "u" (.unreadable "subgid" .notFound), .malformedIdMap "remap-uids"] ∧
      (run "erased").warnings = [] ∧
      (run "conf").value.driver = (run "erased").value.driver) ∧
    (run "directory").value = (run "missing").value ∧
    (run "directory").warnings = [.unreadableSettings "directory" .isDirectory] ∧
    (run "broken").value = (run "missing").value ∧
    (run "broken").warnings = [.malformedSettings "broken" "[storage".toList] ∧
    (run "missing").warnings = [] := by
  intro text erased files places s run
  have h : Makes files "conf" s :=
    ⟨text.toList, Utf8.readText_of_read rfl, by decide +kernel⟩
  have h' : Makes files "erased" (s.erase true true false) :=
    ⟨erased.toList, Utf8.readText_of_read rfl, by decide +kernel⟩
  have hfaults : AreFaults files places s true true false :=
    ⟨fun _ => by decide +kernel, fun _ => by decide +kernel, nofun⟩
  obtain ⟨hfile, herase, hrest⟩ := load_tolerant places fun _ => none
  obtain ⟨hvalue, hwarnings, hwarnings'⟩ :=
    herase files "conf" s files "erased" true true false h h' ⟨rfl, rfl⟩ hfaults
  have hdriver := (hrest files "conf" s files "erased" _ h h' rfl).2.2.1
  have hmissing : files.readText "missing" = .error .notFound := rfl
  have hdirectory : files.readText "directory" = .error .isDirectory := rfl
  have hbroken : files.readText "broken" = .ok "[storage".toList := Utf8.readText_of_read rfl
  obtain ⟨hnone, hunreadable, -⟩ := hfile files "directory" files "missing" hmissing
  obtain ⟨-, -, hmalformed⟩ := hfile files "broken" files "missing" hmissing
  refine ⟨⟨h, h', hfaults, hvalue, hwarnings.trans (by decide +kernel),
    hwarnings'.trans (by decide +kernel), hdriver⟩, ?_⟩
  obtain ⟨hd, hwd⟩ := hunreadable .isDirectory nofun hdirectory
  obtain ⟨hb, hwb⟩ := hmalformed _ hbroken (by decide +kernel)
  exact ⟨hd, hwd, hb, hwb, hnone⟩

end Store
end ContainerRoster
