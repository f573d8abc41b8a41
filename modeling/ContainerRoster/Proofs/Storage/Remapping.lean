import ContainerRoster.Proofs.Storage.Faults
import ContainerRoster.Proofs.Storage.Keys

/-!
# Which ids are mapped

`maps_resolved`: the maps of a store are those of the remapped names followed by those that the
settings write out, and whatever of this is not to be had is missing alone.  A name counts for a
user and for a group unless the other one is named too, so where it stands makes no difference.
-/

namespace ContainerRoster
namespace Settings

variable {files files' : FileSystem} {places : SubIdFiles} {s s' : DriverSettings} {name : String}

/-- A name, or the other one if it is empty. -/
def nameOr (name other : String) : String := if name = "" then other else name

/-- The maps of a user and a group, an empty one standing for the other: none if both are empty,
and none if they are not granted any. -/
def mapsOf (files : FileSystem) (places : SubIdFiles) (user group : String) : IdMappings :=
  if user = "" ∧ group = "" then ⟨[], []⟩
  else match (SubIds.mappings files places (nameOr user group) (nameOr group user)).value with
    | .ok maps => maps
    | .error _ => ⟨[], []⟩

/-- The maps that a setting writes, none if it is malformed. -/
def mapsIn (spec : String) : List IdMap := (IdMap.parse? spec).getD []

/-- The three ways to remap one name. -/
inductive Remaps (name : String) (s : DriverSettings) : Prop
  | user (user : s.remapUser = name) (group : s.remapGroup = "")
  | group (user : s.remapUser = "") (group : s.remapGroup = name)
  | both (user : s.remapUser = name) (group : s.remapGroup = name)

/-! ## The remapped names -/

theorem remapNames?_eq (s : DriverSettings) :
    remapNames? s = if s.remapUser = "" ∧ s.remapGroup = "" then none
      else some (nameOr s.remapUser s.remapGroup, nameOr s.remapGroup s.remapUser) := by
  rw [remapNames?, nameOr, nameOr]
  by_cases huser : s.remapUser = "" <;> by_cases hgroup : s.remapGroup = "" <;>
    simp [huser, hgroup]

/-- One name is the user and the group, whichever way it is given. -/
theorem remapNames?_of_remaps (h : Remaps name s) (hne : name ≠ "") :
    remapNames? s = some (name, name) := by
  rw [remapNames?_eq]
  cases h with
  | user huser hgroup => simp [huser, hgroup, hne, nameOr]
  | group huser hgroup => simp [huser, hgroup, hne, nameOr]
  | both huser hgroup => simp [huser, hgroup, hne, nameOr]

theorem value_subordinateMaps (files : FileSystem) (places : SubIdFiles) (s : DriverSettings) :
    (subordinateMaps files places s).value = mapsOf files places s.remapUser s.remapGroup := by
  rw [subordinateMaps, remapNames?_eq, mapsOf]
  by_cases h : s.remapUser = "" ∧ s.remapGroup = ""
  · rw [if_pos h, if_pos h]
    rfl
  · rw [if_neg h, if_neg h]
    dsimp only
    rw [Traced.value_bind]
    cases (SubIds.mappings files places (nameOr s.remapUser s.remapGroup)
      (nameOr s.remapGroup s.remapUser)).value <;> rfl

theorem value_explicitMaps (setting spec : String) :
    (explicitMaps setting spec).value = mapsIn spec := by
  rw [explicitMaps, mapsIn]
  cases IdMap.parse? spec <;> rfl

theorem subordinateMaps_of_remaps (hplaces : places.Agree files files') (h : Remaps name s)
    (h' : Remaps name s') (hne : name ≠ "") :
    subordinateMaps files places s = subordinateMaps files' places s' := by
  rw [subordinateMaps_congr hplaces, subordinateMaps, subordinateMaps, remapNames?_of_remaps h hne,
    remapNames?_of_remaps h' hne]

end Settings

namespace Store

open Settings

variable {files files' : FileSystem} {places : SubIdFiles} {s s' : Settings} {name : String}

theorem maps_ofSettings (files : FileSystem) (places : SubIdFiles) (s : Settings) :
    let store := (ofSettings files places s).value
    let names := mapsOf files places s.options.remapUser s.options.remapGroup
    store.uidMap = names.uids ++ mapsIn s.options.remapUids ∧
      store.gidMap = names.gids ++ mapsIn s.options.remapGids := by
  simp only [ofSettings, Traced.value_bind, Traced.value_pure, value_subordinateMaps,
    value_explicitMaps, and_self]

/-- Settings that remap one name, and are the same but for that, resolve alike. -/
theorem ofSettings_of_remaps (hplaces : places.Agree files files')
    (hsame : s.erase true false false = s'.erase true false false) (h : Remaps name s.options)
    (h' : Remaps name s'.options) (hne : name ≠ "") :
    ofSettings files places s = ofSettings files' places s' := by
  have hrun : s.runRoot = s'.runRoot := (congrArg Settings.runRoot hsame :)
  have hroot : s.graphRoot = s'.graphRoot := (congrArg Settings.graphRoot hsame :)
  have hdriver : s.driver = s'.driver := (congrArg Settings.driver hsame :)
  have hoptions : s.driverOptions = s'.driverOptions := (congrArg Settings.driverOptions hsame :)
  have huids : s.options.remapUids = s'.options.remapUids :=
    (congrArg (fun s => s.options.remapUids) hsame :)
  have hgids : s.options.remapGids = s'.options.remapGids :=
    (congrArg (fun s => s.options.remapGids) hsame :)
  simp only [ofSettings, hrun, hroot, hdriver, hoptions, huids, hgids,
    subordinateMaps_of_remaps hplaces h h' hne]

theorem maps_resolved (places : SubIdFiles) (env : Environment) :
    (∀ files path text doc, files.readText path = .ok text → Toml.ofText? text = some doc →
      (Settings.ofText? text).isSome →
      let option := fun name => textOf (optionItem? doc name)
      let names := mapsOf files places (option "remap-user") (option "remap-group")
      let store := (load files places env path).value
      store.uidMap = names.uids ++ mapsIn (option "remap-uids") ∧
        store.gidMap = names.gids ++ mapsIn (option "remap-gids")) ∧
    ∀ name files path s files' path' s', name ≠ "" →
      Makes files path s → Makes files' path' s' → places.Agree files files' →
      s.erase true false false = s'.erase true false false →
      Remaps name s.options → Remaps name s'.options →
      (load files places env path).value = (load files' places env path').value ∧
        (load files places env path).warnings = (load files' places env path').warnings := by
  constructor
  · intro files path text doc hread hdoc hsome option names store
    obtain ⟨s, hs⟩ := Option.isSome_iff_exists.mp hsome
    obtain rfl : settingsOf (doc.lookup "storage") = s := ofText?_eq_some hdoc hs
    have hstore : store = withEnvironment env (ofSettings files places _).value :=
      (load_makes ⟨text, hread, hs⟩ places env).1
    -- The environment leaves the maps as they are.
    rw [hstore]
    exact maps_ofSettings files places _
  · intro name files path s files' path' s' hne h h' hplaces hsame hremaps hremaps'
    have hsettings := ofSettings_of_remaps hplaces hsame hremaps hremaps' hne
    obtain ⟨hvalue, hwarnings⟩ := load_makes h places env
    obtain ⟨hvalue', hwarnings'⟩ := load_makes h' places env
    rw [hvalue, hvalue', hwarnings, hwarnings', ← warnings_ofSettings, ← warnings_ofSettings,
      hsettings]
    exact ⟨rfl, rfl⟩

/-- One name in each of the three ways, beside maps of user ids that are malformed. -/
theorem maps_resolved_three_ways :
    let written := "remap-uids = \"0:1\"\nremap-gids = \"0:5:5\"\n"
    let user := "[storage.options]\nremap-user = \"x\"\n" ++ written
    let group := "[storage.options]\nremap-group = \"x\"\n" ++ written
    let both := "[storage.options]\nremap-user = \"x\"\nremap-group = \"x\"\n" ++ written
    let files : FileSystem := ⟨fun path =>
      if path = "subuid" then .ok (Utf8.encode "x:100:10\n")
      else if path = "subgid" then .ok (Utf8.encode "x:200:20\n")
      else if path = "user" then .ok (Utf8.encode user)
      else if path = "group" then .ok (Utf8.encode group)
      else .ok (Utf8.encode both)⟩
    let places : SubIdFiles := ⟨"subuid", "subgid"⟩
    let run := fun path => load files places (fun _ => none) path
    (run "user").value.uidMap = [⟨0, 100, 10⟩] ∧
      (run "user").value.gidMap = [⟨0, 200, 20⟩, ⟨0, 5, 5⟩] ∧
      (run "user").value = (run "group").value ∧
      (run "user").warnings = (run "group").warnings ∧
      (run "group").value = (run "both").value ∧
      (run "group").warnings = (run "both").warnings := by
  intro written user group both files places run
  let s (user group : String) : Settings := { options :=
    { remapUser := user, remapGroup := group, remapUids := "0:1", remapGids := "0:5:5" } }
  have hread : files.readText "user" = .ok user.toList := Utf8.readText_of_read rfl
  have hs : Settings.ofText? user.toList = some (s "x" "") := by decide +kernel
  have huser : Makes files "user" (s "x" "") := ⟨_, hread, hs⟩
  have hgroup : Makes files "group" (s "" "x") :=
    ⟨group.toList, Utf8.readText_of_read rfl, by decide +kernel⟩
  have hboth : Makes files "both" (s "x" "x") :=
    ⟨both.toList, Utf8.readText_of_read rfl, by decide +kernel⟩
  have hsome : (Settings.ofText? user.toList).isSome := by rw [hs]; rfl
  obtain ⟨doc, hdoc⟩ := exists_document hsome
  have hoptions : driverSettingsOf (storageItem? doc "options") = (s "x" "").options :=
    congrArg Settings.options (ofText?_eq_some hdoc hs)
  have huserKey : textOf (optionItem? doc "remap-user") = "x" :=
    congrArg DriverSettings.remapUser hoptions
  have hgroupKey : textOf (optionItem? doc "remap-group") = "" :=
    congrArg DriverSettings.remapGroup hoptions
  have huidsKey : textOf (optionItem? doc "remap-uids") = "0:1" :=
    congrArg DriverSettings.remapUids hoptions
  have hgidsKey : textOf (optionItem? doc "remap-gids") = "0:5:5" :=
    congrArg DriverSettings.remapGids hoptions
  obtain ⟨hmaps, hsame⟩ := maps_resolved places fun _ => none
  obtain ⟨huids, hgids⟩ := hmaps files "user" _ doc hread hdoc hsome
  simp only [huserKey, hgroupKey, huidsKey, hgidsKey] at huids hgids
  obtain ⟨hvalue, hwarnings⟩ := hsame "x" files "user" _ files "group" _ (by decide) huser hgroup
    ⟨rfl, rfl⟩ rfl (.user rfl rfl) (.group rfl rfl)
  obtain ⟨hvalue', hwarnings'⟩ := hsame "x" files "group" _ files "both" _ (by decide) hgroup hboth
    ⟨rfl, rfl⟩ rfl (.group rfl rfl) (.both rfl rfl)
  exact ⟨huids.trans (by decide +kernel), hgids.trans (by decide +kernel), hvalue, hwarnings,
    hvalue', hwarnings'⟩

end Store
end ContainerRoster
