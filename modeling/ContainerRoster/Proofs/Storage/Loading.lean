import ContainerRoster.Storage.Store

/-!
# Loading the storage settings sends no request

Settings come from files and the environment.  Whatever they look like, nothing is sent to the
runtime while they are read.
-/

namespace ContainerRoster

theorem SubIds.requests_mappings (files : FileSystem) (places : SubIdFiles) (user group : String) :
    (SubIds.mappings files places user group).requests = [] := by
  rw [mappings, Traced.requests_bind]
  have lookUp : ∀ path grantee name, (lookUp files path grantee name).requests = [] :=
    fun _ _ _ => rfl
  rw [lookUp, List.nil_append]
  split
  · rfl
  · rw [Traced.requests_bind, lookUp, List.nil_append]
    split <;> rfl

namespace Settings

theorem requests_subordinateMaps (files : FileSystem) (places : SubIdFiles) (s : DriverSettings) :
    (subordinateMaps files places s).requests = [] := by
  rw [subordinateMaps]
  split
  · rfl
  · rw [Traced.requests_bind, SubIds.requests_mappings, List.nil_append]
    split <;> rfl

theorem requests_explicitMaps (setting spec : String) :
    (explicitMaps setting spec).requests = [] := by
  rw [explicitMaps]
  split <;> rfl

end Settings

namespace Store

theorem requests_ofSettings (files : FileSystem) (places : SubIdFiles) (s : Settings) :
    (ofSettings files places s).requests = [] := by
  simp only [ofSettings, Traced.requests_bind, Settings.requests_subordinateMaps,
    Settings.requests_explicitMaps, Traced.requests_pure, List.append_nil]

theorem requests_ofFile (files : FileSystem) (places : SubIdFiles) (path : String) :
    (ofFile files places path).requests = [] := by
  rw [ofFile, Traced.requests_bind, Traced.requests_readText, List.nil_append]
  split
  · split
    · exact requests_ofSettings files places _
    · rfl
  · rfl
  · rfl

theorem requests_load (files : FileSystem) (places : SubIdFiles) (env : Environment)
    (path : String) : (load files places env path).requests = [] := by
  rw [load, Traced.requests_bind, requests_ofFile, Traced.requests_pure, List.append_nil]

end Store
end ContainerRoster
