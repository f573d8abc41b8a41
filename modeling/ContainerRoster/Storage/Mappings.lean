import ContainerRoster.Traced

/-!
# Mappings for a user and a group

The ranges of the user come from one file and those of the group from another, which is read only
when the first had some.
-/

namespace ContainerRoster

/-- The maps of user ids and of group ids. -/
structure IdMappings where
  uids : List IdMap
  gids : List IdMap
  deriving DecidableEq, Repr

namespace SubIds

/-- The ranges of a name in a file. -/
def lookUp (files : FileSystem) (path : String) (grantee : Grantee) (name : String) :
    Traced (Except SubIdError (List Range)) := do
  return granted path grantee name (← Traced.readText files path)

/-- The mappings for a user and a group. -/
def mappings (files : FileSystem) (places : SubIdFiles) (user group : String) :
    Traced (Except SubIdError IdMappings) := do
  match ← lookUp files places.users .user user with
  | .error e => return .error e
  | .ok users =>
    match ← lookUp files places.groups .group group with
    | .error e => return .error e
    | .ok groups => return .ok ⟨mapFrom 0 users, mapFrom 0 groups⟩

end SubIds

end ContainerRoster
