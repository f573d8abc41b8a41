import ContainerRoster.Output
import ContainerRoster.Proofs.Json.RoundTrip
import ContainerRoster.Proofs.Yaml.RoundTrip

/-!
# JSON and YAML carry the same document

`formats_agree`: what is written of a listing or of a store as JSON is read as the document itself,
and what is written of it as YAML as the same tree up to the order of its mappings.  The order
differs since YAML sorts the keys of every mapping.  So the proof has two parts: sorting changes
nothing but the order, and both printers read back on what a listing and a store can hold.
-/

namespace ContainerRoster

/-! ## Trees up to the order of mappings -/

mutual

/-- Two trees that differ in the order of their mappings at most. -/
inductive SameTree : Json → Json → Prop
  | null : SameTree .null .null
  | bool (b : Bool) : SameTree (.bool b) (.bool b)
  | number (n : Json.Number) : SameTree (.number n) (.number n)
  | string (s : String) : SameTree (.string s) (.string s)
  | array {items items' : List Json} : SameItems items items' →
    SameTree (.array items) (.array items')
  | object {members ordered members' : List (String × Json)} : members.Perm ordered →
    SameMembers ordered members' → SameTree (.object members) (.object members')

/-- The same items in the same order. -/
inductive SameItems : List Json → List Json → Prop
  | nil : SameItems [] []
  | cons {item item' : Json} {rest rest' : List Json} : SameTree item item' →
    SameItems rest rest' → SameItems (item :: rest) (item' :: rest')

/-- The same keys in the same order, with the same values. -/
inductive SameMembers : List (String × Json) → List (String × Json) → Prop
  | nil : SameMembers [] []
  | cons {key : String} {value value' : Json} {rest rest' : List (String × Json)} :
    SameTree value value' → SameMembers rest rest' →
    SameMembers ((key, value) :: rest) ((key, value') :: rest')

end

namespace Json

mutual

theorem sameTree_sorted : ∀ j : Json, SameTree (sorted j) j
  | .null => .null
  | .bool b => .bool b
  | .number n => .number n
  | .string s => .string s
  | .array items => by
    rw [sorted]
    exact .array (sameItems_sorted items)
  | .object members => by
    rw [sorted]
    exact .object (List.mergeSort_perm _ _) (sameMembers_sorted members)

theorem sameItems_sorted : ∀ items : List Json, SameItems (sortedItems items) items
  | [] => .nil
  | item :: rest => .cons (sameTree_sorted item) (sameItems_sorted rest)

theorem sameMembers_sorted : ∀ members : List (String × Json),
    SameMembers (sortedMembers members) members
  | [] => .nil
  | (_, value) :: rest => .cons (sameTree_sorted value) (sameMembers_sorted rest)

end

theorem map_fst_sortedMembers (members : List (String × Json)) :
    (sortedMembers members).map (·.1) = members.map (·.1) := by
  induction members with
  | nil => rfl
  | cons member rest ih =>
    rw [sortedMembers, List.map_cons, List.map_cons, ih]

end Json

namespace Yaml

open Json (sorted sortedItems sortedMembers)

mutual

/-- A tree that can be written can be written with its keys sorted. -/
theorem portable_sorted : ∀ j : Json, Portable j → Portable (sorted j)
  | .null, h => h
  | .bool _, h => h
  | .number _, h => h
  | .string _, h => h
  | .array items, h => by
    rw [Portable] at h
    rw [sorted, Portable]
    exact portableItems_sorted items h
  | .object members, h => by
    rw [Portable] at h
    have hperm := List.mergeSort_perm (sortedMembers members) fun a b => !decide (b.1 < a.1)
    have hs := portableMembers_iff.mp (portableMembers_sorted members h.2)
    rw [sorted, Portable]
    refine ⟨?_, portableMembers_iff.mpr fun member hm => hs member (hperm.mem_iff.mp hm)⟩
    have hkeys := (hperm.map (·.1)).nodup_iff
    rw [Json.map_fst_sortedMembers] at hkeys
    exact hkeys.mpr h.1

theorem portableItems_sorted : ∀ items : List Json, PortableItems items →
    PortableItems (sortedItems items)
  | [], h => h
  | item :: rest, h => by
    rw [PortableItems] at h
    rw [sortedItems, PortableItems]
    exact ⟨portable_sorted item h.1, portableItems_sorted rest h.2⟩

theorem portableMembers_sorted : ∀ members : List (String × Json), PortableMembers members →
    PortableMembers (sortedMembers members)
  | [], h => h
  | (key, value) :: rest, h => by
    rw [PortableMembers] at h
    rw [sortedMembers, PortableMembers]
    exact ⟨h.1, portable_sorted value h.2.1, portableMembers_sorted rest h.2.2⟩

end

end Yaml

/-! ## Documents -/

/-- Whether a text in JSON and a text in YAML read back as a document: the one as the document
itself, the other as a tree that orders its mappings in its own way. -/
def ReadsBack (d : Document) (json yaml : String) : Prop :=
  Json.ofText? json = some (.object d) ∧
    ∃ tree, Yaml.ofText? yaml = some tree ∧ SameTree tree (.object d)

namespace Document

theorem readsBack {d : Document} (hj : Json.Fits Json.depthLimit (.object d))
    (hy : Yaml.Portable (.object d)) : ReadsBack d d.toJson d.toYaml := by
  have hsorted := Yaml.portable_sorted (.object d) hy
  have hsame := Json.sameTree_sorted (.object d)
  rw [Json.sorted] at hsorted hsame
  refine ⟨Json.ofText?_documentText hj, _, ?_, hsame⟩
  rw [toYaml, Json.sorted]
  exact Yaml.ofText?_documentText hsorted

end Document

namespace Yaml

/-- A mapping can be written when its keys can and its values can. -/
theorem portable_object {members : List (String × Json)} {keys : List String}
    (hkeys : members.map (·.1) = keys) (hn : keys.Nodup)
    (hk : ∀ key ∈ keys, style key = .plain ∧ key.length < keyLimit)
    (hv : ∀ member ∈ members, Portable member.2) : Portable (.object members) := by
  subst hkeys
  rw [Portable]
  refine ⟨hn, portableMembers_iff.mpr fun member hm => ⟨?_, hv member hm⟩⟩
  exact hk member.1 (List.mem_map_of_mem hm)

theorem portable_string (s : String) : Portable (.string s) := by simp [Portable]

theorem portable_array {items : List Json} (h : ∀ item ∈ items, Portable item) :
    Portable (.array items) := by
  rw [Portable]
  exact portableItems_iff.mpr h

end Yaml

namespace Json

theorem fits_string (depth : Nat) (s : String) : Fits depth (.string s) := by simp [Fits]

theorem fits_array {depth : Nat} {items : List Json} (h : ∀ item ∈ items, Fits depth item) :
    Fits (depth + 1) (.array items) := by
  rw [Fits]
  exact ⟨Nat.succ_pos depth, fitsItems_iff.mpr h⟩

theorem fits_object {depth : Nat} {members : List (String × Json)}
    (h : ∀ member ∈ members, Fits depth member.2) : Fits (depth + 1) (.object members) := by
  rw [Fits]
  exact ⟨Nat.succ_pos depth, fitsMembers_iff.mpr h⟩

end Json

/-! ## Listings -/

namespace Record

theorem map_fst_document (r : Record) : r.document.map (·.1) =
    ["ContainerId", "CTM", "State", "Name", "PID", "IP", "MountPoint"] := rfl

theorem exists_string_of_mem_document {r : Record} {member : String × Json}
    (h : member ∈ r.document) : ∃ s, member.2 = .string s := by
  simp only [document, List.mem_cons, List.not_mem_nil, or_false] at h
  rcases h with rfl | rfl | rfl | rfl | rfl | rfl | rfl <;> exact ⟨_, rfl⟩

theorem portable_document (r : Record) : Yaml.Portable (.object r.document) := by
  refine Yaml.portable_object r.map_fst_document (by decide) (by decide) fun member hm => ?_
  obtain ⟨s, hs⟩ := exists_string_of_mem_document hm
  rw [hs]
  exact Yaml.portable_string s

theorem fits_document (depth : Nat) (r : Record) : Json.Fits (depth + 1) (.object r.document) := by
  refine Json.fits_object fun member hm => ?_
  obtain ⟨s, hs⟩ := exists_string_of_mem_document hm
  rw [hs]
  exact Json.fits_string depth s

theorem map_fst_listing (records : List Record) :
    (listing records).map (·.1) = ["Containers"] := rfl

theorem portable_listing (records : List Record) : Yaml.Portable (.object (listing records)) := by
  refine Yaml.portable_object (map_fst_listing records) (by decide) (by decide) ?_
  rw [listing, List.forall_mem_singleton]
  refine Yaml.portable_array fun item hi => ?_
  obtain ⟨r, -, rfl⟩ := List.mem_map.mp hi
  exact r.portable_document

theorem fits_listing (depth : Nat) (records : List Record) :
    Json.Fits (depth + 3) (.object (listing records)) := by
  refine Json.fits_object ?_
  rw [listing, List.forall_mem_singleton]
  refine Json.fits_array fun item hi => ?_
  obtain ⟨r, -, rfl⟩ := List.mem_map.mp hi
  exact r.fits_document depth

end Record

/-! ## Stores -/

namespace IdMap

theorem map_fst_document (m : IdMap) :
    m.document.map (·.1) = ["container_id", "host_id", "size"] := rfl

theorem exists_number_of_mem_document {m : IdMap} {member : String × Json}
    (h : member ∈ m.document) : ∃ n : UInt32, member.2 = number n := by
  simp only [document, List.mem_cons, List.not_mem_nil, or_false] at h
  rcases h with rfl | rfl | rfl <;> exact ⟨_, rfl⟩

/-- An id has half as many bits as are allowed. -/
theorem isWord_toNat (n : UInt32) : Json.Number.IsWord (.integer n.toNat) := by
  have h : n.toNat < 4294967296 := n.toNat_lt
  exact ⟨n.toNat, rfl, Nat.le_trans (Nat.le_of_lt h) (by decide)⟩

theorem portable_document (m : IdMap) : Yaml.Portable (.object m.document) := by
  refine Yaml.portable_object m.map_fst_document (by decide) (by decide) fun member hm => ?_
  obtain ⟨n, hn⟩ := exists_number_of_mem_document hm
  rw [hn, number, Yaml.Portable]
  exact isWord_toNat n

theorem fits_document (depth : Nat) (m : IdMap) : Json.Fits (depth + 1) (.object m.document) := by
  refine Json.fits_object fun member hm => ?_
  obtain ⟨n, hn⟩ := exists_number_of_mem_document hm
  rw [hn, number, Json.Fits]
  exact isWord_toNat n

end IdMap

namespace Store

theorem map_fst_document (s : Store) : s.document.map (·.1) =
    ["runroot", "root", "driver", "driver-options", "uidmap", "gidmap"] := rfl

/-- A setting is a string, a list of strings or a list of mappings of ids. -/
theorem member_cases {s : Store} {member : String × Json} (h : member ∈ s.document) :
    (∃ text, member.2 = .string text) ∨
      (∃ texts : List String, member.2 = .array (texts.map .string)) ∨
        ∃ maps : List IdMap, member.2 = .array (maps.map fun m => .object m.document) := by
  simp only [document, List.mem_cons, List.not_mem_nil, or_false] at h
  rcases h with rfl | rfl | rfl | rfl | rfl | rfl
  · exact .inl ⟨_, rfl⟩
  · exact .inl ⟨_, rfl⟩
  · exact .inl ⟨_, rfl⟩
  · exact .inr (.inl ⟨_, rfl⟩)
  · exact .inr (.inr ⟨_, rfl⟩)
  · exact .inr (.inr ⟨_, rfl⟩)

theorem portable_document (s : Store) : Yaml.Portable (.object s.document) := by
  refine Yaml.portable_object s.map_fst_document (by decide) (by decide) fun member hm => ?_
  rcases member_cases hm with ⟨text, h⟩ | ⟨texts, h⟩ | ⟨maps, h⟩
  · rw [h]
    exact Yaml.portable_string text
  · rw [h]
    refine Yaml.portable_array fun item hi => ?_
    obtain ⟨text, -, rfl⟩ := List.mem_map.mp hi
    exact Yaml.portable_string text
  · rw [h]
    refine Yaml.portable_array fun item hi => ?_
    obtain ⟨m, -, rfl⟩ := List.mem_map.mp hi
    exact m.portable_document

theorem fits_document (depth : Nat) (s : Store) : Json.Fits (depth + 3) (.object s.document) := by
  refine Json.fits_object fun member hm => ?_
  rcases member_cases hm with ⟨text, h⟩ | ⟨texts, h⟩ | ⟨maps, h⟩
  · rw [h]
    exact Json.fits_string _ text
  · rw [h]
    refine Json.fits_array fun item hi => ?_
    obtain ⟨text, -, rfl⟩ := List.mem_map.mp hi
    exact Json.fits_string _ text
  · rw [h]
    refine Json.fits_array fun item hi => ?_
    obtain ⟨m, -, rfl⟩ := List.mem_map.mp hi
    exact m.fits_document depth

end Store

/-- Every listing and every store prints the same document in JSON and in YAML. -/
theorem formats_agree :
    (∀ records : List Record, ReadsBack (Record.listing records) (renderRecords .json records)
      (renderRecords .yaml records)) ∧
    ∀ store : Store, ReadsBack store.document (renderStore .json store)
      (renderStore .yaml store) := by
  constructor
  · intro records
    exact Document.readsBack (Record.fits_listing (Json.depthLimit - 3) records)
      (Record.portable_listing records)
  · intro store
    exact Document.readsBack (store.fits_document (Json.depthLimit - 3)) store.portable_document

end ContainerRoster
