import ContainerRoster.Proofs.Json.RoundTrip
import ContainerRoster.Proofs.Text.Bytes
import ContainerRoster.Storage.Metadata
import Mathlib.Data.List.Forall2
import Mathlib.Data.List.Nodup

/-!
# What documents say

The members of the object that a document is, and what its fields have to do with them.
`mountPoint_eq_some_iff`, `pid_eq_some_iff` and `ip_eq_some_iff`: each field is the text at its own
path of keys, and no other member has an influence on it.  This is said of objects alone, since an
array gives its items for the members in the order of their names.  `exists_ofBytes?_eq_some` tells
which objects are read at all; what is written of a tree is one of them.
-/

namespace ContainerRoster

namespace Json

/-- The text that a value stands for: a string is its own text, a number is what it is printed as,
and no other value has one. -/
inductive Shows : Json → String → Prop
  | string (s : String) : Shows (.string s) s
  | number (n : Number) : Shows (.number n) (String.ofList n.text)

theorem scalar?_eq_some_iff {value : Json} {text : String} :
    value.scalar? = some text ↔ value.Shows text := by
  constructor
  · intro h
    cases value <;> cases h
    · exact .number _
    · exact .string _
  · rintro (_ | _) <;> rfl

/-- Whether the value of a key has a text, and which. -/
def ShowsAt (entries : List (String × Json)) (key text : String) : Prop :=
  ∃ value, lookup key entries = some value ∧ value.Shows text

theorem lookup_bind_scalar?_eq_some_iff {entries : List (String × Json)} {key text : String} :
    (lookup key entries).bind scalar? = some text ↔ ShowsAt entries key text := by
  simp only [Option.bind_eq_some_iff, scalar?_eq_some_iff, ShowsAt]

theorem lookup_bind_scalar?_eq_none_iff {entries : List (String × Json)} {key : String} :
    (lookup key entries).bind scalar? = none ↔ ∀ text, ¬ShowsAt entries key text := by
  simp only [Option.eq_none_iff_forall_ne_some, ne_eq, lookup_bind_scalar?_eq_some_iff]

end Json

/-! ## Lists whose items all have a value -/

section Option

variable {α β : Type} {f : α → Option β} {xs : List α} {ys : List β}

theorem forall₂_of_mapM_eq_some (h : xs.mapM f = some ys) :
    List.Forall₂ (fun x y => f x = some y) xs ys := by
  induction xs generalizing ys with
  | nil =>
    cases h
    exact .nil
  | cons x xs ih =>
    rw [List.mapM_cons, Option.bind_eq_bind, Option.bind_eq_some_iff] at h
    obtain ⟨y, hy, h⟩ := h
    rw [Option.bind_eq_bind, Option.bind_eq_some_iff] at h
    obtain ⟨rest, hrest, h⟩ := h
    cases h
    exact .cons hy (ih hrest)

theorem mem_iff_of_mapM_eq_some (h : xs.mapM f = some ys) {y : β} :
    y ∈ ys ↔ ∃ x ∈ xs, f x = some y := by
  have hf := forall₂_of_mapM_eq_some h
  clear h
  induction hf with
  | nil => simp
  | cons hxy _ ih => simp [ih, hxy, eq_comm]

theorem exists_of_mapM_eq_some (h : xs.mapM f = some ys) : ∀ x ∈ xs, ∃ y, f x = some y := by
  have hf := forall₂_of_mapM_eq_some h
  clear h
  induction hf with
  | nil => exact nofun
  | cons hxy _ ih => exact List.forall_mem_cons.mpr ⟨⟨_, hxy⟩, ih⟩

theorem exists_mapM_eq_some (f : α → Option β) (h : ∀ x ∈ xs, ∃ y, f x = some y) :
    ∃ ys, xs.mapM f = some ys := by
  induction xs with
  | nil => exact ⟨[], rfl⟩
  | cons x xs ih =>
    rw [List.forall_mem_cons] at h
    obtain ⟨y, hy⟩ := h.1
    obtain ⟨rest, hrest⟩ := ih h.2
    exact ⟨y :: rest, by rw [List.mapM_cons, hy, hrest]; rfl⟩

end Option

/-! ## Members of an object -/

namespace Metadata

open Json

/-- Whether the bytes write an object with a member of this name and this value. -/
def Holds (bytes : List UInt8) (name : String) (value : Json) : Prop :=
  ∃ members m, Raw.ofInput? (Utf8.decode bytes) = some (.object members) ∧
    m ∈ members ∧ Raw.decodeString m.1 = some name ∧ m.2.decode nestingLimit = some value

/-- Bytes that write an object.  All of its keys are text; of the members, each that is looked at
is there once at most and has a value. -/
structure IsObject (names : List String) (bytes : List UInt8)
    (members : List (List Raw.Piece × Raw)) : Prop where
  text : Raw.ofInput? (Utf8.decode bytes) = some (.object members)
  keys : ∀ m ∈ members, (Raw.decodeString m.1).isSome
  once : ∀ name ∈ names, (members.filterMap fun m => Raw.decodeString m.1).count name ≤ 1
  values : ∀ m ∈ members, ∀ name ∈ names, Raw.decodeString m.1 = some name →
    (m.2.decode nestingLimit).isSome

variable {names : List String} {bytes : List UInt8} {members : List (List Raw.Piece × Raw)}

/-- The looked-at value of a name is that of the one member with the name. -/
theorem member?_eq_some_iff {name : String} {entries : List (String × Raw)} {value : Option Json}
    (h : member? name entries = some value) (v : Json) :
    value = some v ↔ ∃ raw, (name, raw) ∈ entries ∧ raw.decode nestingLimit = some v := by
  have hmem : ∀ raw, (name, raw) ∈ entries ↔ (name, raw) ∈ entries.filter (·.1 == name) := by
    simp [List.mem_filter]
  simp only [hmem]
  rw [member?] at h
  split at h
  · next hf =>
    cases h
    simp [hf]
  · next m hf =>
    have hname : m.1 = name := by
      have hm : m ∈ entries.filter (·.1 == name) := by rw [hf]; exact List.mem_singleton_self m
      exact beq_iff_eq.mp (List.mem_filter.mp hm).2
    obtain ⟨v', hv', rfl⟩ := Option.map_eq_some_iff.mp h
    simp only [hf, List.mem_singleton, Option.some.injEq]
    constructor
    · rintro rfl
      exact ⟨m.2, by rw [← hname], hv'⟩
    · rintro ⟨raw, rfl, hv⟩
      exact Option.some.inj (hv'.symm.trans hv)
  · cases h

/-- A name that is there once at most, with a value, can be looked at. -/
theorem exists_member?_eq_some {name : String} {entries : List (String × Raw)}
    (hcount : (entries.map (·.1)).count name ≤ 1)
    (hvalues : ∀ m ∈ entries, m.1 = name → (m.2.decode nestingLimit).isSome) :
    ∃ value, member? name entries = some value := by
  have hlength : (entries.filter (·.1 == name)).length ≤ 1 := by
    rw [List.count, List.countP_map, List.countP_eq_length_filter] at hcount
    exact hcount
  rw [member?]
  split
  · exact ⟨none, rfl⟩
  · next m hf =>
    have hm : m ∈ entries.filter (·.1 == name) := by rw [hf]; exact List.mem_singleton_self m
    obtain ⟨hm, hname⟩ := List.mem_filter.mp hm
    obtain ⟨v, hv⟩ := Option.isSome_iff_exists.mp (hvalues m hm (beq_iff_eq.mp hname))
    exact ⟨some v, by rw [hv]; rfl⟩
  · next hnil hsingle =>
    match hf : entries.filter (·.1 == name) with
    | [] => exact absurd hf hnil
    | [m] => exact absurd hf (hsingle m)
    | _ :: _ :: _ =>
      rw [hf, List.length_cons, List.length_cons] at hlength
      omega

/-! ## Looking at the members of an object -/

theorem holds_iff (htext : Raw.ofInput? (Utf8.decode bytes) = some (.object members))
    {name : String} {v : Json} : Holds bytes name v ↔
      ∃ m ∈ members, Raw.decodeString m.1 = some name ∧ m.2.decode nestingLimit = some v := by
  constructor
  · rintro ⟨members', m, h, hm⟩
    rw [htext] at h
    cases h
    exact ⟨m, hm⟩
  · rintro ⟨m, hm⟩
    exact ⟨members, m, htext, hm⟩

/-- The member behind an entry: its key is the entry's name, its tree the entry's. -/
theorem map_decodeString_eq_some_iff {m : List Raw.Piece × Raw} {entry : String × Raw} :
    (Raw.decodeString m.1).map (·, m.2) = some entry ↔
      Raw.decodeString m.1 = some entry.1 ∧ m.2 = entry.2 := by
  cases Raw.decodeString m.1 with
  | none => simp
  | some name => simp [Prod.ext_iff]

theorem map_fst_eq_filterMap {entries : List (String × Raw)}
    (h : members.mapM (fun m => (Raw.decodeString m.1).map (·, m.2)) = some entries) :
    entries.map (·.1) = members.filterMap fun m => Raw.decodeString m.1 := by
  have hf := forall₂_of_mapM_eq_some h
  clear h
  induction hf with
  | nil => rfl
  | cons hm _ ih =>
    rw [List.map_cons, List.filterMap_cons, (map_decodeString_eq_some_iff.mp hm).1, ih]

/-- What is looked at in an object are the values of its members. -/
theorem read?_eq_some (htext : Raw.ofInput? (Utf8.decode bytes) = some (.object members))
    {values : List (Option Json)} (h : read? names bytes = some values) :
    List.Forall₂ (fun name value => ∀ v, value = some v ↔ Holds bytes name v) names values := by
  rw [read?, htext, Option.bind_eq_bind, Option.bind_some, members?, Option.bind_eq_bind,
    Option.bind_eq_some_iff] at h
  obtain ⟨entries, hentries, h⟩ := h
  refine (forall₂_of_mapM_eq_some h).imp fun name value hvalue v => ?_
  rw [member?_eq_some_iff hvalue, holds_iff htext]
  simp only [mem_iff_of_mapM_eq_some hentries, map_decodeString_eq_some_iff]
  constructor
  · rintro ⟨raw, ⟨m, hm, hname, rfl⟩, hv⟩
    exact ⟨m, hm, hname, hv⟩
  · rintro ⟨m, hm, hname, hv⟩
    exact ⟨m.2, ⟨m, hm, hname, rfl⟩, hv⟩

theorem holds_iff_of_read?_eq_some
    (htext : Raw.ofInput? (Utf8.decode bytes) = some (.object members)) {name : String}
    {value : Option Json} (h : read? [name] bytes = some [value]) {v : Json} :
    Holds bytes name v ↔ value = some v := by
  cases read?_eq_some htext h with
  | cons hvalue _ => exact (hvalue v).symm

theorem IsObject.exists_read?_eq_some (h : IsObject names bytes members) :
    ∃ values, read? names bytes = some values := by
  have hdecoded : ∀ m ∈ members, ∃ entry, (Raw.decodeString m.1).map (·, m.2) = some entry := by
    intro m hm
    obtain ⟨key, hkey⟩ := Option.isSome_iff_exists.mp (h.keys m hm)
    exact ⟨(key, m.2), map_decodeString_eq_some_iff.mpr ⟨hkey, rfl⟩⟩
  obtain ⟨entries, hentries⟩ := exists_mapM_eq_some _ hdecoded
  have hkeys := map_fst_eq_filterMap hentries
  have hlooked : ∀ name ∈ names, ∃ value, member? name entries = some value := by
    intro name hname
    refine exists_member?_eq_some (hkeys ▸ h.once name hname) fun entry hentry hkey => ?_
    obtain ⟨m, hm, hm'⟩ := (mem_iff_of_mapM_eq_some hentries).mp hentry
    obtain ⟨hkey', htree⟩ := map_decodeString_eq_some_iff.mp hm'
    exact htree ▸ h.values m hm name hname (hkey ▸ hkey')
  obtain ⟨values, hvalues⟩ := exists_mapM_eq_some _ hlooked
  refine ⟨values, ?_⟩
  rw [read?, h.text, Option.bind_eq_bind, Option.bind_some, members?, Option.bind_eq_bind, hentries,
    Option.bind_some, hvalues]

/-! ### What is written of an object -/

variable {entries : List (String × Json)}

theorem ofInput?_encode_documentText (h : Fits depthLimit (.object entries)) :
    Raw.ofInput? (Utf8.decode (Utf8.encode (documentText (.object entries)))) =
      some (.object (spelledMembers entries)) := by
  rw [Utf8.decode_encode, ofInput?_documentText h, spelled]

theorem ne_array_documentText (h : Fits depthLimit (.object entries)) (items : List Raw) :
    Raw.ofInput? (Utf8.decode (Utf8.encode (documentText (.object entries)))) ≠
      some (.array items) := by
  rw [ofInput?_encode_documentText h]
  exact nofun

/-- An object that is written, each key once, can be looked at. -/
theorem isObject_documentText (h : Fits depthLimit (.object entries))
    (hn : (entries.map (·.1)).Nodup) (names : List String) :
    IsObject names (Utf8.encode (documentText (.object entries))) (spelledMembers entries) where
  text := ofInput?_encode_documentText h
  keys := by
    rw [spelledMembers_eq_map, List.forall_mem_map]
    intro entry _
    rw [Raw.decodeString_text]
    rfl
  once := by
    intro name _
    simp only [spelledMembers_eq_map, List.filterMap_map, Function.comp_def,
      Raw.decodeString_text]
    rw [List.filterMap_eq_map']
    exact List.nodup_iff_count_le_one.mp hn name
  values := by
    rw [Fits, fitsMembers_iff] at h
    rw [spelledMembers_eq_map, List.forall_mem_map]
    intro entry hentry name _ _
    rw [decode_spelled nestingLimit entry.2 (h.2 entry hentry)]
    rfl

theorem holds_documentText (h : Fits depthLimit (.object entries)) {name : String} {v : Json} :
    Holds (Utf8.encode (documentText (.object entries))) name v ↔ (name, v) ∈ entries := by
  rw [holds_iff (ofInput?_encode_documentText h), spelledMembers_eq_map]
  rw [Fits, fitsMembers_iff] at h
  constructor
  · rintro ⟨m, hm, hname, hv⟩
    obtain ⟨entry, hentry, rfl⟩ := List.mem_map.mp hm
    rw [decode_spelled nestingLimit entry.2 (h.2 entry hentry)] at hv
    rw [Raw.decodeString_text] at hname
    cases hname
    cases hv
    exact hentry
  · intro hentry
    refine ⟨_, List.mem_map_of_mem hentry, Raw.decodeString_text name, ?_⟩
    exact decode_spelled nestingLimit v (h.2 _ hentry)

/-! ### What is looked at -/

theorem read?_eq_none (h : Raw.ofInput? (Utf8.decode bytes) = none) : read? names bytes = none := by
  rw [read?, h]
  rfl

/-- Besides arrays only objects have members to look at. -/
theorem exists_object_of_read? {values : List (Option Json)} (h : read? names bytes = some values)
    (ha : ∀ items, Raw.ofInput? (Utf8.decode bytes) ≠ some (.array items)) :
    ∃ members, Raw.ofInput? (Utf8.decode bytes) = some (.object members) := by
  rw [read?, Option.bind_eq_bind, Option.bind_eq_some_iff] at h
  obtain ⟨raw, hraw, h⟩ := h
  cases raw with
  | object members => exact ⟨members, hraw⟩
  | array items => exact absurd hraw (ha items)
  | null => cases h
  | bool b => cases h
  | number n => cases h
  | string pieces => cases h

theorem rootPath?_object {text : String} :
    rootPath? (.object entries) = some text ↔ ShowsAt entries "path" text :=
  lookup_bind_scalar?_eq_some_iff

theorem rootPath?_eq_some {root : Json} {text : String} (h : rootPath? root = some text)
    (hr : ∀ items, root ≠ .array items) :
    ∃ entries, root = .object entries ∧ ShowsAt entries "path" text := by
  cases root with
  | object entries => exact ⟨entries, rfl, rootPath?_object.mp h⟩
  | array items => exact absurd rfl (hr items)
  | null => cases h
  | bool b => cases h
  | number n => cases h
  | string s => cases h

theorem address?_eq_some_iff {annotations : Json} {text : String} :
    address? annotations = some text ↔ ∃ entries, annotations = .object entries ∧
      (ShowsAt entries "io.kubernetes.cri-o.IP" text ∨
        (∀ other, ¬ShowsAt entries "io.kubernetes.cri-o.IP" other) ∧
          ShowsAt entries "io.kubernetes.cri-o.IP.0" text) := by
  cases annotations with
  | object entries =>
    simp only [address?, addressKey, firstAddressKey, Option.or_eq_some_iff,
      lookup_bind_scalar?_eq_some_iff, lookup_bind_scalar?_eq_none_iff, Json.object.injEq,
      exists_eq_left']
  | array items => simp [address?]
  | null => simp [address?]
  | bool b => simp [address?]
  | number n => simp [address?]
  | string s => simp [address?]

end Metadata

/-! ## The fields of a document -/

open Metadata Json

variable {bytes bytes' : List UInt8} {members members' : List (List Raw.Piece × Raw)}

namespace ConfigDocument

variable {document document' : ConfigDocument}

theorem ofBytes?_eq_some_iff : ofBytes? bytes = some document ↔
    ∃ root, read? ["root"] bytes = some [root] ∧ document = ⟨root.bind rootPath?⟩ := by
  rw [ofBytes?, Option.bind_eq_bind, Option.bind_eq_some_iff]
  constructor
  · rintro ⟨values, hvalues, h⟩
    split at h
    · next root =>
      cases h
      exact ⟨root, hvalues, rfl⟩
    · cases h
  · rintro ⟨root, hroot, rfl⟩
    exact ⟨[root], hroot, rfl⟩

theorem ofBytes?_eq_none (h : Raw.ofInput? (Utf8.decode bytes) = none) : ofBytes? bytes = none := by
  rw [ofBytes?, read?_eq_none h]
  rfl

theorem exists_ofBytes?_eq_some (h : IsObject ["root"] bytes members) :
    ∃ document, ofBytes? bytes = some document := by
  obtain ⟨values, hvalues⟩ := h.exists_read?_eq_some
  cases read?_eq_some h.text hvalues with
  | cons _ hrest =>
    cases hrest
    exact ⟨_, ofBytes?_eq_some_iff.mpr ⟨_, hvalues, rfl⟩⟩

theorem exists_root (htext : Raw.ofInput? (Utf8.decode bytes) = some (.object members))
    (h : ofBytes? bytes = some document) : ∃ root : Option Json,
      (∀ v, root = some v ↔ Holds bytes "root" v) ∧ document.mountPoint = root.bind rootPath? := by
  obtain ⟨root, hread, rfl⟩ := ofBytes?_eq_some_iff.mp h
  exact ⟨root, fun v => (holds_iff_of_read?_eq_some htext hread).symm, rfl⟩

/-- An object gives its mount point under `root` and `path`, unless an array takes the place of the
root section. -/
theorem mountPoint_eq_some_iff
    (htext : Raw.ofInput? (Utf8.decode bytes) = some (.object members))
    (h : ofBytes? bytes = some document) (hr : ∀ items, ¬Holds bytes "root" (.array items))
    (text : String) : document.mountPoint = some text ↔
      ∃ entries, Holds bytes "root" (.object entries) ∧ ShowsAt entries "path" text := by
  obtain ⟨root, hroot, hmount⟩ := exists_root htext h
  rw [hmount, Option.bind_eq_some_iff]
  constructor
  · rintro ⟨v, hv, htext⟩
    have hv := (hroot v).mp hv
    obtain ⟨entries, rfl, hpath⟩ := rootPath?_eq_some htext fun items hi => hr items (hi ▸ hv)
    exact ⟨entries, hv, hpath⟩
  · rintro ⟨entries, hv, hpath⟩
    exact ⟨.object entries, (hroot _).mpr hv, rootPath?_object.mpr hpath⟩

/-- The root section alone decides about the mount point, whatever it is. -/
theorem mountPoint_congr
    (htext : Raw.ofInput? (Utf8.decode bytes) = some (.object members))
    (htext' : Raw.ofInput? (Utf8.decode bytes') = some (.object members'))
    (h : ofBytes? bytes = some document) (h' : ofBytes? bytes' = some document')
    (hsame : ∀ v, Holds bytes "root" v ↔ Holds bytes' "root" v) :
    document.mountPoint = document'.mountPoint := by
  obtain ⟨root, hroot, hmount⟩ := exists_root htext h
  obtain ⟨root', hroot', hmount'⟩ := exists_root htext' h'
  have he : root = root' := Option.ext fun v => by rw [hroot, hroot', hsame]
  rw [hmount, hmount', he]

end ConfigDocument

namespace StateDocument

variable {document document' : StateDocument}

theorem ofBytes?_eq_some_iff : ofBytes? bytes = some document ↔
    ∃ pid annotations, read? ["pid", "annotations"] bytes = some [pid, annotations] ∧
      document = ⟨pid.bind scalar?, annotations.bind address?⟩ := by
  rw [ofBytes?, Option.bind_eq_bind, Option.bind_eq_some_iff]
  constructor
  · rintro ⟨values, hvalues, h⟩
    split at h
    · next pid annotations =>
      cases h
      exact ⟨pid, annotations, hvalues, rfl⟩
    · cases h
  · rintro ⟨pid, annotations, hread, rfl⟩
    exact ⟨[pid, annotations], hread, rfl⟩

theorem ofBytes?_eq_none (h : Raw.ofInput? (Utf8.decode bytes) = none) : ofBytes? bytes = none := by
  rw [ofBytes?, read?_eq_none h]
  rfl

theorem exists_ofBytes?_eq_some (h : IsObject ["pid", "annotations"] bytes members) :
    ∃ document, ofBytes? bytes = some document := by
  obtain ⟨values, hvalues⟩ := h.exists_read?_eq_some
  cases read?_eq_some h.text hvalues with
  | cons _ hrest =>
    cases hrest with
    | cons _ hrest =>
      cases hrest
      exact ⟨_, ofBytes?_eq_some_iff.mpr ⟨_, _, hvalues, rfl⟩⟩

theorem exists_pid_annotations
    (htext : Raw.ofInput? (Utf8.decode bytes) = some (.object members))
    (h : ofBytes? bytes = some document) : ∃ pid annotations : Option Json,
      (∀ v, pid = some v ↔ Holds bytes "pid" v) ∧
      (∀ v, annotations = some v ↔ Holds bytes "annotations" v) ∧
      document.pid = pid.bind scalar? ∧ document.ip = annotations.bind address? := by
  obtain ⟨pid, annotations, hread, rfl⟩ := ofBytes?_eq_some_iff.mp h
  cases read?_eq_some htext hread with
  | cons hpid hrest =>
    cases hrest with
    | cons hannotations _ => exact ⟨pid, annotations, hpid, hannotations, rfl, rfl⟩

/-- An object gives its process id under `pid`. -/
theorem pid_eq_some_iff (htext : Raw.ofInput? (Utf8.decode bytes) = some (.object members))
    (h : ofBytes? bytes = some document) (text : String) :
    document.pid = some text ↔ ∃ value, Holds bytes "pid" value ∧ value.Shows text := by
  obtain ⟨pid, _, hpid, _, hp, _⟩ := exists_pid_annotations htext h
  simp only [hp, Option.bind_eq_some_iff, hpid, scalar?_eq_some_iff]

/-- An object gives its address in `annotations`, under the second key only when there is none
under the first. -/
theorem ip_eq_some_iff (htext : Raw.ofInput? (Utf8.decode bytes) = some (.object members))
    (h : ofBytes? bytes = some document) (text : String) :
    document.ip = some text ↔ ∃ entries, Holds bytes "annotations" (.object entries) ∧
      (ShowsAt entries "io.kubernetes.cri-o.IP" text ∨
        (∀ other, ¬ShowsAt entries "io.kubernetes.cri-o.IP" other) ∧
          ShowsAt entries "io.kubernetes.cri-o.IP.0" text) := by
  obtain ⟨_, annotations, _, hannotations, _, hip⟩ := exists_pid_annotations htext h
  rw [hip, Option.bind_eq_some_iff]
  constructor
  · rintro ⟨v, hv, haddress⟩
    obtain ⟨entries, rfl, htexts⟩ := address?_eq_some_iff.mp haddress
    exact ⟨entries, (hannotations _).mp hv, htexts⟩
  · rintro ⟨entries, hv, htexts⟩
    exact ⟨_, (hannotations _).mpr hv, address?_eq_some_iff.mpr ⟨entries, rfl, htexts⟩⟩

theorem pid_congr (htext : Raw.ofInput? (Utf8.decode bytes) = some (.object members))
    (htext' : Raw.ofInput? (Utf8.decode bytes') = some (.object members'))
    (h : ofBytes? bytes = some document) (h' : ofBytes? bytes' = some document')
    (hsame : ∀ v, Holds bytes "pid" v ↔ Holds bytes' "pid" v) : document.pid = document'.pid := by
  refine Option.ext fun text => ?_
  simp only [pid_eq_some_iff htext h, pid_eq_some_iff htext' h', hsame]

theorem ip_congr (htext : Raw.ofInput? (Utf8.decode bytes) = some (.object members))
    (htext' : Raw.ofInput? (Utf8.decode bytes') = some (.object members'))
    (h : ofBytes? bytes = some document) (h' : ofBytes? bytes' = some document')
    (hsame : ∀ v, Holds bytes "annotations" v ↔ Holds bytes' "annotations" v) :
    document.ip = document'.ip := by
  refine Option.ext fun text => ?_
  simp only [ip_eq_some_iff htext h, ip_eq_some_iff htext' h', hsame]

end StateDocument

end ContainerRoster
