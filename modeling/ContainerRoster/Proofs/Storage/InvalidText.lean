import ContainerRoster.Proofs.Json.Gaps
import ContainerRoster.Proofs.Storage.Correlate
import ContainerRoster.Proofs.Storage.Documents

/-!
# Documents that are not text

A document with bytes that belong to no character is malformed, wherever they are, but for one
place: inside the strings of members that are not looked at.  `exists_read?_iff_of_ne_encode` says
that such bytes are overlooked there and nowhere else, and `invalid_text_malformed` what this means
for a container: the fields of a malformed document are absent, it is told of once, and the other
document has its fields all the same.  `invalid_text_overlooked` is the smallest state that keeps
its process id although it is not text.
-/

namespace ContainerRoster

namespace Metadata

open Json

/-- An object that is looked at although it is not text: what belongs to no character is in members
that are not looked at. -/
structure Overlooks (names : List String) (bytes : List UInt8)
    (members : List (List Raw.Piece × Raw)) : Prop extends IsObject names bytes members where
  hidden : ∃ m ∈ members, (∀ name ∈ names, Raw.decodeString m.1 ≠ some name) ∧ ¬m.2.IsText

variable {names : List String} {bytes : List UInt8} {members : List (List Raw.Piece × Raw)}

/-! ## Objects that are looked at -/

section Member

variable {name : String} {entries : List (String × Raw)} {value : Option Json}

theorem count_le_one_of_member? (h : member? name entries = some value) :
    (entries.map (·.1)).count name ≤ 1 := by
  rw [List.count, List.countP_map, List.countP_eq_length_filter]
  show (entries.filter (·.1 == name)).length ≤ 1
  rw [member?] at h
  split at h
  · next hf => rw [hf]; exact Nat.zero_le 1
  · next hf => rw [hf]; exact Nat.le_refl 1
  · cases h

theorem isSome_decode_of_member? (h : member? name entries = some value) {raw : Raw}
    (hm : (name, raw) ∈ entries) : (raw.decode nestingLimit).isSome := by
  have hmem : (name, raw) ∈ entries.filter (·.1 == name) :=
    List.mem_filter.mpr ⟨hm, beq_self_eq_true name⟩
  rw [member?] at h
  split at h
  · next hf =>
    rw [hf] at hmem
    cases hmem
  · next m hf =>
    rw [hf, List.mem_singleton] at hmem
    subst hmem
    obtain ⟨v, hv, -⟩ := Option.map_eq_some_iff.mp h
    exact Option.isSome_of_eq_some hv
  · cases h

end Member

/-- What is looked at in an object makes it one that can be looked at. -/
theorem isObject_of_read? {values : List (Option Json)}
    (htext : Raw.ofInput? (Utf8.decode bytes) = some (.object members))
    (h : read? names bytes = some values) : IsObject names bytes members := by
  rw [read?, htext, Option.bind_eq_bind, Option.bind_some, members?, Option.bind_eq_bind,
    Option.bind_eq_some_iff] at h
  obtain ⟨entries, hentries, h⟩ := h
  have hlooked := exists_of_mapM_eq_some h
  refine ⟨htext, ?_, ?_, ?_⟩
  · intro m hm
    obtain ⟨entry, hentry⟩ := exists_of_mapM_eq_some hentries m hm
    exact Option.isSome_of_eq_some (map_decodeString_eq_some_iff.mp hentry).1
  · intro name hname
    obtain ⟨value, hvalue⟩ := hlooked name hname
    rw [← map_fst_eq_filterMap hentries]
    exact count_le_one_of_member? hvalue
  · intro m hm name hname hkey
    obtain ⟨value, hvalue⟩ := hlooked name hname
    refine isSome_decode_of_member? hvalue ((mem_iff_of_mapM_eq_some hentries).mpr ⟨m, hm, ?_⟩)
    exact map_decodeString_eq_some_iff.mpr ⟨hkey, rfl⟩

/-- Every string of an object that is looked at is text, if those of all other members are. -/
theorem IsObject.isText (h : IsObject names bytes members)
    (hother : ∀ m ∈ members, (∀ name ∈ names, Raw.decodeString m.1 ≠ some name) → m.2.IsText) :
    (Raw.object members).IsText := by
  rw [Raw.IsText, Raw.membersAreText_iff]
  intro m hm
  obtain ⟨key, hkey⟩ := Option.isSome_iff_exists.mp (h.keys m hm)
  refine ⟨Raw.notMem_of_decodeString hkey, ?_⟩
  by_cases hname : key ∈ names
  · obtain ⟨value, hvalue⟩ := Option.isSome_iff_exists.mp (h.values m hm key hname hkey)
    exact Raw.isText_of_decode m.2 hvalue
  · refine hother m hm fun name hn he => hname ?_
    rw [hkey] at he
    cases he
    exact hn

/-- Of an array every item is looked at. -/
theorem isText_of_read?_array {items : List Raw} {values : List (Option Json)}
    (htext : Raw.ofInput? (Utf8.decode bytes) = some (.array items))
    (h : read? names bytes = some values) : (Raw.array items).IsText := by
  rw [read?, htext, Option.bind_eq_bind, Option.bind_some, members?] at h
  split at h
  · cases h
  · rw [Option.bind_eq_bind, Option.bind_eq_some_iff] at h
    obtain ⟨decoded, hdecoded, -⟩ := h
    rw [Raw.IsText, Raw.itemsAreText_iff]
    intro item hitem
    obtain ⟨value, hvalue⟩ := exists_of_mapM_eq_some hdecoded item hitem
    exact Raw.isText_of_decode item hvalue

/-! ## Bytes that are not text -/

/-- Bytes that spell no text have a byte that belongs to no character. -/
theorem not_isText_of_ne_encode (hbytes : ∀ text, bytes ≠ Utf8.encode text) {raw : Raw}
    (h : Raw.ofInput? (Utf8.decode bytes) = some raw) : ¬raw.IsText := by
  intro ht
  obtain ⟨text, htext⟩ := Raw.exists_text_of_ofInput? h ht
  refine absurd (Utf8.text?_eq_none_iff.mpr hbytes) ?_
  rw [Utf8.text?, htext, Utf8.whole?_map_some]
  exact Option.some_ne_none text

theorem exists_read?_iff_of_ne_encode (hbytes : ∀ text, bytes ≠ Utf8.encode text) :
    (∃ values, read? names bytes = some values) ↔ ∃ members, Overlooks names bytes members := by
  constructor
  · rintro ⟨values, h⟩
    obtain ⟨members, hraw⟩ := exists_object_of_read? h fun items hraw =>
      not_isText_of_ne_encode hbytes hraw (isText_of_read?_array hraw h)
    have hobject := isObject_of_read? hraw h
    refine ⟨members, hobject, ?_⟩
    -- Without such a member all of the document would be text.
    refine Classical.byContradiction fun hhidden =>
      not_isText_of_ne_encode hbytes hraw (hobject.isText fun m hm hother => ?_)
    exact Classical.byContradiction fun ht => hhidden ⟨m, hm, hother, ht⟩
  · rintro ⟨members, h⟩
    exact h.toIsObject.exists_read?_eq_some

end Metadata

open Metadata

variable {bytes : List UInt8}

theorem ConfigDocument.ofBytes?_eq_none_of_ne_encode (hbytes : ∀ text, bytes ≠ Utf8.encode text)
    (h : ∀ members, ¬Overlooks ["root"] bytes members) : ofBytes? bytes = none := by
  refine Option.eq_none_iff_forall_ne_some.mpr fun document hd => ?_
  obtain ⟨root, hread, -⟩ := ofBytes?_eq_some_iff.mp hd
  obtain ⟨members, hm⟩ := (exists_read?_iff_of_ne_encode hbytes).mp ⟨_, hread⟩
  exact h members hm

theorem StateDocument.ofBytes?_eq_none_of_ne_encode (hbytes : ∀ text, bytes ≠ Utf8.encode text)
    (h : ∀ members, ¬Overlooks ["pid", "annotations"] bytes members) : ofBytes? bytes = none := by
  refine Option.eq_none_iff_forall_ne_some.mpr fun document hd => ?_
  obtain ⟨pid, annotations, hread, -⟩ := ofBytes?_eq_some_iff.mp hd
  obtain ⟨members, hm⟩ := (exists_read?_iff_of_ne_encode hbytes).mp ⟨_, hread⟩
  exact h members hm

namespace Layout

variable {id : String}

/-- A document that is not text is malformed, unless what makes it so is overlooked. -/
theorem invalid_text_malformed (layout : Layout) (hid : Path.IsPlain id) (files : FileSystem)
    {config state : List UInt8} (hc : files.read (layout.configPath id) = .ok config)
    (hs : files.read (layout.statePath id) = .ok state) :
    let run := (layout.correlate files id).run
    ((∀ text, config ≠ Utf8.encode text) → (∀ members, ¬Overlooks ["root"] config members) →
      run.value = .ok {
        id
        pid := (StateDocument.ofBytes? state).bind (·.pid)
        ip := (StateDocument.ofBytes? state).bind (·.ip)
        mountPoint := none } ∧
      run.warnings = .malformedDocument (layout.configPath id) .config config ::
        complaint (layout.statePath id) .state state (StateDocument.ofBytes? state)) ∧
    ((∀ text, state ≠ Utf8.encode text) →
      (∀ members, ¬Overlooks ["pid", "annotations"] state members) →
      run.value = .ok {
        id
        pid := none
        ip := none
        mountPoint := (ConfigDocument.ofBytes? config).bind (·.mountPoint) } ∧
      run.warnings =
        complaint (layout.configPath id) .config config (ConfigDocument.ofBytes? config) ++
        [.malformedDocument (layout.statePath id) .state state]) ∧
    (∀ members, Overlooks ["root"] config members →
      ∃ document, ConfigDocument.ofBytes? config = some document) ∧
    ∀ members, Overlooks ["pid", "annotations"] state members →
      ∃ document, StateDocument.ofBytes? state = some document := by
  intro run
  have hrun : run = _ := run_correlate_ok hid hc hs
  have hwarnings : run.warnings =
      complaint (layout.configPath id) .config config (ConfigDocument.ofBytes? config) ++
        complaint (layout.statePath id) .state state (StateDocument.ofBytes? state) := by
    rw [hrun]
    refine (Traced.warnings_read_append _ _ _ _).trans ?_
    rw [Traced.warnings_read_told]
  refine ⟨fun hbytes h => ?_, fun hbytes h => ?_, fun members h => ?_, fun members h => ?_⟩
  · have hnone := ConfigDocument.ofBytes?_eq_none_of_ne_encode hbytes h
    rw [hnone] at hwarnings hrun
    exact ⟨congrArg Traced.value hrun, hwarnings⟩
  · have hnone := StateDocument.ofBytes?_eq_none_of_ne_encode hbytes h
    rw [hnone] at hwarnings hrun
    exact ⟨congrArg Traced.value hrun, hwarnings⟩
  · exact ConfigDocument.exists_ofBytes?_eq_some h.toIsObject
  · exact StateDocument.exists_ofBytes?_eq_some h.toIsObject

/-- A byte that belongs to no character, deep in a member that is looked at. -/
theorem invalid_text_malformed_annotation :
    let config := Utf8.encode "\x7b\"root\":\x7b\"path\":\"/m\"\x7d\x7d"
    let state := Utf8.encode "\x7b\"pid\":9,\"annotations\":\x7b\"x\":\"" ++
      0xff :: Utf8.encode "\"\x7d\x7d"
    let files : FileSystem :=
      ⟨fun path => .ok (if path = "r/a/userdata/config.json" then config else state)⟩
    Path.IsPlain "a" ∧ (∀ text, state ≠ Utf8.encode text) ∧
      (correlate ⟨"r"⟩ files "a").run.value = .ok ⟨"a", none, none, some "/m"⟩ ∧
      (correlate ⟨"r"⟩ files "a").run.warnings =
        [.malformedDocument "r/a/userdata/state.json" .state state] := by
  intro config state files
  have hid : Path.IsPlain "a" := by decide
  have hc : files.read (configPath ⟨"r"⟩ "a") = .ok config := by decide +kernel
  have hs : files.read (statePath ⟨"r"⟩ "a") = .ok state := by decide +kernel
  have hbytes : ∀ text, state ≠ Utf8.encode text := Utf8.text?_eq_none_iff.mp (by decide +kernel)
  have hmalformed : StateDocument.ofBytes? state = none := by decide +kernel
  have hdocument : ConfigDocument.ofBytes? config = some ⟨some "/m"⟩ := by decide +kernel
  have hpath : statePath ⟨"r"⟩ "a" = "r/a/userdata/state.json" := by decide +kernel
  obtain ⟨-, hstate, -, hread⟩ := invalid_text_malformed ⟨"r"⟩ hid files hc hs
  obtain ⟨hvalue, hwarnings⟩ := hstate hbytes fun members h => by
    obtain ⟨document, hd⟩ := hread members h
    rw [hmalformed] at hd
    cases hd
  rw [hdocument, hpath] at hwarnings
  rw [hdocument] at hvalue
  exact ⟨hid, hbytes, hvalue, hwarnings⟩

/-- The same byte in a member that nobody looks at: the process id is reported and nothing is
told. -/
theorem invalid_text_overlooked :
    let config := Utf8.encode "\x7b\x7d"
    let state := Utf8.encode "\x7b\"pid\":9,\"x\":\"" ++ 0xff :: Utf8.encode "\"\x7d"
    let files : FileSystem :=
      ⟨fun path => .ok (if path = "r/a/userdata/config.json" then config else state)⟩
    Path.IsPlain "a" ∧ (∀ text, state ≠ Utf8.encode text) ∧
      (correlate ⟨"r"⟩ files "a").run.value = .ok ⟨"a", some "9", none, none⟩ ∧
      (correlate ⟨"r"⟩ files "a").run.warnings = [] := by
  intro config state files
  exact ⟨by decide, Utf8.text?_eq_none_iff.mp (by decide +kernel), by decide +kernel,
    by decide +kernel⟩

end Layout
end ContainerRoster
