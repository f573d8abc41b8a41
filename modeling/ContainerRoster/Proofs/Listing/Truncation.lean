import ContainerRoster.Proofs.Listing.Selection
import Mathlib.Data.String.Basic

/-!
# Shortened ids are only shown

`shortened_shown_only`: two listings that differ only in whether ids are shortened read, warn and
fail alike, and their records differ in nothing but the id.  The containers are selected before a
record is made, by their full ids, so ids with the same beginning are never mistaken for each other.
The cut is made at a byte, and `toList_truncateId` says that this byte is always the first one of a
character.
-/

namespace ContainerRoster

/-! ## The cut -/

theorem Utf8.getElem?_starts (start n : Nat) (cs : List Char) :
    (starts start cs)[n]? =
      if n < cs.length then some (start + String.utf8Len (cs.take n)) else none := by
  induction cs generalizing start n with
  | nil => rfl
  | cons c rest ih =>
    cases n with
    | zero => rfl
    | succ n =>
      rw [starts, List.getElem?_cons_succ, ih, List.take_succ_cons, String.utf8Len_cons]
      simp only [List.length_cons, Nat.add_lt_add_iff_right]
      rw [Nat.add_assoc, Nat.add_comm c.utf8Size]

namespace Record

theorem toList_truncateId (id : String) : (truncateId id).toList = id.toList.take 13 := by
  rw [truncateId, Utf8.getElem?_starts, shownIdLength]
  by_cases h : 13 < id.toList.length
  · have hcut := String.extract_of_valid [] (id.toList.take 13) (id.toList.drop 13)
    rw [List.nil_append, List.take_append_drop, String.ofList_toList] at hcut
    rw [if_pos h]
    exact (congrArg String.toList hcut).trans String.toList_ofList
  · rw [if_neg h, List.take_of_length_le (Nat.le_of_not_lt h)]

theorem length_truncateId (id : String) : (truncateId id).length = min 13 id.length := by
  rw [← String.length_toList, toList_truncateId, List.length_take, String.length_toList]

theorem truncateId_eq_self_iff {id : String} : truncateId id = id ↔ id.length ≤ 13 := by
  constructor
  · intro h
    have hlength := length_truncateId id
    rw [h] at hlength
    omega
  · intro h
    apply String.toList_injective
    rw [toList_truncateId, List.take_of_length_le (String.length_toList ▸ h)]

theorem truncateId_truncateId (id : String) : truncateId (truncateId id) = truncateId id := by
  rw [truncateId_eq_self_iff, length_truncateId]
  exact Nat.min_le_left _ _

/-- The record with its id shortened. -/
def shortened (r : Record) : Record := { r with id := truncateId r.id }

end Record

/-! ## Two listings -/

namespace ListPlan

/-- Shortening the ids of a listing shortens those of its records. -/
theorem run_collect_shortened (plan : ListPlan) (files : FileSystem) (layout : Layout) (now : Int)
    (runtime : Runtime) :
    ({ plan with noTrunc := false }.collect files layout now runtime).run =
      ⟨({ plan with noTrunc := true }.collect files layout now runtime).run.events,
        ({ plan with noTrunc := true }.collect files layout now runtime).run.value.map
          (List.map Record.shortened)⟩ := by
  rw [run_collect_eq_select, run_collect_eq_select]
  dsimp only
  cases runtime.answer plan.filter with
  | error status => rfl
  | ok containers =>
    dsimp only
    cases (plan.postFilter.select files layout containers).run.value with
    | error failure => rfl
    | ok shown =>
      simp only [Except.map, List.map_map]
      rfl

theorem shortened_shown_only (plan : ListPlan) (files : FileSystem) (layout : Layout) (now : Int)
    (runtime : Runtime) :
    let full := ({ plan with noTrunc := true }.collect files layout now runtime).run
    let short := ({ plan with noTrunc := false }.collect files layout now runtime).run
    short.events = full.events ∧
      (match full.value with
        | .error failure => short.value = .error failure
        | .ok records =>
          short.value = .ok (records.map fun r => { r with id := Record.truncateId r.id }) ∧
            ∃ containers, runtime.answer plan.filter = .ok containers ∧
            ∃ shown : List (Container × StorageRecord),
              (shown.map Prod.fst).Sublist containers ∧
              (∀ s ∈ shown, plan.postFilter.matchesName s.1.name = true ∧
                (layout.correlate files s.1.id).run.value = .ok s.2 ∧
                plan.postFilter.checkPid (s.2.pid.getD "") ≠ .reject) ∧
              records = shown.map (fun s => Record.assemble s.1 s.2 true now) ∧
              records.map (·.id) = shown.map (·.1.id)) ∧
      ∀ id : String,
        (Record.truncateId id).toList = id.toList.take (min 13 id.length) ∧
          (Record.truncateId id).length = min 13 id.length ∧
          (Record.truncateId id = id ↔ id.length ≤ 13) ∧
          Record.truncateId (Record.truncateId id) = Record.truncateId id := by
  intro full short
  have hrun : short = ⟨full.events, full.value.map (List.map Record.shortened)⟩ :=
    run_collect_shortened plan files layout now runtime
  refine ⟨by rw [hrun], ?_, fun id => ⟨?_, Record.length_truncateId id,
    Record.truncateId_eq_self_iff, Record.truncateId_truncateId id⟩⟩
  · cases hv : full.value with
    | error failure =>
      rw [hrun, hv]
      rfl
    | ok records =>
      obtain ⟨containers, shown, ha, hs, hrecords⟩ := value_collect_iff.mp hv
      refine ⟨?_, containers, ha, shown, hs.sublist, hs.forall, hrecords, ?_⟩
      · rw [hrun, hv]
        rfl
      · rw [hrecords, List.map_map]
        rfl
  · rw [Record.toList_truncateId, List.take_eq_take_iff, String.length_toList]
    omega

/-- Two ids with the same first thirteen characters, of more than a byte each, are shown alike, but
each with what is stored under its own id. -/
theorem shortened_shown_only_same_beginning :
    let files : FileSystem := ⟨fun path => .ok (Utf8.encode
      (if path = "r/ééééééééééééé1/userdata/state.json" then "\x7b\"pid\":1\x7d"
        else if path = "r/ééééééééééééé2/userdata/state.json" then "\x7b\"pid\":2\x7d"
        else "\x7b\x7d"))⟩
    let runtime : Runtime :=
      ⟨fun _ => .ok [⟨"ééééééééééééé1", some "a", 1, 0⟩, ⟨"ééééééééééééé2", some "b", 1, 0⟩]⟩
    let plan : ListPlan := ⟨{ state := some .running }, ⟨none, none⟩, false, .table⟩
    (plan.collect files ⟨"r"⟩ 0 runtime).run.value =
      .ok [⟨"ééééééééééééé", "Less than a second ago", "running", "a", "1", "", ""⟩,
        ⟨"ééééééééééééé", "Less than a second ago", "running", "b", "2", "", ""⟩] := by
  intro files runtime plan
  have hfull : ({ plan with noTrunc := true }.collect files ⟨"r"⟩ 0 runtime).run.value =
      .ok [⟨"ééééééééééééé1", "Less than a second ago", "running", "a", "1", "", ""⟩,
        ⟨"ééééééééééééé2", "Less than a second ago", "running", "b", "2", "", ""⟩] := by
    decide +kernel
  have h := (shortened_shown_only plan files ⟨"r"⟩ 0 runtime).2.1
  rw [hfull] at h
  exact h.1.trans (by decide +kernel)

end ListPlan
end ContainerRoster
