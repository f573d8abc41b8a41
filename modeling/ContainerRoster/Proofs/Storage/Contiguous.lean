import ContainerRoster.Proofs.Failing
import ContainerRoster.Proofs.Storage.Faults
import Mathlib.Data.List.Chain

/-!
# Mapping ranges without gaps

The ranges of a name are mapped to container ids from zero on, one behind the other.  Where each map
starts is the sum of the sizes before it, as long as there is an id to start at: a sum past the
largest id counts as the largest id.  `mappings_contiguous` says when this happens.  As long as it
does not, every map goes on where the one before stops, so no id is given twice.  A map behind the
end starts inside the one that runs past it, which is why the sums have to be bounded.
-/

namespace ContainerRoster

namespace IdMap

/-- The largest id there is. -/
def largestId : Nat := UInt32.size - 1

/-- Whether a map gives a container id.  It may run past the largest one. -/
def Gives (m : IdMap) (id : Nat) : Prop :=
  m.containerId.toNat ≤ id ∧ id < m.containerId.toNat + m.size.toNat

/-- Whether the second map starts where the first one stops. -/
def Follows (m m' : IdMap) : Prop := m'.containerId.toNat = m.containerId.toNat + m.size.toNat

/-- How many ids maps give together. -/
def total : List IdMap → Nat
  | [] => 0
  | m :: maps => m.size.toNat + total maps

variable {m m' : IdMap} {maps : List IdMap}

/-- Whether the second map starts behind the first one. -/
def Before (m m' : IdMap) : Prop := m.containerId.toNat + m.size.toNat ≤ m'.containerId.toNat

theorem Follows.before (h : m.Follows m') : m.Before m' := Nat.le_of_eq h.symm

instance : Trans Before Before Before where
  trans {a b c} hab hbc := by
    unfold Before at *
    omega

/-- Maps that follow each other give no id twice. -/
theorem pairwise_of_isChain (h : maps.IsChain Follows) :
    maps.Pairwise fun m m' => ∀ id, ¬(m.Gives id ∧ m'.Gives id) := by
  have hbefore : maps.Pairwise Before := (h.imp fun _ _ => Follows.before).pairwise
  refine hbefore.imp ?_
  rintro a b hab id ⟨⟨-, ha⟩, ⟨hb, -⟩⟩
  exact absurd (Nat.lt_of_lt_of_le ha hab) (Nat.not_lt.mpr hb)

end IdMap

namespace SubIds

open IdMap (largestId total Follows)

variable {files : FileSystem} {places : SubIdFiles} {user group : String} {maps : IdMappings}

theorem toNat_addId (a b : UInt32) :
    (addId a b).toNat = min (a.toNat + b.toNat) largestId := by
  unfold addId
  split
  · next h =>
    have hsum : a.toNat + b.toNat ≤ largestId := Nat.le_pred_of_lt h
    rw [UInt32.toNat_add, Nat.mod_eq_of_lt h, Nat.min_eq_left hsum]
  · next h =>
    have hsum : largestId ≤ a.toNat + b.toNat := by
      rw [largestId]
      exact Nat.le_of_lt (Nat.lt_of_lt_of_le (by decide) (Nat.le_of_not_lt h))
    rw [Nat.min_eq_right hsum]
    rfl

theorem toNat_le_largestId (id : UInt32) : id.toNat ≤ largestId := Nat.le_pred_of_lt id.toNat_lt

/-- A map starts where those before it end, or else at the largest id. -/
theorem containerId_mapFrom (ranges : List Range) (next : UInt32) {k : Nat} {m : IdMap}
    (h : (mapFrom next ranges)[k]? = some m) :
    m.containerId.toNat = min (next.toNat + total ((mapFrom next ranges).take k)) largestId := by
  induction ranges generalizing next k with
  | nil => cases h
  | cons r rest ih =>
    rw [mapFrom] at h ⊢
    cases k with
    | zero =>
      cases h
      rw [List.take_zero, total, Nat.add_zero,
        Nat.min_eq_left (toNat_le_largestId next)]
    | succ k =>
      rw [ih (addId next r.count) h, toNat_addId, List.take_succ_cons, total]
      dsimp only
      omega

/-- The maps follow each other as long as there are ids to start at. -/
theorem isChain_mapFrom_iff (ranges : List Range) (next : UInt32) :
    (mapFrom next ranges).IsChain Follows ↔
      next.toNat + total (mapFrom next ranges).dropLast ≤ largestId := by
  induction ranges generalizing next with
  | nil =>
    simp only [mapFrom, List.IsChain.nil, true_iff]
    exact toNat_le_largestId next
  | cons r rest ih =>
    cases rest with
    | nil =>
      simp only [mapFrom, List.IsChain.singleton, true_iff]
      exact toNat_le_largestId next
    | cons r' rest =>
      have hih := ih (addId next r.count)
      simp only [mapFrom] at hih ⊢
      rw [List.isChain_cons_cons, hih, List.dropLast_cons_cons, total, Follows,
        toNat_addId]
      dsimp only
      omega

/-- There is a range for whoever is granted any. -/
theorem granted_ne_nil {path name : String} {grantee : Grantee}
    {file : Except IoError (List Char)} {ranges : List Range}
    (h : granted path grantee name file = .ok ranges) : ranges ≠ [] := by
  cases file with
  | error cause => cases h
  | ok text =>
    obtain ⟨found, -, h⟩ := bind_eq_ok_iff.mp h
    split at h
    · cases h
    · next hne =>
      cases h
      exact fun he => hne (List.isEmpty_iff.mpr he)

/-- Mappings are made of the ranges that the user and the group were granted. -/
theorem exists_ranges_of_mappings (h : (mappings files places user group).value = .ok maps) :
    ∃ users groups, users ≠ [] ∧ groups ≠ [] ∧ maps = ⟨mapFrom 0 users, mapFrom 0 groups⟩ := by
  rw [value_mappings] at h
  cases hu : granted places.users .user user (files.readText places.users) with
  | error cause =>
    rw [hu] at h
    cases h
  | ok users =>
    cases hg : granted places.groups .group group (files.readText places.groups) with
    | error cause =>
      rw [hu, hg] at h
      cases h
    | ok groups =>
      rw [hu, hg] at h
      cases h
      exact ⟨users, groups, granted_ne_nil hu, granted_ne_nil hg, rfl⟩

theorem mappings_contiguous (h : (mappings files places user group).value = .ok maps) :
    ∀ side ∈ [maps.uids, maps.gids],
      (side.head?.map fun m => m.containerId) = some 0 ∧
      (∀ k m, side[k]? = some m → m.containerId.toNat = min (total (side.take k)) largestId) ∧
      (side.IsChain Follows ↔ total side.dropLast ≤ largestId) ∧
      (total side.dropLast ≤ largestId →
        side.Pairwise fun m m' => ∀ id, ¬(m.Gives id ∧ m'.Gives id)) := by
  obtain ⟨users, groups, husers, hgroups, rfl⟩ := exists_ranges_of_mappings h
  intro side hside
  obtain ⟨ranges, hne, rfl⟩ : ∃ ranges, ranges ≠ [] ∧ side = mapFrom 0 ranges := by
    simp only [List.mem_cons, List.not_mem_nil, or_false] at hside
    rcases hside with rfl | rfl
    · exact ⟨users, husers, rfl⟩
    · exact ⟨groups, hgroups, rfl⟩
  have hchain : (mapFrom 0 ranges).IsChain Follows ↔
      total (mapFrom 0 ranges).dropLast ≤ largestId := by
    rw [isChain_mapFrom_iff, UInt32.toNat_zero, Nat.zero_add]
  refine ⟨?_, ?_, hchain, fun hfits => IdMap.pairwise_of_isChain (hchain.mpr hfits)⟩
  · cases ranges with
    | nil => exact absurd rfl hne
    | cons r rest => rfl
  · intro k m hm
    rw [containerId_mapFrom ranges 0 hm, UInt32.toNat_zero, Nat.zero_add]

/-- The last map may start at the largest id, and nothing is given twice even if it runs past it. -/
theorem mappings_contiguous_to_the_end :
    let users := "u:100000:65536\nv:1:1\nu:300000:4294901759\n# u:5:5\n u:7:9\n"
    let files : FileSystem :=
      ⟨fun path => .ok (Utf8.encode (if path = "subuid" then users else "g:5:1\n"))⟩
    let uids : List IdMap := [⟨0, 100000, 65536⟩, ⟨65536, 300000, 4294901759⟩, ⟨4294967295, 7, 9⟩]
    (mappings files ⟨"subuid", "subgid"⟩ "u" "g").value = .ok ⟨uids, [⟨0, 5, 1⟩]⟩ ∧
      total uids.dropLast = largestId ∧ uids.IsChain Follows ∧
      uids.Pairwise fun m m' => ∀ id, ¬(m.Gives id ∧ m'.Gives id) := by
  intro users files uids
  have h : (mappings files ⟨"subuid", "subgid"⟩ "u" "g").value = .ok ⟨uids, [⟨0, 5, 1⟩]⟩ := by
    decide +kernel
  obtain ⟨-, -, hchain, hapart⟩ := mappings_contiguous h uids List.mem_cons_self
  have htotal : total uids.dropLast = largestId := by decide
  exact ⟨h, htotal, hchain.mpr htotal.le, hapart htotal.le⟩

/-- Behind the largest id a map starts inside the one before it, and ids are given twice. -/
theorem mappings_past_the_end_overlap :
    let half := "u:0:2147483648\n"
    let files : FileSystem := ⟨fun path => .ok (Utf8.encode
      (if path = "subuid" then half ++ half ++ half else half))⟩
    let second : IdMap := ⟨2147483648, 0, 2147483648⟩
    let third : IdMap := ⟨4294967295, 0, 2147483648⟩
    (mappings files ⟨"subuid", "subgid"⟩ "u" "u").value =
        .ok ⟨[⟨0, 0, 2147483648⟩, second, third], [⟨0, 0, 2147483648⟩]⟩ ∧
      ¬second.Follows third ∧ second.Gives 4294967295 ∧ third.Gives 4294967295 := by
  unfold IdMap.Follows IdMap.Gives
  decide +kernel

end SubIds
end ContainerRoster
