import ContainerRoster.Proofs.Decimal.Bounded
import ContainerRoster.Proofs.Failing
import ContainerRoster.Proofs.Storage.Faults

/-!
# Which ids are granted

`mappings_granted`: a user and a group are given mappings exactly if both files can be read, every
line that says something has three fields, the lines of the name write numbers and there is one of
them; the mappings are then those of these lines, one by one.  Otherwise the first thing wrong is
told, from the top of the first file to the end of the second one.  A line is looked at in two
steps, since its shape matters to everyone but its numbers only to the name it is of.
-/

namespace ContainerRoster
namespace SubIds

variable {files files' : FileSystem} {places : SubIdFiles} {path name : String}
  {line line' cs : List Char} {grantee : Grantee} {e : SubIdError} {r : Range} {found : List Range}

/-- Whether a line is of a name, which its first field tells. -/
def IsOf (name : String) (line : List Char) : Prop :=
  (line.splitOn ':').head? = some name.toList

instance : DecidablePred (IsOf name) := fun _ => inferInstanceAs (Decidable (_ = _))

/-- Whether a line writes a range that is granted to a name. -/
def Writes (name : String) (line : List Char) (r : Range) : Prop :=
  ∃ start count, line.splitOn ':' = [name.toList, start, count] ∧
    Decimal.Writes (Decimal.unsigned start) r.start.toNat ∧
    Decimal.Writes (Decimal.unsigned count) r.count.toNat

/-- Whether a line is no obstacle for a name: it has three fields, and if it is the name's own they
write a range. -/
def Passes (name : String) (line : List Char) : Prop :=
  (line.splitOn ':').length = 3 ∧ (IsOf name line → ∃ r, Writes name line r)

/-- Whether two lines are the same to a name: one line, or two lines of others with three fields. -/
def Alike (name : String) (line line' : List Char) : Prop :=
  line = line' ∨ ((line.splitOn ':').length = 3 ∧ ¬IsOf name line) ∧
    (line'.splitOn ':').length = 3 ∧ ¬IsOf name line'

/-- Whether a file is text in two file systems, with lines that are the same to a name. -/
def AlikeFiles (files files' : FileSystem) (path name : String) : Prop :=
  ∃ text text' : String, files.read path = .ok (Utf8.encode text) ∧
    files'.read path = .ok (Utf8.encode text') ∧
    List.Forall₂ (Alike name) (lines text.toList) (lines text'.toList)

/-- Whether maps have the ids and sizes of the lines of a name in a file, one by one. -/
def FollowLines (files : FileSystem) (path name : String) (maps : List IdMap) : Prop :=
  ∃ text : String, files.read path = .ok (Utf8.encode text) ∧
    List.Forall₂ (fun line m => Writes name line ⟨m.hostId, m.size⟩)
      ((lines text.toList).filter fun line => IsOf name line) maps

/-- What a line fails with. -/
inductive LineFault (path name : String) (line : List Char) : SubIdError → Prop
  | shape (fields : (line.splitOn ':').length ≠ 3) :
      LineFault path name line (.invalidLine (String.ofList line) path)
  | start {start count : List Char} {cause : Decimal.NumberError}
      (fields : line.splitOn ':' = [name.toList, start, count])
      (stops : Decimal.Stops (Nat.pow 2 32) (Decimal.unsigned start) cause) :
      LineFault path name line (.badNumber cause)
  | count {start count : List Char} {n : Nat} {cause : Decimal.NumberError}
      (fields : line.splitOn ':' = [name.toList, start, count])
      (writes : Decimal.Writes (Decimal.unsigned start) n) (fits : n < Nat.pow 2 32)
      (stops : Decimal.Stops (Nat.pow 2 32) (Decimal.unsigned count) cause) :
      LineFault path name line (.badNumber cause)

/-- Whether a file grants ids to a name. -/
def Grants (files : FileSystem) (path name : String) : Prop :=
  ∃ text : String, files.read path = .ok (Utf8.encode text) ∧
    (∀ line ∈ lines text.toList, Passes name line) ∧ ∃ line ∈ lines text.toList, IsOf name line

/-- The first thing that is wrong with a file for a name.  That the name has no line is known at
the end only. -/
inductive FirstFault (files : FileSystem) (path : String) (grantee : Grantee) (name : String) :
    SubIdError → Prop
  | unread {cause : IoError} (read : files.read path = .error cause) :
      FirstFault files path grantee name (.unreadable path cause)
  | notText {bytes : List UInt8} (read : files.read path = .ok bytes)
      (none : ∀ text, bytes ≠ Utf8.encode text) :
      FirstFault files path grantee name (.unreadable path .notText)
  | line {text : String} {before behind : List (List Char)} {line : List Char} {e : SubIdError}
      (read : files.read path = .ok (Utf8.encode text))
      (split : lines text.toList = before ++ line :: behind)
      (passed : ∀ l ∈ before, Passes name l) (fault : LineFault path name line e) :
      FirstFault files path grantee name e
  | noRanges {text : String} (read : files.read path = .ok (Utf8.encode text))
      (others : ∀ l ∈ lines text.toList, (l.splitOn ':').length = 3 ∧ ¬IsOf name l) :
      FirstFault files path grantee name (.noRanges grantee name path)

/-! ## One line -/

theorem number_eq_ok_iff {id : UInt32} :
    number cs = .ok id ↔ Decimal.Writes (Decimal.unsigned cs) id.toNat := by
  rw [← Decimal.exists_readBelow_eq_ok_iff, number]
  cases Decimal.readBelow (Nat.pow 2 32) cs <;> simp

theorem number_eq_error_iff :
    number cs = .error e ↔
      ∃ cause, Decimal.Stops (Nat.pow 2 32) (Decimal.unsigned cs) cause ∧ e = .badNumber cause := by
  have hstops : ∀ cause, Decimal.readBelow (Nat.pow 2 32) cs = .error cause ↔
      Decimal.Stops (Nat.pow 2 32) (Decimal.unsigned cs) cause :=
    fun cause => Decimal.readBelow_eq_error_iff (by decide)
  simp only [← hstops, number]
  cases Decimal.readBelow (Nat.pow 2 32) cs with
  | error cause => simp [eq_comm]
  | ok n => simp

/-- A line has three fields, or their number alone is what is wrong with it. -/
theorem fields_cases (line : List Char) :
    (∃ owner start count, line.splitOn ':' = [owner, start, count]) ∨
      (line.splitOn ':').length ≠ 3 := by
  by_cases h : (line.splitOn ':').length = 3
  · exact .inl (List.length_eq_three.mp h)
  · exact .inr h

theorem rangeOf_of_length_ne (h : (line.splitOn ':').length ≠ 3) :
    rangeOf path name line = .error (.invalidLine (String.ofList line) path) := by
  rw [rangeOf]
  split
  · next hfields =>
    rw [hfields] at h
    exact absurd rfl h
  · rfl

section Fields

variable {owner start count : List Char}

theorem isOf_iff (h : line.splitOn ':' = [owner, start, count]) :
    IsOf name line ↔ owner = name.toList := by
  rw [IsOf, h, List.head?_cons, Option.some.injEq]

/-- The numbers of a line are read only for the name it is of. -/
theorem rangeOf_of_not_isOf (h : line.splitOn ':' = [owner, start, count])
    (hname : ¬IsOf name line) : rangeOf path name line = .ok none := by
  rw [isOf_iff h] at hname
  rw [rangeOf, h]
  exact if_neg hname

theorem rangeOf_own (h : line.splitOn ':' = [name.toList, start, count]) :
    rangeOf path name line =
      number start >>= fun start => number count >>= fun count => .ok (some ⟨start, count⟩) := by
  rw [rangeOf, h]
  exact if_pos rfl

end Fields

theorem Writes.isOf (h : Writes name line r) : IsOf name line := by
  obtain ⟨start, count, hfields, -⟩ := h
  exact (isOf_iff hfields).mpr rfl

theorem Writes.length_fields (h : Writes name line r) : (line.splitOn ':').length = 3 := by
  obtain ⟨start, count, hfields, -⟩ := h
  rw [hfields]
  rfl

theorem rangeOf_eq_none_iff :
    rangeOf path name line = .ok none ↔ (line.splitOn ':').length = 3 ∧ ¬IsOf name line := by
  rcases fields_cases line with ⟨owner, start, count, h⟩ | h
  · have hlength : (line.splitOn ':').length = 3 := by rw [h]; rfl
    by_cases hname : IsOf name line
    · obtain rfl := (isOf_iff h).mp hname
      rw [rangeOf_own h]
      simp only [bind_eq_ok_iff, hname, not_true_eq_false, and_false, iff_false]
      rintro ⟨_, -, _, -, h'⟩
      cases h'
    · simp only [rangeOf_of_not_isOf h hname, hlength, hname, not_false_eq_true, and_self]
  · simp only [rangeOf_of_length_ne h, h, reduceCtorEq, false_and]

theorem rangeOf_eq_some_iff : rangeOf path name line = .ok (some r) ↔ Writes name line r := by
  rcases fields_cases line with ⟨owner, start, count, h⟩ | h
  · by_cases hname : IsOf name line
    · obtain rfl := (isOf_iff h).mp hname
      rw [rangeOf_own h]
      simp only [bind_eq_ok_iff, number_eq_ok_iff]
      constructor
      · rintro ⟨first, hfirst, size, hsize, h'⟩
        cases h'
        exact ⟨start, count, h, hfirst, hsize⟩
      · rintro ⟨start', count', h', hfirst, hsize⟩
        rw [h] at h'
        cases h'
        exact ⟨_, hfirst, _, hsize, rfl⟩
    · rw [rangeOf_of_not_isOf h hname]
      exact ⟨nofun, fun hwrites => absurd hwrites.isOf hname⟩
  · rw [rangeOf_of_length_ne h]
    exact ⟨nofun, fun hwrites => absurd hwrites.length_fields h⟩

/-- Only the shape of another name's line can be wrong. -/
theorem not_lineFault_of_not_isOf (h : (line.splitOn ':').length = 3) (hname : ¬IsOf name line) :
    ¬LineFault path name line e := by
  intro hfault
  cases hfault with
  | shape hshape => exact hshape h
  | start hfields => exact hname ((isOf_iff hfields).mpr rfl)
  | count hfields => exact hname ((isOf_iff hfields).mpr rfl)

theorem lineFault_iff_of_length_ne (h : (line.splitOn ':').length ≠ 3) :
    LineFault path name line e ↔ .invalidLine (String.ofList line) path = e := by
  constructor
  · intro hfault
    cases hfault with
    | shape => rfl
    | start hfields => exact absurd (by rw [hfields]; rfl) h
    | count hfields => exact absurd (by rw [hfields]; rfl) h
  · rintro rfl
    exact .shape h

/-- In a line of the name the second number is looked at once the first one is read. -/
theorem lineFault_own_iff {start count : List Char}
    (h : line.splitOn ':' = [name.toList, start, count]) : LineFault path name line e ↔
      (∃ cause, Decimal.Stops (Nat.pow 2 32) (Decimal.unsigned start) cause ∧
        e = .badNumber cause) ∨
      ∃ first : UInt32, Decimal.Writes (Decimal.unsigned start) first.toNat ∧
        ∃ cause, Decimal.Stops (Nat.pow 2 32) (Decimal.unsigned count) cause ∧
          e = .badNumber cause := by
  constructor
  · intro hfault
    cases hfault with
    | shape hshape => exact absurd (by rw [h]; rfl) hshape
    | start hfields hstops =>
      cases h.symm.trans hfields
      exact .inl ⟨_, hstops, rfl⟩
    | count hfields hwrites hfits hstops =>
      cases h.symm.trans hfields
      rw [← UInt32.toNat_ofNat_of_lt' hfits] at hwrites
      exact .inr ⟨_, hwrites, _, hstops, rfl⟩
  · rintro (⟨cause, hstops, rfl⟩ | ⟨first, hwrites, cause, hstops, rfl⟩)
    · exact .start h hstops
    · exact .count h hwrites first.toNat_lt hstops

theorem rangeOf_eq_error_iff : rangeOf path name line = .error e ↔ LineFault path name line e := by
  rcases fields_cases line with ⟨owner, start, count, h⟩ | h
  · by_cases hname : IsOf name line
    · obtain rfl := (isOf_iff h).mp hname
      rw [rangeOf_own h, lineFault_own_iff h]
      simp only [bind_eq_error_iff, number_eq_ok_iff, number_eq_error_iff, reduceCtorEq, and_false,
        exists_false, or_false]
    · have hlength : (line.splitOn ':').length = 3 := by rw [h]; rfl
      rw [rangeOf_of_not_isOf h hname]
      exact iff_of_false nofun (not_lineFault_of_not_isOf hlength hname)
  · rw [rangeOf_of_length_ne h, lineFault_iff_of_length_ne h, Except.error.injEq]

/-- A line is passed exactly if it does not fail. -/
theorem passes_iff (path : String) :
    Passes name line ↔ ∃ range, rangeOf path name line = .ok range := by
  constructor
  · rintro ⟨hlength, hwrites⟩
    by_cases hname : IsOf name line
    · obtain ⟨r, hr⟩ := hwrites hname
      exact ⟨some r, rangeOf_eq_some_iff.mpr hr⟩
    · exact ⟨none, rangeOf_eq_none_iff.mpr ⟨hlength, hname⟩⟩
  · rintro ⟨_ | r, h⟩
    · obtain ⟨hlength, hname⟩ := rangeOf_eq_none_iff.mp h
      exact ⟨hlength, fun hown => absurd hown hname⟩
    · have hr := rangeOf_eq_some_iff.mp h
      exact ⟨hr.length_fields, fun _ => ⟨r, hr⟩⟩

/-! ## All lines -/

theorem forall₂_rangeOf_iff (path : String) {ls : List (List Char)} :
    (∃ ranges, List.Forall₂ (fun l range => rangeOf path name l = .ok range) ls ranges ∧
        ranges.filterMap id = found) ↔
      (∀ l ∈ ls, (l.splitOn ':').length = 3) ∧
        List.Forall₂ (Writes name) (ls.filter fun l => IsOf name l) found := by
  induction ls generalizing found with
  | nil => simp [eq_comm]
  | cons l ls ih =>
    simp only [List.forall_mem_cons, List.forall₂_cons_left_iff]
    by_cases hname : IsOf name l
    · rw [List.filter_cons_of_pos (by simpa using hname), List.forall₂_cons_left_iff]
      constructor
      · rintro ⟨_, ⟨_ | r, ranges, hl, hrest, rfl⟩, rfl⟩
        · exact absurd hname (rangeOf_eq_none_iff.mp hl).2
        · obtain ⟨hlengths, hwrites⟩ := ih.mp ⟨ranges, hrest, rfl⟩
          have hr := rangeOf_eq_some_iff.mp hl
          exact ⟨⟨hr.length_fields, hlengths⟩, r, _, hr, hwrites, rfl⟩
      · rintro ⟨⟨-, hlengths⟩, r, rest, hr, hwrites, rfl⟩
        obtain ⟨ranges, hranges, rfl⟩ := ih.mpr ⟨hlengths, hwrites⟩
        exact ⟨_, ⟨some r, ranges, rangeOf_eq_some_iff.mpr hr, hranges, rfl⟩, rfl⟩
    · rw [List.filter_cons_of_neg (by simpa using hname)]
      constructor
      · rintro ⟨_, ⟨_ | r, ranges, hl, hrest, rfl⟩, rfl⟩
        · obtain ⟨hlengths, hwrites⟩ := ih.mp ⟨ranges, hrest, rfl⟩
          exact ⟨⟨(rangeOf_eq_none_iff.mp hl).1, hlengths⟩, hwrites⟩
        · exact absurd (rangeOf_eq_some_iff.mp hl).isOf hname
      · rintro ⟨⟨hlength, hlengths⟩, hwrites⟩
        obtain ⟨ranges, hranges, rfl⟩ := ih.mpr ⟨hlengths, hwrites⟩
        exact ⟨_, ⟨none, ranges, rangeOf_eq_none_iff.mpr ⟨hlength, hname⟩, hranges, rfl⟩, rfl⟩

/-- The ranges of a name are those of its lines, if all lines have three fields. -/
theorem ranges_eq_ok_iff {text : List Char} : ranges path name text = .ok found ↔
    (∀ line ∈ lines text, (line.splitOn ':').length = 3) ∧
      List.Forall₂ (Writes name) ((lines text).filter fun line => IsOf name line) found := by
  rw [ranges, bind_eq_ok_iff, ← forall₂_rangeOf_iff path]
  simp only [mapM_eq_ok_iff]
  refine exists_congr fun ranges => and_congr_right fun _ => ?_
  show Except.ok _ = Except.ok _ ↔ _
  rw [Except.ok.injEq]

/-- There are ranges, perhaps none, if every line is passed. -/
theorem exists_ranges_iff (path : String) {text : List Char} :
    (∃ found, ranges path name text = .ok found) ↔ ∀ line ∈ lines text, Passes name line := by
  simp only [passes_iff path, ← exists_mapM_eq_ok_iff, ranges, bind_eq_ok_iff]
  constructor
  · rintro ⟨_, ranges, hranges, -⟩
    exact ⟨ranges, hranges⟩
  · rintro ⟨ranges, hranges⟩
    exact ⟨_, ranges, hranges, rfl⟩

theorem ranges_eq_error_iff {text : List Char} : ranges path name text = .error e ↔
    ∃ before line behind, lines text = before ++ line :: behind ∧
      (∀ l ∈ before, Passes name l) ∧ LineFault path name line e := by
  rw [ranges, bind_eq_error_iff, mapM_eq_error_iff]
  simp only [passes_iff path, rangeOf_eq_error_iff]
  refine or_iff_left ?_
  rintro ⟨_, -, h⟩
  cases h

/-- Ranges are the same if they are taken from the same lines of the name. -/
theorem rangeOf_congr (h : Alike name line line') :
    rangeOf path name line = rangeOf path name line' := by
  rcases h with rfl | ⟨hother, hother'⟩
  · rfl
  · rw [rangeOf_eq_none_iff.mpr hother, rangeOf_eq_none_iff.mpr hother']

theorem ranges_congr {text text' : List Char}
    (h : List.Forall₂ (Alike name) (lines text) (lines text')) :
    ranges path name text = ranges path name text' := by
  have hmapM : ∀ {ls ls' : List (List Char)}, List.Forall₂ (Alike name) ls ls' →
      ls.mapM (rangeOf path name) = ls'.mapM (rangeOf path name) := by
    intro ls ls' h
    induction h with
    | nil => rfl
    | cons hline _ ih => rw [List.mapM_cons, List.mapM_cons, rangeOf_congr hline, ih]
  rw [ranges, ranges, hmapM h]

/-! ## One file -/

theorem readText_eq_error_iff {cause : IoError} : files.readText path = .error cause ↔
    files.read path = .error cause ∨
      ∃ bytes, files.read path = .ok bytes ∧ (∀ text, bytes ≠ Utf8.encode text) ∧
        cause = .notText := by
  simp only [← Utf8.text?_eq_none_iff, FileSystem.readText]
  cases files.read path with
  | error e => simp only [Except.error.injEq, reduceCtorEq, false_and, exists_false, or_false]
  | ok bytes =>
    simp only [reduceCtorEq, Except.ok.injEq, exists_eq_left', false_or]
    cases Utf8.text? bytes with
    | none => simp only [Except.error.injEq, true_and, eq_comm]
    | some cs => simp only [reduceCtorEq, false_and]

theorem granted_ok_eq_ok_iff {text : List Char} :
    granted path grantee name (.ok text) = .ok found ↔
      ranges path name text = .ok found ∧ found ≠ [] := by
  rw [granted, bind_eq_ok_iff]
  constructor
  · rintro ⟨ranges, hranges, h⟩
    split at h
    · cases h
    · next hne =>
      cases h
      exact ⟨hranges, fun hnil => hne (List.isEmpty_iff.mpr hnil)⟩
  · rintro ⟨hranges, hne⟩
    refine ⟨found, hranges, ?_⟩
    rw [List.isEmpty_eq_false_iff.mpr hne]
    rfl

theorem granted_ok_eq_error_iff {text : List Char} :
    granted path grantee name (.ok text) = .error e ↔
      ranges path name text = .error e ∨
        ranges path name text = .ok [] ∧ e = .noRanges grantee name path := by
  rw [granted, bind_eq_error_iff]
  refine or_congr_right ⟨?_, ?_⟩
  · rintro ⟨ranges, hranges, h⟩
    split at h
    · next hempty =>
      cases h
      rw [List.isEmpty_iff.mp hempty] at hranges
      exact ⟨hranges, rfl⟩
    · cases h
  · rintro ⟨hranges, rfl⟩
    exact ⟨[], hranges, rfl⟩

theorem granted_eq_ok_iff : granted path grantee name (files.readText path) = .ok found ↔
    ∃ text : String, files.read path = .ok (Utf8.encode text) ∧
      (∀ line ∈ lines text.toList, (line.splitOn ':').length = 3) ∧
      List.Forall₂ (Writes name) ((lines text.toList).filter fun line => IsOf name line) found ∧
      found ≠ [] := by
  constructor
  · intro h
    cases hread : files.readText path with
    | error cause =>
      rw [hread] at h
      cases h
    | ok cs =>
      rw [hread, granted_ok_eq_ok_iff, ranges_eq_ok_iff, and_assoc] at h
      refine ⟨String.ofList cs, Utf8.readText_eq_ok_iff.mp hread, ?_⟩
      rwa [String.toList_ofList]
  · rintro ⟨text, hread, hlengths, hwrites, hne⟩
    rw [Utf8.readText_of_read hread, granted_ok_eq_ok_iff, ranges_eq_ok_iff]
    exact ⟨⟨hlengths, hwrites⟩, hne⟩

/-- Without ranges no line is the name's. -/
theorem ranges_eq_nil_iff {text : List Char} : ranges path name text = .ok [] ↔
    ∀ l ∈ lines text, (l.splitOn ':').length = 3 ∧ ¬IsOf name l := by
  rw [ranges_eq_ok_iff, List.forall₂_nil_right_iff, List.filter_eq_nil_iff]
  simp only [decide_eq_true_eq, forall₂_and]

theorem granted_eq_error_iff : granted path grantee name (files.readText path) = .error e ↔
    FirstFault files path grantee name e := by
  constructor
  · intro h
    cases hread : files.readText path with
    | error cause =>
      rw [hread] at h
      cases h
      rcases readText_eq_error_iff.mp hread with hunread | ⟨bytes, hbytes, hno, rfl⟩
      · exact .unread hunread
      · exact .notText hbytes hno
    | ok cs =>
      have hbytes := Utf8.readText_eq_ok_iff.mp hread
      rw [hread, granted_ok_eq_error_iff, ranges_eq_error_iff, ranges_eq_nil_iff] at h
      rw [← String.toList_ofList (l := cs)] at h
      rcases h with ⟨before, line, behind, hsplit, hpassed, hfault⟩ | ⟨hothers, rfl⟩
      · exact .line hbytes hsplit hpassed hfault
      · exact .noRanges hbytes hothers
  · intro h
    cases h with
    | unread hread => rw [readText_eq_error_iff.mpr (.inl hread), granted]
    | notText hread hno => rw [readText_eq_error_iff.mpr (.inr ⟨_, hread, hno, rfl⟩), granted]
    | line hread hsplit hpassed hfault =>
      rw [Utf8.readText_of_read hread, granted_ok_eq_error_iff, ranges_eq_error_iff]
      exact .inl ⟨_, _, _, hsplit, hpassed, hfault⟩
    | noRanges hread hothers =>
      rw [Utf8.readText_of_read hread, granted_ok_eq_error_iff, ranges_eq_nil_iff]
      exact .inr ⟨hothers, rfl⟩

theorem grants_iff (grantee : Grantee) : Grants files path name ↔
    ∃ found, granted path grantee name (files.readText path) = .ok found := by
  constructor
  · rintro ⟨text, hread, hpasses, line, hline, hown⟩
    obtain ⟨found, hfound⟩ := (exists_ranges_iff path).mpr hpasses
    refine ⟨found, ?_⟩
    rw [Utf8.readText_of_read hread, granted_ok_eq_ok_iff]
    refine ⟨hfound, ?_⟩
    rintro rfl
    exact (ranges_eq_nil_iff.mp hfound line hline).2 hown
  · rintro ⟨found, h⟩
    cases hread : files.readText path with
    | error cause =>
      rw [hread] at h
      cases h
    | ok cs =>
      rw [hread, granted_ok_eq_ok_iff] at h
      obtain ⟨hfound, hne⟩ := h
      have hpasses := (exists_ranges_iff path).mp ⟨found, hfound⟩
      refine ⟨String.ofList cs, Utf8.readText_eq_ok_iff.mp hread, ?_⟩
      rw [String.toList_ofList]
      refine ⟨hpasses, ?_⟩
      by_contra hnone
      have hothers : ranges path name cs = .ok [] := ranges_eq_nil_iff.mpr fun l hl =>
        ⟨(hpasses l hl).1, fun hown => hnone ⟨l, hl, hown⟩⟩
      rw [hothers] at hfound
      exact hne (Except.ok.inj hfound).symm

/-! ## Both files -/

/-- The maps of ranges have their ids and sizes, whatever container ids they are given. -/
theorem forall₂_mapFrom {ls : List (List Char)} (h : List.Forall₂ (Writes name) ls found)
    (next : UInt32) :
    List.Forall₂ (fun line m => Writes name line ⟨m.hostId, m.size⟩) ls (mapFrom next found) := by
  induction h generalizing next with
  | nil => exact .nil
  | cons hr _ ih => exact .cons hr (ih _)

theorem followLines_of_granted
    (h : granted path grantee name (files.readText path) = .ok found) :
    FollowLines files path name (mapFrom 0 found) := by
  obtain ⟨text, hread, -, hwrites, -⟩ := granted_eq_ok_iff.mp h
  exact ⟨text, hread, forall₂_mapFrom hwrites 0⟩

theorem granted_congr (h : AlikeFiles files files' path name) :
    granted path grantee name (files.readText path) =
      granted path grantee name (files'.readText path) := by
  obtain ⟨text, text', hread, hread', hlines⟩ := h
  rw [Utf8.readText_of_read hread, Utf8.readText_of_read hread', granted, granted,
    ranges_congr hlines]

/-- The second file is not looked at when there is something wrong with the first one. -/
theorem mappings_of_users_error (places : SubIdFiles) {user : String}
    (h : granted places.users .user user (files.readText places.users) = .error e)
    (group : String) : mappings files places user group = ⟨[.read places.users], .error e⟩ := by
  rw [mappings, lookUp_eq, h]
  rfl

theorem value_mappings_eq_ok_iff {user group : String} {maps : IdMappings} :
    (mappings files places user group).value = .ok maps ↔ ∃ users groups,
      granted places.users .user user (files.readText places.users) = .ok users ∧
        granted places.groups .group group (files.readText places.groups) = .ok groups ∧
        ⟨mapFrom 0 users, mapFrom 0 groups⟩ = maps := by
  rw [value_mappings]
  cases granted places.users .user user (files.readText places.users) with
  | error cause => simp
  | ok users =>
    cases granted places.groups .group group (files.readText places.groups) <;> simp

theorem value_mappings_eq_error_iff {user group : String} :
    (mappings files places user group).value = .error e ↔
      granted places.users .user user (files.readText places.users) = .error e ∨
        (∃ users, granted places.users .user user (files.readText places.users) = .ok users) ∧
          granted places.groups .group group (files.readText places.groups) = .error e := by
  rw [value_mappings]
  cases granted places.users .user user (files.readText places.users) with
  | error cause => simp
  | ok users =>
    cases granted places.groups .group group (files.readText places.groups) <;> simp

theorem mappings_granted (files : FileSystem) (places : SubIdFiles) (user group : String) :
    ((∃ maps, (mappings files places user group).value = .ok maps) ↔
      Grants files places.users user ∧ Grants files places.groups group) ∧
    (∀ maps, (mappings files places user group).value = .ok maps →
      FollowLines files places.users user maps.uids ∧
        FollowLines files places.groups group maps.gids) ∧
    (∀ e, (mappings files places user group).value = .error e ↔
      FirstFault files places.users .user user e ∨
        Grants files places.users user ∧ FirstFault files places.groups .group group e) ∧
    (∀ e, FirstFault files places.users .user user e →
      (mappings files places user group).reads = [places.users] ∧
      ∀ files' groups' group', files'.read places.users = files.read places.users →
        (mappings files' ⟨places.users, groups'⟩ user group').value = .error e) ∧
    ∀ files', AlikeFiles files files' places.users user →
      AlikeFiles files files' places.groups group →
      mappings files places user group = mappings files' places user group := by
  refine ⟨?_, ?_, ?_, ?_, ?_⟩
  · rw [grants_iff .user, grants_iff .group]
    simp only [value_mappings_eq_ok_iff]
    constructor
    · rintro ⟨_, users, groups, husers, hgroups, -⟩
      exact ⟨⟨users, husers⟩, groups, hgroups⟩
    · rintro ⟨⟨users, husers⟩, groups, hgroups⟩
      exact ⟨_, users, groups, husers, hgroups, rfl⟩
  · intro maps h
    obtain ⟨users, groups, husers, hgroups, rfl⟩ := value_mappings_eq_ok_iff.mp h
    exact ⟨followLines_of_granted husers, followLines_of_granted hgroups⟩
  · intro e
    rw [value_mappings_eq_error_iff, granted_eq_error_iff, granted_eq_error_iff,
      grants_iff .user]
  · intro e hfault
    rw [← granted_eq_error_iff] at hfault
    refine ⟨by rw [mappings_of_users_error places hfault]; rfl, ?_⟩
    intro files' groups' group' hread
    have hfault' : granted places.users .user user (files'.readText places.users) = .error e := by
      rw [FileSystem.readText, hread]
      exact hfault
    rw [mappings_of_users_error ⟨places.users, groups'⟩ hfault']
  · intro files' husers hgroups
    simp only [mappings, lookUp_eq, granted_congr husers, granted_congr hgroups]

/-- Comments, blank lines, carriage returns and what others' lines say instead of numbers do not
matter; in the broken file the second line is told, although the third is worse. -/
theorem mappings_granted_beside_others :
    let text := "# ids\r\n\r\n other:x:y\r\nu:100:10\r\nuu:1:1\n\tu:+7:0009 \n"
    let text' := "other:1:1\nu:100:10\nother::\nu:+7:0009"
    let broken := "u:1:1\nu:1:x\nu:1\n"
    let granting (users : String) : FileSystem :=
      ⟨fun path => .ok (Utf8.encode (if path = "subuid" then users else "g:5:1\n"))⟩
    let places : SubIdFiles := ⟨"subuid", "subgid"⟩
    let uids : List IdMap := [⟨0, 100, 10⟩, ⟨10, 7, 9⟩]
    (mappings (granting text) places "u" "g").value = .ok ⟨uids, [⟨0, 5, 1⟩]⟩ ∧
      Grants (granting text) "subuid" "u" ∧ FollowLines (granting text) "subuid" "u" uids ∧
      mappings (granting text) places "u" "g" = mappings (granting text') places "u" "g" ∧
      FirstFault (granting broken) "subuid" .user "u" (.badNumber .invalidDigit) ∧
      (mappings (granting broken) ⟨"subuid", "nowhere"⟩ "u" "").value =
        .error (.badNumber .invalidDigit) := by
  intro text text' broken granting places uids
  have hread : ∀ users, (granting users).read "subuid" = .ok (Utf8.encode users) := fun _ => rfl
  have hgroups : ∀ users, (granting users).read "subgid" = .ok (Utf8.encode "g:5:1\n") :=
    fun _ => rfl
  have hvalue : (mappings (granting text) places "u" "g").value = .ok ⟨uids, [⟨0, 5, 1⟩]⟩ := by
    decide +kernel
  obtain ⟨hgrants, hfollow, -, -, halike⟩ := mappings_granted (granting text) places "u" "g"
  have husers : AlikeFiles (granting text) (granting text') "subuid" "u" := by
    refine ⟨text, text', hread text, hread text', ?_⟩
    have hlines : lines text.toList =
        ["other:x:y".toList, "u:100:10".toList, "uu:1:1".toList, "u:+7:0009".toList] := by
      decide +kernel
    have hlines' : lines text'.toList =
        ["other:1:1".toList, "u:100:10".toList, "other::".toList, "u:+7:0009".toList] := by
      decide +kernel
    rw [hlines, hlines']
    exact .cons (.inr (by decide)) (.cons (.inl rfl) (.cons (.inr (by decide))
      (.cons (.inl rfl) .nil)))
  have hsame : AlikeFiles (granting text) (granting text') "subgid" "g" :=
    ⟨_, _, hgroups text, hgroups text', List.forall₂_same.mpr fun _ _ => .inl rfl⟩
  have hfault : FirstFault (granting broken) "subuid" .user "u" (.badNumber .invalidDigit) := by
    have hsplit : lines broken.toList = ["u:1:1".toList] ++ "u:1:x".toList :: ["u:1".toList] := by
      decide +kernel
    have hone : Decimal.Writes (Decimal.unsigned ['1']) (1 : UInt32).toNat := by decide
    have hfields : "u:1:x".toList.splitOn ':' = ["u".toList, ['1'], ['x']] := by decide
    have hnone : ∀ d ∈ ([] : List Char), d.isDigit = true := nofun
    have hstops : Decimal.Stops (Nat.pow 2 32) ([] ++ 'x' :: []) .invalidDigit :=
      .invalidDigit hnone (by decide) (by decide)
    refine .line (hread broken) hsplit (fun l hl => ?_) (.count hfields hone (by decide) hstops)
    rw [List.mem_singleton.mp hl]
    exact ⟨by decide, fun _ => ⟨⟨1, 1⟩, ['1'], ['1'], by decide, hone, hone⟩⟩
  obtain ⟨-, -, -, hfirst, -⟩ := mappings_granted (granting broken) places "u" "g"
  exact ⟨hvalue, (hgrants.mp ⟨_, hvalue⟩).1, (hfollow _ hvalue).1, halike _ husers hsame, hfault,
    (hfirst _ hfault).2 (granting broken) "nowhere" "" rfl⟩

end SubIds
end ContainerRoster
