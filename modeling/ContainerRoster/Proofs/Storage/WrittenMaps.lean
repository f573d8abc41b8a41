import ContainerRoster.Proofs.Decimal.Bounded
import ContainerRoster.Proofs.Output.Tables
import ContainerRoster.Storage.Store
import Mathlib.Data.List.Basic
import Mathlib.Data.List.Forall2

/-!
# Id maps as they are written

`maps_written`: whatever stands around and between the numbers of id maps, as long as it is no
digit, the maps are read as they were; a text is refused exactly if its numbers do not go in threes
or one of them is too large.  Both come from one equation, `parse?_eq_some_iff`, between the maps
and the values of the runs of digits in a text.  `Runs` says what these runs are without splitting
anything, and every text has exactly one list of them.
-/

namespace ContainerRoster
namespace IdMap

variable {text text' gap behind : List Char} {runs runs' : List (List Char)} {maps : List IdMap}
  {spec spec' : String}

/-- The runs of digits in a text.  In front of a run stand no digits that do not belong to an
earlier one, and the run goes on up to the end or to something else. -/
inductive Runs : List (List Char) → List Char → Prop
  | none {text : List Char} (noDigit : ∀ c ∈ text, c.isDigit = false) : Runs [] text
  | next {gap run rest : List Char} {runs : List (List Char)}
      (noDigit : ∀ c ∈ gap, c.isDigit = false) (nonempty : run ≠ [])
      (digits : ∀ c ∈ run, c.isDigit = true) (ends : ∀ c ∈ rest.head?, c.isDigit = false)
      (later : Runs runs rest) : Runs (run :: runs) (gap ++ run ++ rest)

/-- The numbers that a map is written with. -/
def numbers (m : IdMap) : List Nat := [m.containerId.toNat, m.hostId.toNat, m.size.toNat]

/-! ## Every text has its runs -/

theorem digitRuns_cons_of_not_isDigit {c : Char} (h : c.isDigit = false) (rest : List Char) :
    digitRuns (c :: rest) = digitRuns rest := by
  rw [digitRuns, List.splitOnP_cons_eq_if_modifyHead, if_pos (by rw [h]; rfl)]
  rfl

theorem digitRuns_append_of_not_isDigit (h : ∀ c ∈ gap, c.isDigit = false) (rest : List Char) :
    digitRuns (gap ++ rest) = digitRuns rest := by
  induction gap with
  | nil => rfl
  | cons c gap ih =>
    obtain ⟨hc, hgap⟩ := List.forall_mem_cons.mp h
    rw [List.cons_append, digitRuns_cons_of_not_isDigit hc, ih hgap]

theorem digitRuns_append {run rest : List Char} (hne : run ≠ [])
    (hdigits : ∀ c ∈ run, c.isDigit = true) (hends : ∀ c ∈ rest.head?, c.isDigit = false) :
    digitRuns (run ++ rest) = run :: digitRuns rest := by
  have hsplit : run.splitOnP (fun c => !c.isDigit) = [run] :=
    List.splitOnP_eq_singleton fun c hc => by rw [hdigits c hc]; rfl
  have hfilter : [run].filter (fun run => !run.isEmpty) = [run] :=
    List.filter_eq_self.mpr fun a ha => by
      rw [List.mem_singleton.mp ha, List.isEmpty_eq_false_iff.mpr hne]
      rfl
  cases rest with
  | nil => rw [List.append_nil, digitRuns, hsplit, hfilter]; rfl
  | cons c rest =>
    have hc : c.isDigit = false := hends c rfl
    rw [digitRuns_cons_of_not_isDigit hc, digitRuns,
      List.splitOnP_append_cons run rest (by rw [hc]; rfl), hsplit, List.filter_append, hfilter]
    rfl

theorem Runs.digitRuns_eq (h : Runs runs text) : digitRuns text = runs := by
  induction h with
  | @none text hno =>
    have h := digitRuns_append_of_not_isDigit hno []
    rw [List.append_nil] at h
    exact h
  | next hno hne hdigits hends _ ih =>
    rw [List.append_assoc, digitRuns_append_of_not_isDigit hno, digitRuns_append hne hdigits hends,
      ih]

/-- The longest beginning of one kind ends in front of something else. -/
theorem exists_beginning (kind : Char → Bool) (text : List Char) :
    ∃ beginning rest, beginning ++ rest = text ∧ (∀ c ∈ beginning, kind c = true) ∧
      ∀ c ∈ rest.head?, kind c = false := by
  refine ⟨text.takeWhile kind, text.dropWhile kind, List.takeWhile_append_dropWhile,
    List.all_eq_true.mp List.all_takeWhile, fun c hc => ?_⟩
  have h := List.head?_dropWhile_not kind text
  rwa [Option.mem_def.mp hc] at h

theorem runs_digitRuns (text : List Char) : Runs (digitRuns text) text := by
  induction h : text.length using Nat.strongRecOn generalizing text with
  | ind n ih =>
    subst h
    obtain ⟨gap, later, rfl, hgap, hlater⟩ := exists_beginning (fun c => !c.isDigit) text
    obtain ⟨run, rest, rfl, hdigits, hends⟩ := exists_beginning Char.isDigit later
    simp only [Bool.not_eq_true', Bool.not_eq_false'] at hgap hlater
    cases run with
    | nil =>
      -- Nothing is left: it would start with a digit and with none.
      cases rest with
      | nil =>
        have hnone := Runs.none hgap
        rw [List.nil_append, List.append_nil]
        rwa [hnone.digitRuns_eq]
      | cons c rest =>
        have hdigit : c.isDigit = true := hlater c rfl
        rw [hends c rfl] at hdigit
        cases hdigit
    | cons c run =>
      have hshorter : rest.length < (gap ++ (c :: run ++ rest)).length := by
        simp only [List.length_append, List.length_cons]
        omega
      have hruns := Runs.next hgap (List.cons_ne_nil c run) hdigits hends
        (ih rest.length hshorter rest rfl)
      rw [← List.append_assoc]
      rwa [hruns.digitRuns_eq]

theorem runs_iff : Runs runs text ↔ digitRuns text = runs :=
  ⟨Runs.digitRuns_eq, fun h => h ▸ runs_digitRuns text⟩

theorem Runs.writes (h : Runs runs text) :
    ∀ run ∈ runs, Decimal.Writes run (Decimal.value run) := by
  induction h with
  | none => exact fun run hrun => absurd hrun List.not_mem_nil
  | next _ hne hdigits _ _ ih =>
    exact List.forall_mem_cons.mpr ⟨⟨hne, hdigits, rfl⟩, ih⟩

/-! ## Maps and the values of runs -/

theorem number?_eq_some_iff {run : List Char} (h : Decimal.Writes run (Decimal.value run))
    {id : UInt32} : number? run = some id ↔ Decimal.value run = id.toNat := by
  have hword : (∃ n, Decimal.readBelow (Nat.pow 2 32) run = .ok n ∧ UInt32.ofNat n = id) ↔
      Decimal.Writes (Decimal.unsigned run) id.toNat := Decimal.exists_readBelow_eq_ok_iff
  rw [Decimal.unsigned_of_writes h] at hword
  trans Decimal.Writes run id.toNat
  · rw [← hword, number?]
    cases Decimal.readBelow (Nat.pow 2 32) run with
    | error e => simp
    | ok n => simp
  · exact ⟨fun hid => hid.2.2, fun hid => hid ▸ h⟩

theorem mapM_number?_eq_some_iff
    (h : ∀ run ∈ runs, Decimal.Writes run (Decimal.value run)) {ids : List UInt32} :
    runs.mapM number? = some ids ↔ runs.map Decimal.value = ids.map UInt32.toNat := by
  induction runs generalizing ids with
  | nil => cases ids <;> simp
  | cons run runs ih =>
    obtain ⟨hrun, hruns⟩ := List.forall_mem_cons.mp h
    rw [List.mapM_cons]
    simp only [Option.bind_eq_bind, Option.bind_eq_some_iff, number?_eq_some_iff hrun, ih hruns,
      Option.pure_def, Option.some.injEq]
    cases ids with
    | nil => simp
    | cons id ids => simp

/-- Ids in threes are those of the maps. -/
theorem triples_eq_some_iff {ids : List UInt32} :
    triples ids = some maps ↔ ids.map UInt32.toNat = maps.flatMap numbers := by
  induction ids using triples.induct generalizing maps with
  | case1 => cases maps <;> simp [triples, numbers]
  | case2 c h s rest ih =>
    rw [triples, Option.map_eq_some_iff]
    cases maps with
    | nil => simp
    | cons m maps =>
      simp only [List.cons.injEq, List.map_cons, List.flatMap_cons, numbers, List.cons_append,
        List.nil_append, UInt32.toNat_inj]
      constructor
      · rintro ⟨_, hrest, rfl, rfl⟩
        exact ⟨rfl, rfl, rfl, ih.mp hrest⟩
      · rintro ⟨rfl, rfl, rfl, hrest⟩
        exact ⟨maps, ih.mpr hrest, rfl, rfl⟩
  | case3 ids hnil hthree =>
    have hnone : triples ids = none := by
      rw [triples]
      · exact hnil
      · exact hthree
    rw [hnone]
    refine ⟨nofun, fun h => ?_⟩
    cases maps with
    | nil => exact absurd (List.map_eq_nil_iff.mp h) hnil
    | cons m maps =>
      match ids, h with
      | [], h => cases h
      | [_], h => simp [numbers] at h
      | [_, _], h => simp [numbers] at h
      | c :: h :: s :: rest, _ => exact absurd rfl (hthree c h s rest)

/-- Which numbers are those of maps. -/
theorem exists_eq_flatMap_numbers_iff : ∀ values : List Nat,
    (∃ maps : List IdMap, values = maps.flatMap numbers) ↔
      3 ∣ values.length ∧ ∀ n ∈ values, n < Nat.pow 2 32
  | [] => ⟨fun _ => by simp, fun _ => ⟨[], rfl⟩⟩
  | [a] => by
    refine ⟨fun ⟨maps, h⟩ => ?_, fun h => by simp at h⟩
    cases maps <;> simp [numbers] at h
  | [a, b] => by
    refine ⟨fun ⟨maps, h⟩ => ?_, fun h => by simp at h⟩
    cases maps <;> simp [numbers] at h
  | c :: h :: s :: rest => by
    have hlength : 3 ∣ (c :: h :: s :: rest).length ↔ 3 ∣ rest.length := by
      simp only [List.length_cons]
      omega
    rw [hlength]
    simp only [List.forall_mem_cons]
    have ih := exists_eq_flatMap_numbers_iff rest
    constructor
    · rintro ⟨maps, hmaps⟩
      cases maps with
      | nil => cases hmaps
      | cons m maps =>
        simp only [List.flatMap_cons, numbers, List.cons_append, List.nil_append,
          List.cons.injEq] at hmaps
        obtain ⟨rfl, rfl, rfl, hrest⟩ := hmaps
        obtain ⟨hthrees, hsmall⟩ := ih.mp ⟨maps, hrest⟩
        exact ⟨hthrees, m.containerId.toNat_lt, m.hostId.toNat_lt, m.size.toNat_lt, hsmall⟩
    · rintro ⟨hthrees, hc, hh, hs, hsmall⟩
      obtain ⟨maps, rfl⟩ := ih.mpr ⟨hthrees, hsmall⟩
      refine ⟨⟨UInt32.ofNat c, UInt32.ofNat h, UInt32.ofNat s⟩ :: maps, ?_⟩
      rw [List.flatMap_cons, numbers]
      dsimp only
      rw [UInt32.toNat_ofNat_of_lt' hc, UInt32.toNat_ofNat_of_lt' hh, UInt32.toNat_ofNat_of_lt' hs]
      rfl

theorem parse?_eq_some_iff (h : Runs runs spec.toList) :
    parse? spec = some maps ↔ runs.map Decimal.value = maps.flatMap numbers := by
  rw [parse?, h.digitRuns_eq, Option.bind_eq_bind, Option.bind_eq_some_iff]
  simp only [mapM_number?_eq_some_iff h.writes, triples_eq_some_iff]
  constructor
  · rintro ⟨ids, hids, hmaps⟩
    rw [hids, hmaps]
  · intro hmaps
    have hsmall : ∀ n ∈ runs.map Decimal.value, n < Nat.pow 2 32 := by
      have hiff := exists_eq_flatMap_numbers_iff (runs.map Decimal.value)
      exact (hiff.mp ⟨maps, hmaps⟩).2
    have hwords : runs.map Decimal.value =
        ((runs.map Decimal.value).map UInt32.ofNat).map UInt32.toNat := by
      rw [List.map_map]
      refine ((List.map_congr_left fun n hn => ?_).trans (List.map_id _)).symm
      exact UInt32.toNat_ofNat_of_lt' (hsmall n hn)
    exact ⟨_, hwords, hwords.symm.trans hmaps⟩

theorem isSome_parse?_iff (h : Runs runs spec.toList) :
    (parse? spec).isSome ↔ 3 ∣ runs.length ∧ ∀ run ∈ runs, Decimal.value run < Nat.pow 2 32 := by
  rw [Option.isSome_iff_exists]
  simp only [parse?_eq_some_iff h]
  rw [exists_eq_flatMap_numbers_iff, List.length_map]
  simp only [List.forall_mem_map]

theorem parse?_congr (h : Runs runs spec.toList) (h' : Runs runs' spec'.toList)
    (hvalues : runs.map Decimal.value = runs'.map Decimal.value) : parse? spec = parse? spec' := by
  refine Option.ext fun maps => ?_
  rw [parse?_eq_some_iff h, parse?_eq_some_iff h', hvalues]

/-! ## Maps that are written out -/

/-- Runs with something in front of each, and in front of all but the first at least one
character. -/
theorem runs_pieces {pieces : List (List Char × List Char)}
    (hruns : ∀ p ∈ pieces, ∃ n, Decimal.Writes p.2 n)
    (hgaps : ∀ p ∈ pieces, ∀ c ∈ p.1, c.isDigit = false) (hapart : ∀ p ∈ pieces.tail, p.1 ≠ [])
    (hbehind : ∀ c ∈ behind, c.isDigit = false) :
    Runs (pieces.map (·.2)) (pieces.flatMap (fun p => p.1 ++ p.2) ++ behind) := by
  induction pieces with
  | nil => exact .none hbehind
  | cons p pieces ih =>
    obtain ⟨⟨n, hne, hdigits, -⟩, hruns⟩ := List.forall_mem_cons.mp hruns
    obtain ⟨hgap, hgaps⟩ := List.forall_mem_cons.mp hgaps
    rw [List.tail_cons] at hapart
    rw [List.map_cons, List.flatMap_cons, List.append_assoc]
    refine .next hgap hne hdigits ?_ (ih hruns hgaps fun q hq => hapart q (List.mem_of_mem_tail hq))
    cases pieces with
    | nil => exact fun c hc => hbehind c (List.mem_of_mem_head? hc)
    | cons q pieces =>
      have hq : q.1 ≠ [] := hapart q List.mem_cons_self
      intro c hc
      rw [List.flatMap_cons, List.append_assoc, List.append_assoc,
        List.head?_append_of_ne_nil _ hq] at hc
      exact hgaps q List.mem_cons_self c (List.mem_of_mem_head? hc)

theorem values_of_forall₂ {pieces : List (List Char × List Char)} {values : List Nat}
    (h : List.Forall₂ (fun p n => Decimal.Writes p.2 n) pieces values) :
    (∀ p ∈ pieces, ∃ n, Decimal.Writes p.2 n) ∧
      (pieces.map (·.2)).map Decimal.value = values := by
  induction h with
  | nil => exact ⟨nofun, rfl⟩
  | cons hp _ ih =>
    refine ⟨List.forall_mem_cons.mpr ⟨⟨_, hp⟩, ih.1⟩, ?_⟩
    rw [List.map_cons, List.map_cons, hp.2.2, ih.2]

theorem Runs.append (h : Runs runs text) (hne : gap ≠ []) (hgap : ∀ c ∈ gap, c.isDigit = false)
    (h' : Runs runs' text') : Runs (runs ++ runs') (text ++ gap ++ text') := by
  have hbefore : ∀ {before}, (∀ c ∈ before, c.isDigit = false) → Runs runs' (before ++ text') := by
    intro before hbefore
    rw [runs_iff, digitRuns_append_of_not_isDigit hbefore, h'.digitRuns_eq]
  induction h with
  | none hno =>
    refine hbefore fun c hc => ?_
    rcases List.mem_append.mp hc with hc | hc
    · exact hno c hc
    · exact hgap c hc
  | @next front run rest runs hno hrun hdigits hends _ ih =>
    rw [List.append_assoc, List.append_assoc _ rest, ← List.append_assoc rest]
    refine .next hno hrun hdigits ?_ ih
    cases rest with
    | nil =>
      rw [List.nil_append, List.head?_append_of_ne_nil _ hne]
      exact fun c hc => hgap c (List.mem_of_mem_head? hc)
    | cons c rest => exact hends

theorem toList_text (m : IdMap) : m.text.toList = Decimal.digits m.containerId.toNat ++ [':'] ++
    Decimal.digits m.hostId.toNat ++ [':'] ++ Decimal.digits m.size.toNat := by
  simp only [text, toString, String.toList_append, Nat.toList_repr, Decimal.digits]
  rfl

theorem runs_text (m : IdMap) : Runs (m.numbers.map Decimal.digits) m.text.toList := by
  let pieces : List (List Char × List Char) :=
    [([], Decimal.digits m.containerId.toNat), ([':'], Decimal.digits m.hostId.toNat),
      ([':'], Decimal.digits m.size.toNat)]
  have hwrites : ∀ p ∈ pieces, ∃ n, Decimal.Writes p.2 n := by
    simp only [pieces, List.forall_mem_cons]
    exact ⟨⟨_, Decimal.writes_digits _⟩, ⟨_, Decimal.writes_digits _⟩,
      ⟨_, Decimal.writes_digits _⟩, nofun⟩
  have hgaps : ∀ p ∈ pieces, ∀ c ∈ p.1, c.isDigit = false := by
    simp only [pieces, List.forall_mem_cons]
    exact ⟨nofun, ⟨rfl, nofun⟩, ⟨rfl, nofun⟩, nofun⟩
  have hapart : ∀ p ∈ pieces.tail, p.1 ≠ [] := by
    simp only [pieces, List.tail_cons, List.forall_mem_cons]
    exact ⟨List.cons_ne_nil _ _, List.cons_ne_nil _ _, nofun⟩
  have hbehind : ∀ c ∈ ([] : List Char), c.isDigit = false := nofun
  have hruns := runs_pieces hwrites hgaps hapart hbehind
  rw [toList_text]
  simpa [pieces, numbers] using hruns

/-- The maps of a row, with commas between them. -/
theorem runs_joined (maps : List IdMap) :
    Runs (maps.flatMap fun m => m.numbers.map Decimal.digits)
      (String.intercalate "," (maps.map IdMap.text)).toList := by
  rw [String.toList_intercalate, List.map_map]
  induction maps with
  | nil => exact .none nofun
  | cons m maps ih =>
    cases maps with
    | nil =>
      rw [List.flatMap_singleton, List.map_singleton, List.intercalate_singleton]
      exact m.runs_text
    | cons next maps =>
      rw [List.flatMap_cons, List.map_cons, List.map_cons, List.intercalate_cons_cons]
      exact m.runs_text.append (by decide) (List.forall_mem_singleton.mpr rfl) ih

theorem map_value_flatMap_numbers (maps : List IdMap) :
    (maps.flatMap fun m => m.numbers.map Decimal.digits).map Decimal.value =
      maps.flatMap numbers := by
  simp only [List.map_flatMap, List.map_map, Function.comp_def, Decimal.value_digits, List.map_id']

theorem parse?_joined (maps : List IdMap) :
    parse? (String.intercalate "," (maps.map IdMap.text)) = some maps :=
  (parse?_eq_some_iff (runs_joined maps)).mpr (map_value_flatMap_numbers maps)

/-- What is printed of maps holds nothing that a table does not print as it is. -/
theorem clean_joined (maps : List IdMap) :
    Table.clean (String.intercalate "," (maps.map IdMap.text)) =
      (String.intercalate "," (maps.map IdMap.text)).toList := by
  have hnot : ∀ a ∈ ['\t', '\n', '\r'],
      a ∉ (String.intercalate "," (maps.map IdMap.text)).toList := by
    intro a ha
    have hplain : a.isDigit = false ∧ a ≠ ':' ∧ a ≠ ',' := by
      revert a
      simp [Char.isDigit]
    obtain ⟨hdigit, hcolon, hcomma⟩ := hplain
    have hnumber : ∀ n, a ∉ Decimal.digits n := by
      intro n hn
      rw [Decimal.isDigit_of_mem_digits hn] at hdigit
      cases hdigit
    rw [String.toList_intercalate]
    refine Text.TabStops.notMem_intercalate hcomma ?_
    simp only [List.forall_mem_map, toList_text, List.mem_append, List.mem_singleton, hnumber,
      hcolon, or_self, not_false_eq_true, implies_true]
  simp only [List.forall_mem_cons] at hnot
  obtain ⟨htab, hnewline, hreturn, -⟩ := hnot
  refine (List.map_congr_left fun c hc => ?_).trans (List.map_id _)
  rw [Table.cleanChar, if_neg]
  · rfl
  · rintro (rfl | rfl | rfl)
    · exact htab hc
    · exact hnewline hc
    · exact hreturn hc

theorem maps_written :
    (∀ (maps : List IdMap) (pieces : List (List Char × List Char)) (behind : List Char),
      List.Forall₂ (fun p n => Decimal.Writes p.2 n) pieces
        (maps.flatMap fun m => [m.containerId.toNat, m.hostId.toNat, m.size.toNat]) →
      (∀ p ∈ pieces, ∀ c ∈ p.1, c.isDigit = false) → (∀ p ∈ pieces.tail, p.1 ≠ []) →
      (∀ c ∈ behind, c.isDigit = false) →
      parse? (String.ofList (pieces.flatMap (fun p => p.1 ++ p.2) ++ behind)) = some maps) ∧
    (∀ store : Store, ∀ row ∈ [("uidmap", store.uidMap), ("gidmap", store.gidMap)],
      let text := String.intercalate "," (row.2.map IdMap.text)
      parse? text = some row.2 ∧
        ∃ blanks, row.1.toList ++ List.replicate (blanks + 1) ' ' ++ text.toList ∈
          (renderStore .table store).toList.splitOn '\n') ∧
    (∀ spec, (∃! runs, Runs runs spec.toList) ∧
      ∀ runs, Runs runs spec.toList →
        ((parse? spec).isSome ↔ 3 ∣ runs.length ∧ ∀ run ∈ runs, Decimal.value run < Nat.pow 2 32) ∧
        (∀ maps, parse? spec = some maps ↔ runs.map Decimal.value =
          maps.flatMap fun m => [m.containerId.toNat, m.hostId.toNat, m.size.toNat]) ∧
        ∀ spec' runs', Runs runs' spec'.toList →
          runs.map Decimal.value = runs'.map Decimal.value → parse? spec = parse? spec') ∧
    ∀ setting spec, parse? spec = none →
      Settings.explicitMaps setting spec = ⟨[.warn (.malformedIdMap setting)], []⟩ ∧
        ∀ wording, (Warning.malformedIdMap setting).message wording =
          "error initializing ID mappings: " ++ setting ++ " setting is malformed" := by
  refine ⟨?_, ?_, ?_, ?_⟩
  · intro maps pieces behind hwrites hgaps hapart hbehind
    obtain ⟨hnumbers, hvalues⟩ := values_of_forall₂ hwrites
    have hruns := runs_pieces hnumbers hgaps hapart hbehind
    rw [← String.toList_ofList (l := _ ++ behind)] at hruns
    exact (parse?_eq_some_iff hruns).mpr hvalues
  · intro store row hrow text
    have hstored : [row.1, text] ∈ store.rows := by
      simp only [List.mem_cons, List.not_mem_nil, or_false] at hrow
      rcases hrow with rfl | rfl <;> simp [Store.rows, Store.joined, text]
    have hnames : ∀ name ∈ ["uidmap", "gidmap"], Table.clean name = name.toList := by decide
    obtain ⟨blanks, hline⟩ := store.exists_line hstored
    rw [hnames row.1 (List.mem_map_of_mem (f := Prod.fst) hrow), clean_joined] at hline
    exact ⟨parse?_joined row.2, blanks, hline⟩
  · intro spec
    refine ⟨⟨digitRuns spec.toList, runs_digitRuns _, fun runs h => h.digitRuns_eq.symm⟩, ?_⟩
    exact fun runs h =>
      ⟨isSome_parse?_iff h, fun maps => parse?_eq_some_iff h,
        fun spec' runs' h' => parse?_congr h h'⟩
  · intro setting spec h
    rw [Settings.explicitMaps, h]
    exact ⟨rfl, fun _ => rfl⟩

/-- Zeros in front, a row of separators and text around the numbers do not matter, and the largest
id is read; with two numbers a setting is refused. -/
theorem maps_written_loosely :
    let maps : List IdMap := [⟨0, 1000, 4294967295⟩]
    let store : Store := { uidMap := maps }
    parse? "ids 000:1000--4294967295;" = some maps ∧
      parse? "ids 000:1000--4294967295;" = parse? "0 1000 4294967295" ∧
      parse? "0:1000:4294967295" = some maps ∧
      (∃ blanks, "uidmap".toList ++ List.replicate (blanks + 1) ' ' ++
        "0:1000:4294967295".toList ∈ (renderStore .table store).toList.splitOn '\n') ∧
      Settings.explicitMaps "remap-uids" "0:1000" =
        ⟨[.warn (.malformedIdMap "remap-uids")], []⟩ := by
  intro maps store
  obtain ⟨hread, hprinted, hspec, hrefused⟩ := maps_written
  let pieces : List (List Char × List Char) :=
    [("ids ".toList, "000".toList), ([':'], "1000".toList), ("--".toList, "4294967295".toList)]
  have hwrites : List.Forall₂ (fun p n => Decimal.Writes p.2 n) pieces [0, 1000, 4294967295] :=
    .cons (by decide) (.cons (by decide) (.cons (by decide) .nil))
  have hgaps : ∀ p ∈ pieces, ∀ c ∈ p.1, c.isDigit = false := by simp [pieces, Char.isDigit]
  have hloose := hread maps pieces [';'] hwrites hgaps (by decide)
    (List.forall_mem_singleton.mpr rfl)
  have hruns : ∀ spec : String, Runs (digitRuns spec.toList) spec.toList :=
    fun spec => runs_digitRuns spec.toList
  obtain ⟨-, -, hsame⟩ := (hspec "ids 000:1000--4294967295;").2 _ (hruns _)
  obtain ⟨hparsed, hline⟩ := hprinted store ("uidmap", maps) List.mem_cons_self
  exact ⟨hloose, hsame "0 1000 4294967295" _ (hruns _) (by decide +kernel), hparsed, hline,
    (hrefused "remap-uids" "0:1000" (by decide +kernel)).1⟩

end IdMap
end ContainerRoster
