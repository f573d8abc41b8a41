import ContainerRoster.Listing
import ContainerRoster.Proofs.Storage.Correlate
import Mathlib.Data.List.Forall2

/-!
# The containers that a listing visits

A listing asks storage about the containers whose name it does not pass over, in the order of the
answer, and goes no further than the first one on which storage fails or which has the process id
that is looked for.  `collectFrom_events` says that what a listing leaves behind is what these
visits leave behind.  `collect_answer` adds what it comes to, for every answer of the runtime: a
container behind the last visit has no influence, nor has one that is passed over.
-/

namespace ContainerRoster

/-! ## What a visit comes to -/

namespace Layout

/-- What storage tells about a container, without the trace of asking. -/
def found (layout : Layout) (files : FileSystem) (c : Container) :
    Except Failure StorageRecord :=
  (layout.correlate files c.id).run.value

/-- Whether a listing goes no further than a container.  An empty process id is not looked for. -/
def endsAt (layout : Layout) (files : FileSystem) (pid : String) (c : Container) : Bool :=
  match layout.found files c with
  | .error _ => true
  | .ok stored => !pid.isEmpty && stored.pid.getD "" == pid

/-- Whether a record joins a container with what storage tells about it. -/
def Joins (layout : Layout) (files : FileSystem) (noTrunc : Bool) (now : Int)
    (c : Container) (r : Record) : Prop :=
  ∃ stored, layout.found files c = .ok stored ∧ r = Record.assemble c stored noTrunc now

end Layout

namespace ListPlan

/-- The containers of an answer whose name is not passed over. -/
def candidates (plan : ListPlan) (containers : List Container) : List Container :=
  containers.filter fun c => plan.postFilter.matchesName c.name

/-- The candidates up to and including the first one at which a listing ends. -/
def visited (plan : ListPlan) (files : FileSystem) (layout : Layout) (pid : String)
    (containers : List Container) : List Container :=
  (plan.candidates containers).take
    ((plan.candidates containers).findIdx (layout.endsAt files pid) + 1)

/-- Whether a plan looks for a process id. -/
def Seeks (plan : ListPlan) (pid : String) : Prop :=
  plan.postFilter.pid? = if pid.isEmpty then none else some pid

variable {plan : ListPlan} {files : FileSystem} {layout : Layout} {pid : String} {now : Int}
  {c : Container} {rest : List Container}

theorem checkPid_eq (hp : plan.Seeks pid) (p : String) :
    plan.postFilter.checkPid p =
      if pid.isEmpty then .accept else if p = pid then .acceptLast else .reject := by
  unfold PostFilter.checkPid
  rw [hp]
  by_cases he : pid.isEmpty
  · simp only [he, if_true]
  · simp only [he, if_false, Bool.false_eq_true, eq_comm]

theorem candidates_cons_of_skip (h : plan.postFilter.matchesName c.name = false) :
    plan.candidates (c :: rest) = plan.candidates rest :=
  List.filter_cons_of_neg (by rw [h]; exact Bool.false_ne_true)

theorem candidates_cons_of_match (h : plan.postFilter.matchesName c.name = true) :
    plan.candidates (c :: rest) = c :: plan.candidates rest :=
  List.filter_cons_of_pos h

theorem visited_cons_of_skip (h : plan.postFilter.matchesName c.name = false) :
    plan.visited files layout pid (c :: rest) = plan.visited files layout pid rest := by
  rw [visited, candidates_cons_of_skip h, visited]

theorem visited_cons_of_end (h : plan.postFilter.matchesName c.name = true)
    (he : layout.endsAt files pid c = true) :
    plan.visited files layout pid (c :: rest) = [c] := by
  rw [visited, candidates_cons_of_match h, List.findIdx_cons, he]
  rfl

theorem visited_cons_of_go (h : plan.postFilter.matchesName c.name = true)
    (he : layout.endsAt files pid c = false) :
    plan.visited files layout pid (c :: rest) = c :: plan.visited files layout pid rest := by
  rw [visited, candidates_cons_of_match h, List.findIdx_cons, he]
  rfl

/-! ## One step of a listing -/

theorem collectFrom_skip (h : plan.postFilter.matchesName c.name = false) :
    plan.collectFrom files layout now (c :: rest) = plan.collectFrom files layout now rest := by
  rw [collectFrom, h]
  rfl

/-- Storage fails on the container, and the listing fails with it. -/
theorem collectFrom_fail {failure : Failure} (h : plan.postFilter.matchesName c.name = true)
    (hf : layout.found files c = .error failure) :
    (plan.collectFrom files layout now (c :: rest)).run =
      ⟨(layout.correlate files c.id).run.events, .error failure⟩ := by
  rw [collectFrom, h]
  exact Traced.run_bind_error hf _

/-- The container is the one that is looked for, and the listing ends with its record. -/
theorem collectFrom_last {stored : StorageRecord} (hp : plan.Seeks pid)
    (h : plan.postFilter.matchesName c.name = true) (hf : layout.found files c = .ok stored)
    (he : layout.endsAt files pid c = true) :
    (plan.collectFrom files layout now (c :: rest)).run =
      ⟨(layout.correlate files c.id).run.events,
        .ok [Record.assemble c stored plan.noTrunc now]⟩ := by
  simp only [Layout.endsAt, hf, Bool.and_eq_true, Bool.not_eq_true', beq_iff_eq] at he
  rw [collectFrom, h, if_pos rfl, Traced.run_bind_ok hf, checkPid_eq hp, he.1, he.2]
  simp

/-- The listing goes on.  The record of the container stands in front of the others, unless it was
looked at for its process id alone. -/
theorem collectFrom_go {stored : StorageRecord} (hp : plan.Seeks pid)
    (h : plan.postFilter.matchesName c.name = true) (hf : layout.found files c = .ok stored)
    (he : layout.endsAt files pid c = false) :
    (plan.collectFrom files layout now (c :: rest)).run =
      ⟨(layout.correlate files c.id).run.events ++
          (plan.collectFrom files layout now rest).run.events,
        if pid.isEmpty then
          (plan.collectFrom files layout now rest).run.value.map
            (Record.assemble c stored plan.noTrunc now :: ·)
        else (plan.collectFrom files layout now rest).run.value⟩ := by
  have hv : plan.postFilter.checkPid (stored.pid.getD "") =
      if pid.isEmpty then .accept else .reject := by
    rw [checkPid_eq hp]
    simp only [Layout.endsAt, hf, Bool.and_eq_false_iff, Bool.not_eq_false', beq_eq_false_iff_ne]
      at he
    by_cases hpid : pid.isEmpty
    · rw [if_pos hpid, if_pos hpid]
    · rw [if_neg hpid, if_neg hpid, if_neg (he.resolve_left hpid)]
  rw [collectFrom, h, if_pos rfl, Traced.run_bind_ok hf]
  simp only [hv]
  by_cases hpid : pid.isEmpty
  · simp only [hpid, if_true]
    cases hr : (plan.collectFrom files layout now rest).run.value with
    | error failure =>
      rw [Traced.run_bind_error hr]
      rfl
    | ok records =>
      rw [Traced.run_bind_ok hr, Traced.run_pure, List.append_nil]
      rfl
  · simp only [hpid, if_false, Bool.false_eq_true]

/-! ## A whole listing -/

/-- Induction along an answer, by what becomes of the container in front. -/
theorem visit_induction (plan : ListPlan) (files : FileSystem) (layout : Layout) (pid : String)
    {motive : List Container → Prop} (nil : motive [])
    (skip : ∀ c rest, plan.postFilter.matchesName c.name = false → motive rest →
      motive (c :: rest))
    (fail : ∀ c rest failure, plan.postFilter.matchesName c.name = true →
      layout.found files c = .error failure → layout.endsAt files pid c = true →
      motive (c :: rest))
    (last : ∀ c rest stored, plan.postFilter.matchesName c.name = true →
      layout.found files c = .ok stored → layout.endsAt files pid c = true → motive (c :: rest))
    (go : ∀ c rest stored, plan.postFilter.matchesName c.name = true →
      layout.found files c = .ok stored → layout.endsAt files pid c = false → motive rest →
      motive (c :: rest))
    (containers : List Container) : motive containers := by
  induction containers with
  | nil => exact nil
  | cons c rest ih =>
    cases h : plan.postFilter.matchesName c.name with
    | false => exact skip c rest h ih
    | true =>
      cases hf : layout.found files c with
      | error failure => exact fail c rest failure h hf (by rw [Layout.endsAt, hf])
      | ok stored =>
        cases he : layout.endsAt files pid c with
        | true => exact last c rest stored h hf he
        | false => exact go c rest stored h hf he ih

/-- What a listing leaves behind is what its visits leave behind, one after the other. -/
theorem collectFrom_events (hp : plan.Seeks pid) (containers : List Container) :
    (plan.collectFrom files layout now containers).run.events =
      (plan.visited files layout pid containers).flatMap
        fun c => (layout.correlate files c.id).run.events := by
  induction containers using visit_induction plan files layout pid with
  | nil => rfl
  | skip c rest h ih => rw [collectFrom_skip h, visited_cons_of_skip h, ih]
  | fail c rest failure h hf he =>
    rw [collectFrom_fail h hf, visited_cons_of_end h he, List.flatMap_singleton]
  | last c rest stored h hf he =>
    rw [collectFrom_last hp h hf he, visited_cons_of_end h he, List.flatMap_singleton]
  | go c rest stored h hf he ih =>
    rw [collectFrom_go hp h hf he, visited_cons_of_go h he, List.flatMap_cons, ih]

/-- The result of a listing is decided by the first candidate at which it ends.  Without one, all
candidates have a record, or none has the process id that is looked for. -/
theorem collectFrom_value (hp : plan.Seeks pid) (containers : List Container) :
    match (plan.candidates containers).find? (layout.endsAt files pid) with
    | none =>
      if pid.isEmpty then
        ∃ records, (plan.collectFrom files layout now containers).run.value = .ok records ∧
          List.Forall₂ (layout.Joins files plan.noTrunc now) (plan.candidates containers) records
      else (plan.collectFrom files layout now containers).run.value = .ok []
    | some c =>
      match layout.found files c with
      | .error failure =>
        (plan.collectFrom files layout now containers).run.value = .error failure ∧
          ∃ cause, failure = .storage cause
      | .ok stored =>
        pid.isEmpty = false ∧ (plan.collectFrom files layout now containers).run.value =
          .ok [Record.assemble c stored plan.noTrunc now] := by
  induction containers using visit_induction plan files layout pid with
  | nil =>
    by_cases hpid : pid.isEmpty
    · simp only [candidates, List.filter_nil, List.find?_nil, hpid, if_true]
      exact ⟨[], rfl, .nil⟩
    · simp only [candidates, List.filter_nil, List.find?_nil, hpid, if_false, Bool.false_eq_true]
      rfl
  | skip c rest h ih =>
    rw [collectFrom_skip h, candidates_cons_of_skip h]
    exact ih
  | fail c rest failure h hf he =>
    rw [candidates_cons_of_match h, List.find?_cons_of_pos he]
    simp only [hf]
    rw [collectFrom_fail h hf]
    exact ⟨rfl, Layout.correlate_error hf⟩
  | last c rest stored h hf he =>
    have hpid : pid.isEmpty = false := by
      rw [Layout.endsAt, hf] at he
      simp only [Bool.and_eq_true, Bool.not_eq_true'] at he
      exact he.1
    rw [candidates_cons_of_match h, List.find?_cons_of_pos he]
    simp only [hf]
    rw [collectFrom_last hp h hf he]
    exact ⟨hpid, rfl⟩
  | go c rest stored h hf he ih =>
    rw [candidates_cons_of_match h,
      List.find?_cons_of_neg (by rw [he]; exact Bool.false_ne_true), collectFrom_go hp h hf he]
    by_cases hpid : pid.isEmpty
    · simp only [hpid, if_true] at ih ⊢
      cases hfind : (plan.candidates rest).find? (layout.endsAt files pid) with
      | none =>
        rw [hfind] at ih
        obtain ⟨records, hr, hj⟩ := ih
        rw [hr]
        exact ⟨_, rfl, .cons ⟨stored, hf, rfl⟩ hj⟩
      | some d =>
        rw [hfind] at ih
        cases hd : layout.found files d with
        | error failure =>
          simp only [hd] at ih ⊢
          rw [ih.1]
          exact ⟨rfl, ih.2⟩
        | ok _ =>
          simp only [hd] at ih
          exact absurd ih.1 (by simp)
    · simp only [hpid, if_false, Bool.false_eq_true] at ih ⊢
      exact ih

/-! ## From the options and the answer -/

theorem pid?_of_postFilter {name pid : String} {filter : PostFilter}
    (h : PostFilter.of name pid = .ok filter) :
    filter.pid? = if pid.isEmpty then none else some pid := by
  unfold PostFilter.of at h
  by_cases hn : name.isEmpty
  · rw [if_pos hn] at h
    cases h
    rfl
  · rw [if_neg hn] at h
    cases hp : Pattern.parse? name with
    | none =>
      rw [hp] at h
      cases h
    | some pattern =>
      rw [hp] at h
      cases h
      rfl

/-- The parts of a valid plan are what its options make sense as. -/
theorem of_eq_ok_iff {options : ListOptions} : ListPlan.of options = .ok plan ↔
    ContainerFilter.of options.all options.state = .ok plan.filter ∧
      PostFilter.of options.name options.pid = .ok plan.postFilter ∧
      options.noTrunc = plan.noTrunc ∧ OutputFormat.ofName options.output = .ok plan.format := by
  unfold ListPlan.of
  simp only [bind_eq_ok_iff]
  constructor
  · rintro ⟨_, hs, _, hf, _, ho, hplan⟩
    cases hplan
    exact ⟨hs, hf, rfl, ho⟩
  · rintro ⟨hs, hf, hn, ho⟩
    refine ⟨_, hs, _, hf, _, ho, ?_⟩
    rw [hn]
    rfl

/-- What a valid plan takes over from its options. -/
theorem of_valid {options : ListOptions} (valid : ListPlan.of options = .ok plan) :
    plan.Seeks options.pid ∧ plan.noTrunc = options.noTrunc := by
  obtain ⟨-, hf, hn, -⟩ := of_eq_ok_iff.mp valid
  exact ⟨pid?_of_postFilter hf, hn.symm⟩

theorem run_collect_of_error {runtime : Runtime} {status : Status}
    (h : runtime.answer plan.filter = .error status) :
    (plan.collect files layout now runtime).run =
      ⟨[.request plan.filter], .error (.transport status)⟩ := by
  rw [collect, Traced.run_lift_bind]
  simp only [Traced.request, h]
  rfl

theorem run_collect_of_ok {runtime : Runtime} {containers : List Container}
    (h : runtime.answer plan.filter = .ok containers) :
    (plan.collect files layout now runtime).run =
      ⟨.request plan.filter :: (plan.collectFrom files layout now containers).run.events,
        (plan.collectFrom files layout now containers).run.value⟩ := by
  rw [collect, Traced.run_lift_bind]
  simp only [Traced.request, h]
  rfl

theorem collect_answer {options : ListOptions} (valid : ListPlan.of options = .ok plan)
    (files : FileSystem) (layout : Layout) (now : Int) (runtime : Runtime) :
    match runtime.answer plan.filter with
    | .error status =>
      (plan.collect files layout now runtime).run.value = .error (.transport status) ∧
        (plan.collect files layout now runtime).run.reads = [] ∧
        (plan.collect files layout now runtime).run.warnings = []
    | .ok containers =>
      let run := (plan.collect files layout now runtime).run
      let V := plan.candidates containers
      let k := V.findIdx (layout.endsAt files options.pid)
      run.warnings = (V.take (k + 1)).flatMap
          (fun c => (layout.correlate files c.id).run.warnings) ∧
        run.reads = (V.take (k + 1)).flatMap
          (fun c => (layout.correlate files c.id).run.reads) ∧
        match V[k]? with
        | none =>
          if options.pid.isEmpty then
            ∃ records, run.value = .ok records ∧
              List.Forall₂ (layout.Joins files options.noTrunc now) V records
          else run.value = .ok []
        | some c =>
          match layout.found files c with
          | .error failure =>
            run.value = .error failure ∧ ∃ cause, failure = .storage cause
          | .ok stored =>
            options.pid.isEmpty = false ∧
              run.value = .ok [Record.assemble c stored options.noTrunc now] := by
  obtain ⟨hp, hn⟩ := of_valid valid
  cases ha : runtime.answer plan.filter with
  | error status =>
    rw [run_collect_of_error ha]
    exact ⟨rfl, rfl, rfl⟩
  | ok containers =>
    have hevents : (plan.collect files layout now runtime).run.events =
        .request plan.filter :: (plan.visited files layout options.pid containers).flatMap
          fun c => (layout.correlate files c.id).run.events := by
      rw [run_collect_of_ok ha, ← collectFrom_events hp]
    refine ⟨?_, ?_, ?_⟩
    · show (plan.collect files layout now runtime).run.events.filterMap _ = _
      rw [hevents, List.filterMap_cons, List.filterMap_flatMap]
      rfl
    · show (plan.collect files layout now runtime).run.events.filterMap _ = _
      rw [hevents, List.filterMap_cons, List.filterMap_flatMap]
      rfl
    · have hv := @collectFrom_value plan files layout options.pid now hp containers
      rw [List.find?_eq_getElem?_findIdx] at hv
      rw [run_collect_of_ok ha, ← hn]
      exact hv

/-- A container behind the one that is looked for may be broken. -/
theorem collect_answer_broken_behind :
    let plan : ListPlan := ⟨{ state := some .running }, ⟨none, some "7"⟩, false, .table⟩
    let files : FileSystem := ⟨fun path => .ok (Utf8.encode
      (if path = "r/b/userdata/state.json" then "\x7b\"pid\":7\x7d" else "\x7b\x7d"))⟩
    let found : Container := ⟨"b", some "web", 1, 0⟩
    let runtime : Runtime := ⟨fun _ => .ok [⟨"a", none, 1, 0⟩, found, ⟨"..", none, 1, 0⟩]⟩
    ListPlan.of { pid := "7" } = .ok plan ∧
      (plan.collect files ⟨"r"⟩ 0 runtime).run.value =
        .ok [⟨"b", "Less than a second ago", "running", "web", "7", "", ""⟩] := by
  intro plan files found runtime
  have valid : ListPlan.of { pid := "7" } = .ok plan := rfl
  have h := (collect_answer valid files ⟨"r"⟩ 0 runtime).2.2
  have hk : (plan.candidates [⟨"a", none, 1, 0⟩, found, ⟨"..", none, 1, 0⟩]).findIdx
      (Layout.endsAt ⟨"r"⟩ files "7") = 1 := by decide +kernel
  have hc : (plan.candidates [⟨"a", none, 1, 0⟩, found, ⟨"..", none, 1, 0⟩])[1]? = some found :=
    rfl
  have hf : Layout.found ⟨"r"⟩ files found = .ok ⟨"b", some "7", none, none⟩ := by decide +kernel
  rw [hk, hc] at h
  simp only [hf] at h
  exact ⟨valid, h.2.trans (by decide +kernel)⟩

end ListPlan
end ContainerRoster
