import ContainerRoster.Proofs.Listing.Visited

/-!
# Selecting containers

Which containers a listing shows is settled by the name and process id that are looked for and by
storage, before any record is made.  `collectFrom_eq_map_select` splits a listing into this
selection and the records made of it.  What only the records depend on, such as how ids are shown,
thus has no part in what is read, told or refused.

A selection that succeeds is described by `Selects`, one way of going on at a time.
`value_select_iff` says that the two are the same, so facts about selections are inductions on
`Selects`.
-/

namespace ContainerRoster
namespace PostFilter

/-- The containers that are shown, each with what storage tells about it. -/
def select (filter : PostFilter) (files : FileSystem) (layout : Layout) :
    List Container → ExceptT Failure Traced (List (Container × StorageRecord))
  | [] => return []
  | c :: rest =>
    if filter.matchesName c.name then do
      let stored ← layout.correlate files c.id
      match filter.checkPid (stored.pid.getD "") with
      | .accept => do
        let selected ← filter.select files layout rest
        return (c, stored) :: selected
      | .reject => filter.select files layout rest
      | .acceptLast => return [(c, stored)]
    else filter.select files layout rest

/-- How the containers of an answer come to be selected. -/
inductive Selects (filter : PostFilter) (files : FileSystem) (layout : Layout) :
    List Container → List (Container × StorageRecord) → Prop
  | nil : Selects filter files layout [] []
  | skip {c rest selected} : filter.matchesName c.name = false →
      Selects filter files layout rest selected → Selects filter files layout (c :: rest) selected
  | accept {c rest stored selected} : filter.matchesName c.name = true →
      layout.found files c = .ok stored → filter.checkPid (stored.pid.getD "") = .accept →
      Selects filter files layout rest selected →
      Selects filter files layout (c :: rest) ((c, stored) :: selected)
  | reject {c rest stored selected} : filter.matchesName c.name = true →
      layout.found files c = .ok stored → filter.checkPid (stored.pid.getD "") = .reject →
      Selects filter files layout rest selected → Selects filter files layout (c :: rest) selected
  | last {c rest stored} : filter.matchesName c.name = true →
      layout.found files c = .ok stored → filter.checkPid (stored.pid.getD "") = .acceptLast →
      Selects filter files layout (c :: rest) [(c, stored)]

variable {filter : PostFilter} {files : FileSystem} {layout : Layout} {c : Container}
  {containers rest : List Container} {stored : StorageRecord}
  {selected : List (Container × StorageRecord)}

/-! ## One container -/

theorem select_skip (h : filter.matchesName c.name = false) :
    filter.select files layout (c :: rest) = filter.select files layout rest := by
  rw [select, h]
  rfl

theorem value_select_fail {failure : Failure} (h : filter.matchesName c.name = true)
    (hf : layout.found files c = .error failure) :
    (filter.select files layout (c :: rest)).run.value = .error failure := by
  rw [select, h]
  exact congrArg Traced.value (Traced.run_bind_error hf _)

theorem value_select_ok (h : filter.matchesName c.name = true)
    (hf : layout.found files c = .ok stored) :
    (filter.select files layout (c :: rest)).run.value =
      match filter.checkPid (stored.pid.getD "") with
      | .accept => (filter.select files layout rest).run.value.map ((c, stored) :: ·)
      | .reject => (filter.select files layout rest).run.value
      | .acceptLast => .ok [(c, stored)] := by
  rw [select, h, if_pos rfl, Traced.run_bind_ok hf]
  cases filter.checkPid (stored.pid.getD "") with
  | accept =>
    cases hr : (filter.select files layout rest).run.value with
    | error failure => exact congrArg Traced.value (Traced.run_bind_error hr _)
    | ok selected => exact congrArg Traced.value (Traced.run_bind_ok hr _)
  | reject => rfl
  | acceptLast => rfl

/-! ## A whole answer -/

theorem selects_of_value (h : (filter.select files layout containers).run.value = .ok selected) :
    filter.Selects files layout containers selected := by
  induction containers generalizing selected with
  | nil =>
    cases h
    exact .nil
  | cons c rest ih =>
    cases hm : filter.matchesName c.name with
    | false =>
      rw [select_skip hm] at h
      exact .skip hm (ih h)
    | true =>
      cases hf : layout.found files c with
      | error failure =>
        rw [value_select_fail hm hf] at h
        cases h
      | ok stored =>
        rw [value_select_ok hm hf] at h
        cases hp : filter.checkPid (stored.pid.getD "") with
        | accept =>
          rw [hp] at h
          obtain ⟨later, hr, rfl⟩ := map_eq_ok_iff.mp h
          exact .accept hm hf hp (ih hr)
        | reject =>
          rw [hp] at h
          exact .reject hm hf hp (ih h)
        | acceptLast =>
          rw [hp] at h
          cases h
          exact .last hm hf hp

theorem Selects.value (h : filter.Selects files layout containers selected) :
    (filter.select files layout containers).run.value = .ok selected := by
  induction h with
  | nil => rfl
  | skip hm _ ih => rw [select_skip hm, ih]
  | accept hm hf hp _ ih =>
    rw [value_select_ok hm hf, hp]
    simp only [ih]
    rfl
  | reject hm hf hp _ ih =>
    rw [value_select_ok hm hf, hp]
    exact ih
  | last hm hf hp => rw [value_select_ok hm hf, hp]

theorem value_select_iff : (filter.select files layout containers).run.value = .ok selected ↔
    filter.Selects files layout containers selected :=
  ⟨selects_of_value, Selects.value⟩

/-- The containers that are shown come from the answer, in its order. -/
theorem Selects.sublist (h : filter.Selects files layout containers selected) :
    (selected.map Prod.fst).Sublist containers := by
  induction h with
  | nil => exact .slnil
  | skip _ _ ih => exact ih.cons _
  | accept _ _ _ _ ih => exact ih.cons_cons _
  | reject _ _ _ _ ih => exact ih.cons _
  | last => exact (List.nil_sublist _).cons_cons _

/-- The containers that are shown have passed the checks, with what storage tells about them by
their full id. -/
theorem Selects.forall (h : filter.Selects files layout containers selected) :
    ∀ shown ∈ selected, filter.matchesName shown.1.name = true ∧
      (layout.correlate files shown.1.id).run.value = .ok shown.2 ∧
      filter.checkPid (shown.2.pid.getD "") ≠ .reject := by
  induction h with
  | nil => exact fun shown hs => absurd hs List.not_mem_nil
  | skip _ _ ih => exact ih
  | accept hm hf hp _ ih =>
    refine List.forall_mem_cons.mpr ⟨⟨hm, hf, ?_⟩, ih⟩
    rw [hp]
    exact PidVerdict.noConfusion
  | reject _ _ _ _ ih => exact ih
  | last hm hf hp =>
    refine List.forall_mem_singleton.mpr ⟨hm, hf, ?_⟩
    rw [hp]
    exact PidVerdict.noConfusion

/-- Without a process id to look for, an answer with fewer containers shows fewer, and what it shows
of the others is the same. -/
theorem Selects.filter_of_pid?_eq_none (hpid : filter.pid? = none) (keep : Container → Bool)
    (h : filter.Selects files layout containers selected) :
    filter.Selects files layout (containers.filter keep)
      (selected.filter fun shown => keep shown.1) := by
  have haccept : ∀ p, filter.checkPid p = .accept := by
    intro p
    rw [checkPid, hpid]
  induction h with
  | nil => exact .nil
  | @skip c rest selected hm _ ih =>
    cases hk : keep c with
    | false => rwa [List.filter_cons_of_neg (by simp [hk])]
    | true =>
      rw [List.filter_cons_of_pos hk]
      exact .skip hm ih
  | @accept c rest stored selected hm hf hp _ ih =>
    cases hk : keep c with
    | false => rwa [List.filter_cons_of_neg (by simp [hk]), List.filter_cons_of_neg (by simp [hk])]
    | true =>
      rw [List.filter_cons_of_pos hk, List.filter_cons_of_pos (by simp [hk])]
      exact .accept hm hf hp ih
  | reject _ _ hp =>
    rw [haccept] at hp
    cases hp
  | last _ _ hp =>
    rw [haccept] at hp
    cases hp

end PostFilter

namespace ListPlan

/-- A listing makes a record of every container that is selected, and does nothing else. -/
theorem collectFrom_eq_map_select (plan : ListPlan) (files : FileSystem) (layout : Layout)
    (now : Int) (containers : List Container) :
    plan.collectFrom files layout now containers =
      (List.map fun shown => Record.assemble shown.1 shown.2 plan.noTrunc now) <$>
        plan.postFilter.select files layout containers := by
  induction containers with
  | nil => simp only [collectFrom, PostFilter.select, map_pure, List.map_nil]
  | cons c rest ih =>
    rw [collectFrom, PostFilter.select]
    split
    · rw [map_bind]
      congr 1
      funext stored
      cases plan.postFilter.checkPid (stored.pid.getD "") with
      | accept => simp [ih]
      | reject => exact ih
      | acceptLast => simp only [map_pure, List.map_cons, List.map_nil]
    · exact ih

/-- A listing, by its request and its selection. -/
theorem run_collect_eq_select (plan : ListPlan) (files : FileSystem) (layout : Layout) (now : Int)
    (runtime : Runtime) :
    (plan.collect files layout now runtime).run =
      match runtime.answer plan.filter with
      | .error status => ⟨[.request plan.filter], .error (.transport status)⟩
      | .ok containers =>
        let selection := (plan.postFilter.select files layout containers).run
        ⟨.request plan.filter :: selection.events, selection.value.map
          (List.map fun shown => Record.assemble shown.1 shown.2 plan.noTrunc now)⟩ := by
  cases ha : runtime.answer plan.filter with
  | error status => rw [run_collect_of_error ha]
  | ok containers => rw [run_collect_of_ok ha, collectFrom_eq_map_select, Traced.run_map]

/-- A listing that succeeds was answered, and shows what is selected from the answer. -/
theorem value_collect_iff {plan : ListPlan} {files : FileSystem} {layout : Layout} {now : Int}
    {runtime : Runtime} {records : List Record} :
    (plan.collect files layout now runtime).run.value = .ok records ↔
      ∃ containers shown, runtime.answer plan.filter = .ok containers ∧
        plan.postFilter.Selects files layout containers shown ∧
        records = shown.map fun s => Record.assemble s.1 s.2 plan.noTrunc now := by
  rw [run_collect_eq_select]
  cases runtime.answer plan.filter with
  | error status =>
    constructor
    · intro h
      cases h
    · rintro ⟨_, _, h, -⟩
      cases h
  | ok containers =>
    constructor
    · intro h
      obtain ⟨shown, hs, rfl⟩ := map_eq_ok_iff.mp h
      exact ⟨containers, shown, rfl, PostFilter.value_select_iff.mp hs, rfl⟩
    · rintro ⟨_, shown, h, hs, rfl⟩
      cases h
      exact map_eq_ok_iff.mpr ⟨shown, hs.value, rfl⟩

end ListPlan
end ContainerRoster
