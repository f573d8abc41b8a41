import ContainerRoster.Traced
import Mathlib.Data.List.Forall2

/-!
# Runs that may fail

A run that may fail leaves its trace behind also when it does.  The lemmas below open a sequence of
two such runs at the result of the first, so that no later proof looks inside the transformer.
Before them stand the same for steps without a trace.
-/

namespace ContainerRoster

variable {ε α β : Type}

/-- Two steps succeed together exactly if the first does and the second does with its result. -/
theorem bind_eq_ok_iff {x : Except ε α} {f : α → Except ε β} {b : β} :
    (x >>= f) = .ok b ↔ ∃ a, x = .ok a ∧ f a = .ok b := by
  cases x with
  | error e =>
    constructor
    · intro h
      cases h
    · rintro ⟨_, h, -⟩
      cases h
  | ok a =>
    constructor
    · intro h
      exact ⟨a, rfl, h⟩
    · rintro ⟨_, h, hf⟩
      cases h
      exact hf

theorem bind_eq_error_iff {x : Except ε α} {f : α → Except ε β} {e : ε} :
    (x >>= f) = .error e ↔ x = .error e ∨ ∃ a, x = .ok a ∧ f a = .error e := by
  cases x with
  | error e' =>
    show Except.error e' = .error e ↔ _
    simp
  | ok a =>
    show f a = .error e ↔ _
    simp

/-- A step for every member of a list succeeds exactly if each of them does. -/
theorem mapM_eq_ok_iff {f : α → Except ε β} {xs : List α} {ys : List β} :
    xs.mapM f = .ok ys ↔ List.Forall₂ (fun x y => f x = .ok y) xs ys := by
  induction xs generalizing ys with
  | nil =>
    show Except.ok [] = .ok ys ↔ _
    rw [List.forall₂_nil_left_iff, Except.ok.injEq, eq_comm]
  | cons x xs ih =>
    rw [List.mapM_cons, bind_eq_ok_iff, List.forall₂_cons_left_iff]
    simp only [bind_eq_ok_iff, ih]
    constructor
    · rintro ⟨y, hy, rest, hrest, h⟩
      cases h
      exact ⟨y, rest, hy, hrest, rfl⟩
    · rintro ⟨y, rest, hy, hrest, rfl⟩
      exact ⟨y, hy, rest, hrest, rfl⟩

theorem exists_mapM_eq_ok_iff {f : α → Except ε β} {xs : List α} :
    (∃ ys, xs.mapM f = .ok ys) ↔ ∀ x ∈ xs, ∃ y, f x = .ok y := by
  simp only [mapM_eq_ok_iff]
  induction xs with
  | nil => exact ⟨fun _ => nofun, fun _ => ⟨[], .nil⟩⟩
  | cons x xs ih =>
    rw [List.forall_mem_cons, ← ih]
    simp only [List.forall₂_cons_left_iff]
    constructor
    · rintro ⟨_, y, rest, hy, hrest, rfl⟩
      exact ⟨⟨y, hy⟩, rest, hrest⟩
    · rintro ⟨⟨y, hy⟩, rest, hrest⟩
      exact ⟨_, y, rest, hy, hrest, rfl⟩

/-- It fails with the first failure among them. -/
theorem mapM_eq_error_iff {f : α → Except ε β} {xs : List α} {e : ε} :
    xs.mapM f = .error e ↔ ∃ before x behind, xs = before ++ x :: behind ∧
      (∀ a ∈ before, ∃ b, f a = .ok b) ∧ f x = .error e := by
  induction xs with
  | nil =>
    refine ⟨fun h => (nomatch h), ?_⟩
    rintro ⟨before, x, behind, h, -⟩
    simp at h
  | cons x xs ih =>
    rw [List.mapM_cons, bind_eq_error_iff]
    simp only [bind_eq_error_iff, ih]
    constructor
    · rintro (hx | ⟨b, hx, ⟨before, y, behind, rfl, hbefore, hy⟩ | ⟨_, -, h⟩⟩)
      · exact ⟨[], x, xs, rfl, nofun, hx⟩
      · exact ⟨x :: before, y, behind, rfl, List.forall_mem_cons.mpr ⟨⟨b, hx⟩, hbefore⟩, hy⟩
      · cases h
    · rintro ⟨before, y, behind, h, hbefore, hy⟩
      cases before with
      | nil =>
        cases h
        exact .inl hy
      | cons a before =>
        cases h
        obtain ⟨⟨b, hb⟩, hbefore⟩ := List.forall_mem_cons.mp hbefore
        exact .inr ⟨b, hb, .inl ⟨before, y, behind, rfl, hbefore, hy⟩⟩

theorem map_eq_ok_iff {x : Except ε α} {f : α → β} {b : β} :
    x.map f = .ok b ↔ ∃ a, x = .ok a ∧ f a = b := by
  cases x <;> simp [Except.map]

namespace Traced

@[simp] theorem run_pure (a : α) : (Pure.pure a : ExceptT ε Traced α).run = ⟨[], .ok a⟩ := rfl

@[simp] theorem run_throw (e : ε) : (throw e : ExceptT ε Traced α).run = ⟨[], .error e⟩ := rfl

theorem run_bind (x : ExceptT ε Traced α) (f : α → ExceptT ε Traced β) :
    (x >>= f).run = ⟨x.run.events ++ (ExceptT.bindCont f x.run.value).events,
      (ExceptT.bindCont f x.run.value).value⟩ := rfl

/-- Behind a run that succeeds stands the trace of the next one. -/
theorem run_bind_ok {x : ExceptT ε Traced α} {a : α} (h : x.run.value = .ok a)
    (f : α → ExceptT ε Traced β) :
    (x >>= f).run = ⟨x.run.events ++ (f a).run.events, (f a).run.value⟩ := by
  rw [run_bind, h]
  rfl

/-- A run that fails is the last one. -/
theorem run_bind_error {x : ExceptT ε Traced α} {e : ε} (h : x.run.value = .error e)
    (f : α → ExceptT ε Traced β) : (x >>= f).run = ⟨x.run.events, .error e⟩ := by
  have hb : ExceptT.bindCont f (.error e) = ExceptT.run (throw e : ExceptT ε Traced β) := rfl
  rw [run_bind, h, hb, run_throw, List.append_nil]

theorem run_map (f : α → β) (x : ExceptT ε Traced α) :
    (f <$> x).run = ⟨x.run.events, x.run.value.map f⟩ := by
  rw [map_eq_pure_bind]
  cases h : x.run.value with
  | error e => exact run_bind_error h _
  | ok a =>
    rw [run_bind_ok h, run_pure, List.append_nil]
    rfl

/-- A check that passes leaves no trace. -/
theorem run_check_bind_ok {r : Except ε α} {a : α} (h : r = .ok a)
    (f : α → ExceptT ε Traced β) : (ExceptT.mk (Pure.pure r : Traced _) >>= f).run = (f a).run := by
  subst h
  exact run_bind_ok rfl f

/-- A check that fails ends the run with its failure and no trace. -/
theorem run_check_bind_error {r : Except ε α} {e : ε} (h : r = .error e)
    (f : α → ExceptT ε Traced β) :
    (ExceptT.mk (Pure.pure r : Traced _) >>= f).run = ⟨[], .error e⟩ := by
  subst h
  exact run_bind_error rfl f

theorem reads_run_bind_ok {x : ExceptT ε Traced α} {a : α} (h : x.run.value = .ok a)
    (f : α → ExceptT ε Traced β) : (x >>= f).run.reads = x.run.reads ++ (f a).run.reads := by
  rw [run_bind_ok h]
  exact List.filterMap_append

theorem reads_run_bind_error {x : ExceptT ε Traced α} {e : ε} (h : x.run.value = .error e)
    (f : α → ExceptT ε Traced β) : (x >>= f).run.reads = x.run.reads := by
  rw [run_bind_error h]
  rfl

theorem requests_run_bind_ok {x : ExceptT ε Traced α} {a : α} (h : x.run.value = .ok a)
    (f : α → ExceptT ε Traced β) :
    (x >>= f).run.requests = x.run.requests ++ (f a).run.requests := by
  rw [run_bind_ok h]
  exact List.filterMap_append

theorem requests_run_bind_error {x : ExceptT ε Traced α} {e : ε} (h : x.run.value = .error e)
    (f : α → ExceptT ε Traced β) : (x >>= f).run.requests = x.run.requests := by
  rw [run_bind_error h]
  rfl

/-- A sequence of runs that send nothing sends nothing. -/
theorem requests_run_bind_eq_nil {x : ExceptT ε Traced α} {f : α → ExceptT ε Traced β}
    (hx : x.run.requests = []) (hf : ∀ a, (f a).run.requests = []) :
    (x >>= f).run.requests = [] := by
  cases h : x.run.value with
  | error e => rw [requests_run_bind_error h, hx]
  | ok a => rw [requests_run_bind_ok h, hx, hf a, List.nil_append]

theorem warnings_read_told (path : String) (told : List Warning) (a : α) :
    (⟨.read path :: told.map .warn, a⟩ : Traced α).warnings = told := by
  show (⟨told.map .warn, a⟩ : Traced α).warnings = told
  rw [warnings, List.filterMap_map]
  exact List.filterMap_some

/-- Warnings behind a read are told before those of the rest. -/
theorem warnings_read_append (path : String) (told : List Warning) (rest : List Event) (a : α) :
    (⟨.read path :: told.map .warn ++ rest, a⟩ : Traced α).warnings =
      told ++ (⟨rest, a⟩ : Traced α).warnings :=
  List.filterMap_append.trans (congrArg (· ++ _) (warnings_read_told path told a))

/-- A step that cannot fail only adds its trace. -/
theorem run_lift_bind (x : Traced α) (f : α → ExceptT ε Traced β) :
    ((x : ExceptT ε Traced α) >>= f).run =
      ⟨x.events ++ (f x.value).run.events, (f x.value).run.value⟩ := by
  rw [run_bind_ok (a := x.value) rfl]
  show Traced.mk ((x.events ++ []) ++ _) _ = _
  rw [List.append_nil]

end Traced
end ContainerRoster
