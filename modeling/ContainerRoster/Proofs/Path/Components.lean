import ContainerRoster.Path

/-!
# Components of joined paths

A path that does not start at the root leads on from wherever it is joined to:
`components_join_of_not_isAbsolute` says that its steps come behind the components of the base.  The
plain names are those that a path can be extended by without leading anywhere else: they add one
component and nothing else, whatever the base is (`components_join`).
`components_eq_singleton_iff` says that they are also the only texts that are themselves the only
component of the path they spell.
-/

namespace ContainerRoster
namespace Path

/-- A name of a directory entry. -/
def IsPlain (name : String) : Prop :=
  name ≠ "" ∧ '/' ∉ name.toList ∧ name ≠ "." ∧ name ≠ ".."

instance (name : String) : Decidable (IsPlain name) := inferInstanceAs (Decidable (_ ∧ _))

theorem innerComponent?_of_isPlain {name : String} (h : IsPlain name) :
    innerComponent? name = some (.normal name) := by
  obtain ⟨hempty, -, hdot, hdots⟩ := h
  simp only [innerComponent?, beq_iff_eq, hempty, hdot, hdots, Bool.or_eq_true, or_self, if_false]

theorem firstComponent?_of_isPlain {name : String} (h : IsPlain name) :
    firstComponent? name = some (.normal name) := by
  rw [firstComponent?, innerComponent?_of_isPlain h]
  simp only [beq_iff_eq, h.2.2.1, if_false]

theorem innerComponent?_eq_normal {name n : String} (h : innerComponent? name = some (.normal n)) :
    n = name ∧ name ≠ "" ∧ name ≠ "." ∧ name ≠ ".." := by
  unfold innerComponent? at h
  split at h
  · cases h
  · next hne =>
    split at h
    · cases h
    · next hdots =>
      cases h
      simp only [Bool.or_eq_true, beq_iff_eq, not_or] at hne hdots
      exact ⟨rfl, hne.1, hne.2, hdots⟩

theorem firstComponent?_eq_normal {name n : String} (h : firstComponent? name = some (.normal n)) :
    n = name ∧ name ≠ "" ∧ name ≠ "." ∧ name ≠ ".." := by
  unfold firstComponent? at h
  split at h
  · cases h
  · exact innerComponent?_eq_normal h

/-- Only the first name of a path is looked at differently. -/
theorem steps_append {front : List String} (hf : front ≠ []) (more : List String) :
    steps (front ++ more) = steps front ++ more.filterMap innerComponent? := by
  cases front with
  | nil => exact absurd rfl hf
  | cons first rest =>
    rw [List.cons_append, steps, steps, List.filterMap_append, List.append_assoc]

theorem names_ne_nil (path : String) : names path ≠ [] := by
  unfold names
  simp only [ne_eq, List.map_eq_nil_iff]
  exact List.splitOn_ne_nil _ _

theorem notMem_of_mem_splitOn (a : Char) (cs : List Char) : ∀ l ∈ cs.splitOn a, a ∉ l := by
  induction cs with
  | nil => simp
  | cons c rest ih =>
    intro l hl
    rw [List.splitOn_cons_eq_if_modifyHead] at hl
    by_cases hc : c = a
    · simp only [hc, beq_self_eq_true, if_true, List.mem_cons] at hl
      rcases hl with rfl | hl
      · exact List.not_mem_nil
      · exact ih l hl
    · simp only [beq_iff_eq, hc, if_false] at hl
      cases hs : rest.splitOn a with
      | nil => exact absurd hs (List.splitOn_ne_nil _ _)
      | cons first others =>
        rw [hs] at hl ih
        simp only [List.modifyHead_cons, List.mem_cons] at hl
        rcases hl with rfl | hl
        · simp only [List.mem_cons, not_or]
          exact ⟨fun e => hc e.symm, ih first List.mem_cons_self⟩
        · exact ih l (List.mem_cons_of_mem _ hl)

/-- Between slashes there is no slash. -/
theorem slash_notMem_of_mem_names {path name : String} (h : name ∈ names path) :
    '/' ∉ name.toList := by
  obtain ⟨l, hl, rfl⟩ := List.mem_map.mp h
  rw [String.toList_ofList]
  exact notMem_of_mem_splitOn '/' _ l hl

theorem names_of_notMem {name : String} (h : '/' ∉ name.toList) : names name = [name] := by
  rw [names, List.splitOn_eq_singleton h]
  simp

theorem names_append_slash (base path : String) :
    names (base ++ "/" ++ path) = names base ++ names path := by
  have hl : (base ++ "/" ++ path).toList = base.toList ++ '/' :: path.toList := by simp
  rw [names, hl, List.splitOn_append_cons_self, List.map_append, names, names]

theorem isAbsolute_of_notMem {name : String} (h : '/' ∉ name.toList) : isAbsolute name = false := by
  unfold isAbsolute
  cases hl : name.toList with
  | nil => rfl
  | cons c cs =>
    rw [hl] at h
    simp only [List.head?_cons, beq_eq_false_iff_ne, ne_eq, Option.some.injEq]
    exact fun e => h (e ▸ List.mem_cons_self)

theorem isAbsolute_append {base : String} (h : base ≠ "") (rest : String) :
    isAbsolute (base ++ rest) = isAbsolute base := by
  unfold isAbsolute
  cases hl : base.toList with
  | nil => exact absurd (String.toList_eq_nil_iff.mp hl) h
  | cons c cs => simp [hl]

theorem components_of_isPlain {name : String} (h : IsPlain name) :
    components name = [.normal name] := by
  rw [components, isAbsolute_of_notMem h.2.1, names_of_notMem h.2.1, steps,
    firstComponent?_of_isPlain h]
  rfl

/-- Only a plain name is the only component of its own path. -/
theorem components_eq_singleton_iff {name : String} :
    components name = [.normal name] ↔ IsPlain name := by
  refine ⟨fun h => ?_, components_of_isPlain⟩
  have hmem : Component.normal name ∈ components name := h ▸ List.mem_cons_self
  have hs : Component.normal name ∈ steps (names name) := by
    rw [components, List.mem_append] at hmem
    refine hmem.resolve_left fun hroot => ?_
    split at hroot <;> simp at hroot
  cases hn : names name with
  | nil => exact absurd hn (names_ne_nil name)
  | cons first rest =>
    rw [hn, steps, List.mem_append] at hs
    have key : ∃ n ∈ names name, n = name ∧ n ≠ "" ∧ n ≠ "." ∧ n ≠ ".." := by
      rw [hn]
      rcases hs with hs | hs
      · rw [Option.mem_toList] at hs
        obtain ⟨he, h1, h2, h3⟩ := firstComponent?_eq_normal hs
        exact ⟨first, List.mem_cons_self, he.symm, h1, h2, h3⟩
      · obtain ⟨n, hn, hs⟩ := List.mem_filterMap.mp hs
        obtain ⟨he, h1, h2, h3⟩ := innerComponent?_eq_normal hs
        exact ⟨n, List.mem_cons_of_mem _ hn, he.symm, h1, h2, h3⟩
    obtain ⟨n, hmem, rfl, h1, h2, h3⟩ := key
    exact ⟨h1, slash_notMem_of_mem_names hmem, h2, h3⟩

/-- The steps that a path adds to another one. -/
def innerSteps (path : String) : List Component := (names path).filterMap innerComponent?

theorem innerSteps_of_isPlain {name : String} (h : IsPlain name) :
    innerSteps name = [.normal name] := by
  rw [innerSteps, names_of_notMem h.2.1, List.filterMap_cons, innerComponent?_of_isPlain h]
  rfl

theorem innerComponent?_ne_current (name : String) : innerComponent? name ≠ some .current := by
  unfold innerComponent?
  split
  · exact nofun
  · split <;> simp

/-- A path that does not start at the root adds its components, but for a `.` in front. -/
theorem innerSteps_eq_filter {path : String} (h : isAbsolute path = false) :
    innerSteps path = (components path).filter (· ≠ .current) := by
  have hinner : ∀ more : List String,
      (more.filterMap innerComponent?).filter (· ≠ .current) = more.filterMap innerComponent? := by
    intro more
    rw [List.filter_eq_self]
    intro step hstep
    obtain ⟨name, -, hname⟩ := List.mem_filterMap.mp hstep
    rw [decide_eq_true_eq]
    exact fun hcurrent => innerComponent?_ne_current name (hcurrent ▸ hname)
  rw [components, h, if_neg Bool.false_ne_true, List.nil_append, innerSteps]
  cases hn : names path with
  | nil => exact absurd hn (names_ne_nil path)
  | cons first rest =>
    rw [steps, List.filter_append, hinner rest]
    by_cases hdot : first = "."
    · subst hdot
      rfl
    · have hfirst : firstComponent? first = innerComponent? first := by
        rw [firstComponent?, if_neg (by simpa using hdot)]
      rw [hfirst]
      cases hf : innerComponent? first with
      | none => simp [hf]
      | some step =>
        have hstep : step ≠ .current := fun e => innerComponent?_ne_current first (e ▸ hf)
        simp [hf, hstep]

/-- Joining a path that does not start at the root adds its steps behind the components of the
base. -/
theorem components_join_of_not_isAbsolute {base path : String} (hb : base ≠ "")
    (h : isAbsolute path = false) :
    components (join base path) = components base ++ innerSteps path := by
  rw [join, h, if_neg Bool.false_ne_true]
  by_cases hl : base.toList.getLast? = some '/'
  · -- The empty name behind the last slash adds no step.
    obtain ⟨front, rfl⟩ : ∃ front : String, base = front ++ "/" ++ "" := by
      obtain ⟨cs, hcs⟩ := List.getLast?_eq_some_iff.mp hl
      refine ⟨String.ofList cs, String.toList_injective ?_⟩
      simp [hcs]
    have hc : ((front ++ "/" ++ "").isEmpty ||
        (front ++ "/" ++ "").toList.getLast? == some '/') = true := by simp
    have hempty : (names "").filterMap innerComponent? = [] := rfl
    rw [hc, if_pos rfl, components, components, isAbsolute_append hb, names_append_slash,
      String.append_empty, names_append_slash, steps_append (names_ne_nil front),
      steps_append (names_ne_nil front), hempty, List.append_nil, List.append_assoc]
    rfl
  · have hc : (base.isEmpty || base.toList.getLast? == some '/') = false := by
      simp [hb, hl]
    rw [hc, if_neg Bool.false_ne_true, components, components, names_append_slash,
      String.append_assoc, isAbsolute_append hb, steps_append (names_ne_nil base),
      List.append_assoc]
    rfl

/-- Joining a plain name adds one component behind those of the base. -/
theorem components_join {name : String} (h : IsPlain name) (base : String) :
    components (join base name) = components base ++ [.normal name] := by
  by_cases hb : base = ""
  · subst hb
    rw [join, isAbsolute_of_notMem h.2.1, if_neg Bool.false_ne_true, if_pos (by rfl),
      String.empty_append, components_of_isPlain h]
    rfl
  · rw [components_join_of_not_isAbsolute hb (isAbsolute_of_notMem h.2.1),
      innerSteps_of_isPlain h]

/-! ## The text of joined paths -/

theorem join_of_not_isAbsolute {path : String} (h : isAbsolute path = false) (base : String) :
    join base path =
      (if base.isEmpty || base.toList.getLast? == some '/' then base else base ++ "/") ++ path := by
  rw [join, h, if_neg Bool.false_ne_true]
  split <;> rfl

/-- Joining goes on behind a plain name with a slash. -/
theorem join_join {name path : String} (h : IsPlain name) (hp : isAbsolute path = false)
    (base : String) : join (join base name) path = join base (name ++ "/" ++ path) := by
  have hname : isAbsolute name = false := isAbsolute_of_notMem h.2.1
  have hrest : isAbsolute (name ++ "/" ++ path) = false := by
    rw [String.append_assoc, isAbsolute_append h.1, hname]
  rw [join_of_not_isAbsolute hrest, join_of_not_isAbsolute hname, join_of_not_isAbsolute hp]
  generalize (if base.isEmpty || base.toList.getLast? == some '/' then base else base ++ "/") =
    front
  have hne : name.toList ≠ [] := fun e => h.1 (String.toList_eq_nil_iff.mp e)
  have hlast : (front ++ name).toList.getLast? ≠ some '/' := by
    rw [String.toList_append, List.getLast?_append, List.getLast?_eq_some_getLast hne,
      Option.some_or, ← List.getLast?_eq_some_getLast hne]
    exact fun e => h.2.1 (List.mem_of_getLast? e)
  have hempty : (front ++ name).isEmpty = false := by
    rw [String.isEmpty_eq_false_iff]
    exact fun e => hne (by rw [String.append_eq_empty_iff.mp e |>.2]; rfl)
  rw [hempty, Bool.false_or, beq_false_of_ne hlast, if_neg Bool.false_ne_true]
  simp only [String.append_assoc]

end Path
end ContainerRoster
