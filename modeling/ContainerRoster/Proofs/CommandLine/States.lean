import ContainerRoster.Proofs.CommandLine.Stages
import ContainerRoster.Proofs.Listing.Selection

/-!
# Listing the containers in one state

A state is asked of the runtime by its number and shown by its label.  `listed_by_state`: a listing
of one state is what the listing of all states shows under its label, as no two states share a label
or a number.  It asks storage about fewer containers, so it succeeds where the listing of all does,
though not the other way round.  This is for runtimes whose containers all have a number that stands
for a state: one that stands for none is shown as unknown, but not found as such.
-/

namespace ContainerRoster

/-! ## Labels and numbers -/

namespace ContainerState

/-- A text in lower case, but for the characters whose lower case no label can hold: they stay as
they are, and no label holds them either. -/
def lowered (text : String) : String := String.ofList (text.toList.map lower)

def labels : List String := ["created", "running", "exited", "unknown"]

variable {s t : ContainerState} {text : String}

theorem label_injective (h : s.label = t.label) : s = t := by
  have hs := ofLabel?_label s
  rw [h, ofLabel?_label] at hs
  exact (Option.some.inj hs).symm

theorem code_injective (h : s.code = t.code) : s = t := by
  have hs := ofCode_code s
  rw [h, ofCode_code] at hs
  exact hs.symm

/-- A container in a known state shows a label exactly if it has the number of that state. -/
theorem beq_label_ofCode_code (s t : ContainerState) :
    ((ofCode s.code).label == t.label) = (s.code == t.code) := by
  rw [ofCode_code, Bool.eq_iff_iff, beq_iff_eq, beq_iff_eq]
  exact ⟨fun h => congrArg code (label_injective h), fun h => congrArg label (code_injective h)⟩

theorem mem_all (state : ContainerState) : state ∈ all := by
  cases state <;> decide

theorem mem_labels_iff : text ∈ labels ↔ ∃ state : ContainerState, state.label = text := by
  rw [show labels = all.map label from rfl, List.mem_map]
  simp only [mem_all, true_and]

/-- A text names the state whose label it is in lower case, and no other. -/
theorem ofLabel?_eq_some_iff : ofLabel? text = some s ↔ lowered text = s.label := by
  have hlower : ∀ state : ContainerState,
      (state.label.toList == text.toList.map lower) = true ↔ lowered text = state.label := by
    intro state
    rw [beq_iff_eq, lowered, ← String.toList_inj, String.toList_ofList]
    exact eq_comm
  unfold ofLabel?
  constructor
  · intro h
    have hs := List.find?_some h
    exact (hlower s).mp hs
  · intro h
    cases hf : all.find? fun state => state.label.toList == text.toList.map lower with
    | none => exact absurd ((hlower s).mpr h) (List.find?_eq_none.mp hf s (mem_all s))
    | some found =>
      have hfound := List.find?_some hf
      rw [label_injective (((hlower found).mp hfound).symm.trans h)]

theorem ofLabel?_eq_none_iff : ofLabel? text = none ↔ lowered text ∉ labels := by
  rw [mem_labels_iff, Option.eq_none_iff_forall_ne_some, not_exists]
  exact forall_congr' fun state => not_congr (ofLabel?_eq_some_iff.trans eq_comm)

end ContainerState

/-- Whether a runtime answers a request for the containers in a state with those of some containers,
in order, and a request for the containers in any state with all of them. -/
def Runtime.Holds (runtime : Runtime) (containers : List Container) : Prop :=
  ∀ state, runtime.answer { state } = (Runtime.holding containers).answer { state }

/-! ## Plans of one state -/

/-- The options that ask for all containers or for those in a state, and are otherwise the same. -/
def ListOptions.asking (options : ListOptions) (all : Bool) (state : String) : ListOptions :=
  { options with all, state }

namespace ListPlan

open ContainerState (lowered labels)

variable {plan : ListPlan} {options : ListOptions} {files : FileSystem} {layout : Layout}
  {now : Int} {runtime : Runtime} {containers : List Container} {records : List Record}
  {state : ContainerState}

/-- The plan for the containers in one state that is otherwise the same. -/
def ofState (plan : ListPlan) (state : ContainerState) : ListPlan :=
  { plan with filter := { state := some state } }

theorem filter_of_all (valid : ListPlan.of (options.asking true "") = .ok plan) :
    plan.filter = {} :=
  (Except.ok.inj (of_eq_ok_iff.mp valid).1).symm

theorem filter_of_label {text : String} (named : lowered text = state.label) (all : Bool) :
    ContainerFilter.of all text = .ok { state := some state } := by
  have hstate : ContainerState.ofLabel? text = some state :=
    ContainerState.ofLabel?_eq_some_iff.mpr named
  have hne : ¬ text.isEmpty := by
    intro he
    rw [String.isEmpty_iff.mp he] at hstate
    cases hstate
  rw [ContainerFilter.of, if_neg hne, hstate]

/-- A state that is given decides what is asked for, with and without a request for all. -/
theorem of_asking {text : String} (named : lowered text = state.label)
    (valid : ListPlan.of (options.asking true "") = .ok plan) (all : Bool) :
    ListPlan.of (options.asking all text) = .ok (plan.ofState state) :=
  of_eq_ok_iff.mpr ⟨filter_of_label named all, (of_eq_ok_iff.mp valid).2⟩

/-- Only running containers are asked for where nothing is said of it. -/
theorem of_asking_nothing (options : ListOptions) (all : Bool) :
    ListPlan.of (options.asking false "") = ListPlan.of (options.asking all "running") := by
  have hrunning : ContainerFilter.of all "running" = .ok { state := some .running } :=
    filter_of_label (by decide) all
  unfold ListPlan.of
  show (ContainerFilter.of false "" >>= _) = (ContainerFilter.of all "running" >>= _)
  rw [hrunning]
  rfl

/-- A text that is no label in lower case is refused before anything else is looked at. -/
theorem of_invalidState (given : options.state ≠ "") (unknown : lowered options.state ∉ labels) :
    ListPlan.of options = .error (.invalidState options.state) := by
  have hne : ¬ options.state.isEmpty := fun he => given (String.isEmpty_iff.mp he)
  unfold ListPlan.of
  rw [ContainerFilter.of, if_neg hne, ContainerState.ofLabel?_eq_none_iff.mpr unknown]
  rfl

/-! ## Listings of one state -/

/-- A listing of one state shows what the listing of all shows under its label. -/
theorem collect_ofState (holds : runtime.Holds containers)
    (known : ∀ c ∈ containers, ∃ state : ContainerState, c.state = state.code)
    (hall : plan.filter = {}) (hpid : plan.postFilter.pid? = none)
    (listed : (plan.collect files layout now runtime).run.value = .ok records) :
    ((plan.ofState state).collect files layout now runtime).run.value =
      .ok (records.filter fun r => r.state == state.label) := by
  obtain ⟨answered, shown, ha, hs, rfl⟩ := value_collect_iff.mp listed
  have hanswered : answered = containers := by
    rw [hall, holds none] at ha
    exact (Except.ok.inj ha).symm
  subst hanswered
  refine value_collect_iff.mpr ⟨_, _, holds (some state),
    hs.filter_of_pid?_eq_none hpid fun c => c.state == state.code, ?_⟩
  rw [List.filter_map]
  congr 1
  apply List.filter_congr
  intro s hmem
  obtain ⟨t, ht⟩ := known s.1 (hs.sublist.subset (List.mem_map_of_mem hmem))
  show ((ContainerState.ofCode s.1.state).label == state.label) = (s.1.state == state.code)
  rw [ht, ContainerState.beq_label_ofCode_code]

theorem listed_by_state (options : ListOptions) :
    (∀ (runtime : Runtime) (containers : List Container) (files : FileSystem) (layout : Layout)
        (now : Int) (plan : ListPlan) (records : List Record),
      runtime.Holds containers →
      (∀ c ∈ containers, ∃ state : ContainerState, c.state = state.code) →
      options.pid = "" →
      ListPlan.of (options.asking true "") = .ok plan →
      (plan.collect files layout now runtime).run.value = .ok records →
      ∀ (all : Bool) (text : String), lowered text ∈ labels →
        ∃ plan', ListPlan.of (options.asking all text) = .ok plan' ∧
          plan'.format = plan.format ∧
          (plan'.collect files layout now runtime).run.value =
            .ok (records.filter fun r => r.state == lowered text)) ∧
    (∀ (call : Invocation) (host : Host) (all : Bool),
      (call.ps (options.asking false "")).execute host =
        (call.ps (options.asking all "running")).execute host) ∧
    (∀ (call : Invocation) (host : Host), options.state ≠ "" → lowered options.state ∉ labels →
      ((call.ps options).execute host).run = ⟨[], .error (.invalidState options.state)⟩) := by
  refine ⟨?_, ?_, ?_⟩
  · intro runtime containers files layout now plan records holds known noPid valid listed all text
      named
    obtain ⟨state, hstate⟩ := ContainerState.mem_labels_iff.mp named
    have hpid : plan.postFilter.pid? = none := by
      rw [pid?_of_postFilter (of_eq_ok_iff.mp valid).2.1]
      exact if_pos (String.isEmpty_iff.mpr noPid)
    refine ⟨plan.ofState state, of_asking hstate.symm valid all, rfl, ?_⟩
    rw [← hstate]
    exact collect_ofState holds known (filter_of_all valid) hpid listed
  · intro call host all
    show (call.ps _).execute host = _
    simp only [Invocation.execute, Invocation.ps, of_asking_nothing options all]
  · intro call host given unknown
    exact Invocation.run_execute_of_plan_error (of_invalidState given unknown)

/-- A state is found by its label in any case, also one with the Kelvin sign for its letter. -/
theorem listed_by_state_unknown :
    let containers : List Container :=
      [⟨"a", some "web", 3, 0⟩, ⟨"b", some "db", 1, 0⟩, ⟨"c", none, 3, 0⟩]
    let files : FileSystem := ⟨fun _ => .ok (Utf8.encode "\x7b\x7d")⟩
    let options : ListOptions := {}
    (∀ c ∈ containers, ∃ state : ContainerState, c.state = state.code) ∧
      ∃ plan, ListPlan.of (options.asking false "UN\u212aNOWN") = .ok plan ∧
        (plan.collect files ⟨"r"⟩ 0 (Runtime.holding containers)).run.value =
          .ok [⟨"a", "Less than a second ago", "unknown", "web", "", "", ""⟩,
            ⟨"c", "Less than a second ago", "unknown", "", "", "", ""⟩] := by
  intro containers files options
  have known : ∀ c ∈ containers, ∃ state : ContainerState, c.state = state.code := by
    intro c hc
    simp only [containers, List.mem_cons, List.not_mem_nil, or_false] at hc
    rcases hc with rfl | rfl | rfl
    exacts [⟨.unknown, rfl⟩, ⟨.running, rfl⟩, ⟨.unknown, rfl⟩]
  let planOfAll : ListPlan := ⟨{}, ⟨none, none⟩, false, .table⟩
  have listed :
      (planOfAll.collect files ⟨"r"⟩ 0 (Runtime.holding containers)).run.value =
        .ok [⟨"a", "Less than a second ago", "unknown", "web", "", "", ""⟩,
          ⟨"b", "Less than a second ago", "running", "db", "", "", ""⟩,
          ⟨"c", "Less than a second ago", "unknown", "", "", "", ""⟩] := by
    decide +kernel
  obtain ⟨plan, valid, -, hplan⟩ := (listed_by_state options).1 (Runtime.holding containers)
    containers files ⟨"r"⟩ 0 planOfAll _ (fun _ => rfl) known rfl rfl listed false "UN\u212aNOWN"
    (by decide)
  exact ⟨known, plan, valid, hplan.trans (by decide +kernel)⟩

end ListPlan

end ContainerRoster
