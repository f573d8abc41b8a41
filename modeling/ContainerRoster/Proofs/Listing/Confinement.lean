import ContainerRoster.Proofs.Listing.Visited

/-!
# Ids do not lead out of their directories

The id of a container comes from the runtime and becomes part of two paths.  `confined` gathers
what that can do: only a plain name gets that far, its paths lead through the directory of all
containers and then one of its own, and the files anywhere else have no influence on what is found
for it.  For a listing this means that two file systems that differ only outside the directories of
the containers visited cannot be told apart.
-/

namespace ContainerRoster

/-- Two file systems that answer alike when the documents of an id are read. -/
def Layout.Agree (layout : Layout) (files files' : FileSystem) (id : String) : Prop :=
  files.read (layout.configPath id) = files'.read (layout.configPath id) ∧
    files.read (layout.statePath id) = files'.read (layout.statePath id)

namespace ListPlan

variable {plan : ListPlan} {files files' : FileSystem} {layout : Layout} {pid : String}
  {now : Int}

/-- A listing depends on the files only through the documents of the containers it visits. -/
theorem run_collectFrom_congr (hp : plan.Seeks pid) {containers : List Container}
    (h : ∀ c ∈ plan.visited files layout pid containers, Path.IsPlain c.id →
      layout.Agree files files' c.id) :
    (plan.collectFrom files layout now containers).run =
      (plan.collectFrom files' layout now containers).run := by
  have same : ∀ c, (Path.IsPlain c.id → layout.Agree files files' c.id) →
      layout.correlate files' c.id = layout.correlate files c.id ∧
        layout.found files' c = layout.found files c ∧
        layout.endsAt files' pid c = layout.endsAt files pid c := by
    intro c hc
    have hcorrelate := (Layout.correlate_congr hc).symm
    have hfound : layout.found files' c = layout.found files c := by
      rw [Layout.found, Layout.found, hcorrelate]
    exact ⟨hcorrelate, hfound, by rw [Layout.endsAt, Layout.endsAt, hfound]⟩
  induction containers using visit_induction plan files layout pid with
  | nil => rfl
  | skip c rest hm ih =>
    rw [visited_cons_of_skip hm] at h
    rw [collectFrom_skip hm, collectFrom_skip hm, ih h]
  | fail c rest failure hm hf he =>
    rw [visited_cons_of_end hm he, List.forall_mem_singleton] at h
    obtain ⟨hcorrelate, hfound, -⟩ := same c h
    rw [collectFrom_fail hm hf, collectFrom_fail hm (hfound.trans hf), hcorrelate]
  | last c rest stored hm hf he =>
    rw [visited_cons_of_end hm he, List.forall_mem_singleton] at h
    obtain ⟨hcorrelate, hfound, hends⟩ := same c h
    rw [collectFrom_last hp hm hf he, collectFrom_last hp hm (hfound.trans hf) (hends.trans he),
      hcorrelate]
  | go c rest stored hm hf he ih =>
    rw [visited_cons_of_go hm he, List.forall_mem_cons] at h
    obtain ⟨hcorrelate, hfound, hends⟩ := same c h.1
    rw [collectFrom_go hp hm hf he, collectFrom_go hp hm (hfound.trans hf) (hends.trans he),
      hcorrelate, ih h.2]

theorem run_collect_congr (hp : plan.Seeks pid) {runtime : Runtime}
    (h : ∀ containers, runtime.answer plan.filter = .ok containers →
      ∀ c ∈ plan.visited files layout pid containers, Path.IsPlain c.id →
        layout.Agree files files' c.id) :
    (plan.collect files layout now runtime).run = (plan.collect files' layout now runtime).run := by
  cases ha : runtime.answer plan.filter with
  | error status => rw [run_collect_of_error ha, run_collect_of_error ha]
  | ok containers =>
    rw [run_collect_of_ok ha, run_collect_of_ok ha, run_collectFrom_congr hp (h containers ha)]

end ListPlan

namespace Layout

theorem confined (layout : Layout) :
    (∀ id, ((∃ files stored, (layout.correlate files id).run.value = .ok stored) ↔
        id ≠ "" ∧ '/' ∉ id.toList ∧ id ≠ "." ∧ id ≠ "..") ∧
      (Path.IsPlain id → ∀ files failure, (layout.correlate files id).run.value = .error failure →
        ∃ path ∈ [layout.configPath id, layout.statePath id], ∃ cause,
          files.read path = .error cause ∧ failure = .storage (.unreadable path cause)) ∧
      (¬Path.IsPlain id → ∀ files, (layout.correlate files id).run =
        ⟨[], .error (.storage (.badId id layout.containersDir))⟩)) ∧
    (∀ id, Path.IsPlain id →
      layout.configPath id = Path.join layout.containersDir (id ++ "/userdata/config.json") ∧
      layout.statePath id = Path.join layout.containersDir (id ++ "/userdata/state.json") ∧
      Path.components (layout.configPath id) = Path.components layout.containersDir ++
        [.normal id, .normal "userdata", .normal "config.json"] ∧
      Path.components (layout.statePath id) = Path.components layout.containersDir ++
        [.normal id, .normal "userdata", .normal "state.json"] ∧
      ∀ files, (layout.correlate files id).run.reads ⊆
          [layout.configPath id, layout.statePath id] ∧
        ∀ files', layout.Agree files files' id →
          (layout.correlate files id).run = (layout.correlate files' id).run) ∧
    (∀ id id', Path.IsPlain id → Path.IsPlain id' → id ≠ id' →
      ∀ p ∈ [layout.configPath id, layout.statePath id],
      ∀ q ∈ [layout.configPath id', layout.statePath id'],
        Path.components p ≠ Path.components q) ∧
    (∀ options plan, ListPlan.of options = .ok plan → ∀ files files' now runtime,
      (∀ containers, runtime.answer plan.filter = .ok containers →
        ∀ c ∈ plan.visited files layout options.pid containers, Path.IsPlain c.id →
          layout.Agree files files' c.id) →
      (plan.collect files layout now runtime).run =
        (plan.collect files' layout now runtime).run) := by
  refine ⟨fun id => ⟨⟨?_, ?_⟩, ?_, run_correlate_of_not_isPlain⟩, ?_, ?_, ?_⟩
  · rintro ⟨files, stored, h⟩
    by_contra hid
    rw [run_correlate_of_not_isPlain hid] at h
    cases h
  · intro h
    let files : FileSystem := ⟨fun _ => .ok []⟩
    have hconfig : files.read (layout.configPath id) = .ok [] := rfl
    have hstate : files.read (layout.statePath id) = .ok [] := rfl
    obtain ⟨stored, -, hs⟩ := correlate_ok_of_readable h hconfig hstate
    exact ⟨files, stored, hs⟩
  · intro h files failure he
    exact correlate_error_of_isPlain h he
  · intro id h
    refine ⟨configPath_eq h, statePath_eq h, components_configPath h, components_statePath h,
      fun files => ⟨reads_correlate_subset files id, fun files' ha => ?_⟩⟩
    rw [correlate_congr fun _ => ha]
  · intro id id' h h' hne p hp q hq
    exact components_ne_of_ne h h' hne hp hq
  · intro options plan valid files files' now runtime h
    exact ListPlan.run_collect_congr (ListPlan.of_valid valid).1 h

/-- A file beside the directories of the containers makes no difference, not even to an id that
names it. -/
theorem confined_beside :
    let files : FileSystem := ⟨fun _ => .error .notFound⟩
    let files' : FileSystem :=
      ⟨fun path => if path = "r/../secret" then .ok [0x7b, 0x7d] else .error .notFound⟩
    let plan : ListPlan := ⟨{ state := some .running }, ⟨none, none⟩, false, .table⟩
    let runtime : Runtime := ⟨fun _ => .ok [⟨"a", none, 1, 0⟩, ⟨"../secret", none, 1, 0⟩]⟩
    Path.IsPlain "a" ∧ ¬Path.IsPlain "../secret" ∧ Layout.Agree ⟨"r"⟩ files files' "a" ∧
      (correlate ⟨"r"⟩ files "a").run = (correlate ⟨"r"⟩ files' "a").run ∧
      (correlate ⟨"r"⟩ files' "../secret").run =
        ⟨[], .error (.storage (.badId "../secret" "r"))⟩ ∧
      ListPlan.of {} = .ok plan ∧
      (plan.collect files ⟨"r"⟩ 0 runtime).run = (plan.collect files' ⟨"r"⟩ 0 runtime).run := by
  intro files files' plan runtime
  obtain ⟨hids, hpaths, -, hlistings⟩ := confined ⟨"r"⟩
  have ha : Path.IsPlain "a" := by decide
  have hs : ¬Path.IsPlain "../secret" := by decide
  have hagree : Layout.Agree ⟨"r"⟩ files files' "a" := ⟨by decide +kernel, by decide +kernel⟩
  have valid : ListPlan.of {} = .ok plan := rfl
  refine ⟨ha, hs, hagree, ((hpaths "a" ha).2.2.2.2 files).2 files' hagree,
    (hids "../secret").2.2 hs files', valid, hlistings {} plan valid files files' 0 runtime ?_⟩
  intro containers hc c hmem hplain
  cases hc
  have hmem' := List.mem_of_mem_take hmem
  simp only [ListPlan.candidates, List.mem_filter, List.mem_cons, List.not_mem_nil, or_false]
    at hmem'
  rcases hmem'.1 with rfl | rfl
  · exact hagree
  · exact absurd hplain hs

end Layout
end ContainerRoster
