import Dialogue.Model
import Dialogue.Proofs.FileTreeFrame
import Dialogue.Proofs.ModelPaths

/-!
What is in a model directory after an ensemble was written to it, whatever was there before: no two
policies share a file, and none of them writes the metadata, so each file holds what was written.
-/
namespace Dialogue

namespace FileTree

theorem locate_join {tree : FileTree} {path : Path} {name : String} {names : List String}
    (hname : Path.IsName name) (h : tree.locate (path.join name) = .ok names) :
    ∃ base, tree.locate path = .ok base ∧ names = base ++ [name] := by
  rw [locate_eq_ok_iff, path.segments_join hname, List.any_append, Bool.or_eq_false_iff,
    walk_append] at h
  obtain ⟨⟨hvalid, _⟩, base, hbase, hlast⟩ := h
  refine ⟨base, locate_eq_ok_iff.2 ⟨hvalid, hbase⟩, walk_names ?_ hlast⟩
  rw [List.forall_mem_singleton]
  exact ⟨hname.ne_dot, hname.ne_dots⟩

end FileTree

namespace WriteStep

theorem runAll_cons_eq_ok_iff {tree later : FileTree} {step : WriteStep} {rest : List WriteStep} :
    runAll tree (step :: rest) = (later, .ok ()) ↔
      ∃ middle, step.run tree = (middle, .ok ()) ∧ runAll middle rest = (later, .ok ()) := by
  rw [runAll]
  split
  · rename_i middle _ hstep
    constructor
    · exact fun h => ⟨middle, hstep, h⟩
    · rintro ⟨_, hstep', h⟩
      rw [hstep] at hstep'
      cases hstep'
      exact h
  · rename_i hstep
    constructor
    · intro h
      cases h
    · rintro ⟨_, hstep', _⟩
      rw [hstep] at hstep'
      cases hstep'

theorem keeps_of_makeDirectory {tree later : FileTree} {path : Path}
    (h : (makeDirectory path).run tree = (later, .ok ())) : tree.Keeps later := by
  rw [run] at h
  cases hmade : tree.makeDirectories path.segments with
  | mk made outcome =>
    rw [hmade] at h
    cases outcome with
    | error failure => cases h
    | ok =>
      cases h
      exact FileTree.keeps_makeDirectories hmade

theorem write_of_writeFile {tree later : FileTree} {path : Path} {text : String}
    (h : (writeFile path text).run tree = (later, .ok ())) : tree.write path text = .ok later := by
  rw [run] at h
  split at h
  · cases h
    assumption
  · cases h

theorem grows_run {tree later : FileTree} {step : WriteStep}
    (h : step.run tree = (later, .ok ())) : tree.Grows later := by
  cases step with
  | makeDirectory path => exact (keeps_of_makeDirectory h).grows
  | writeFile path text =>
    obtain ⟨_, names, _, _, hfree, hother⟩ := FileTree.write_spec (write_of_writeFile h)
    intro other hdirectory
    refine hother other ?_ none hdirectory
    rintro rfl
    exact hfree hdirectory

theorem grows_runAll {tree later : FileTree} {steps : List WriteStep}
    (h : runAll tree steps = (later, .ok ())) : tree.Grows later := by
  induction steps generalizing tree with
  | nil =>
    cases h
    exact fun _ hnames => hnames
  | cons step rest ih =>
    obtain ⟨middle, hstep, hrest⟩ := runAll_cons_eq_ok_iff.1 h
    exact (grows_run hstep).trans (ih hrest)

/-- All that is written to a place, by the time all steps are done, is the one text. -/
def OnlyWrites (steps : List WriteStep) (later : FileTree) (names : List String) (text : String) :
    Prop :=
  ∀ path other, writeFile path other ∈ steps → later.locate path = .ok names → other = text

theorem kindAt_runAll {tree later : FileTree} {steps : List WriteStep} {names : List String}
    {text : String} (h : runAll tree steps = (later, .ok ()))
    (honly : OnlyWrites steps later names text) (hfile : tree.kindAt names = some (some text)) :
    later.kindAt names = some (some text) := by
  induction steps generalizing tree with
  | nil =>
    cases h
    exact hfile
  | cons step rest ih =>
    obtain ⟨middle, hstep, hrest⟩ := runAll_cons_eq_ok_iff.1 h
    refine ih hrest (fun path other hmem => honly path other (List.mem_cons_of_mem _ hmem)) ?_
    cases step with
    | makeDirectory path => exact keeps_of_makeDirectory hstep names _ hfile
    | writeFile path other =>
      obtain ⟨_, place, hplace, hwritten, _, hkept⟩ :=
        FileTree.write_spec (write_of_writeFile hstep)
      by_cases hnames : names = place
      · have hlater := (grows_runAll h).locate hplace
        rw [← hnames] at hlater hwritten
        rw [← honly path other List.mem_cons_self hlater]
        exact hwritten
      · exact hkept names hnames _ hfile

theorem read_of_runAll {tree later : FileTree} {steps : List WriteStep} {path : Path}
    {text : String} (h : runAll tree steps = (later, .ok ())) (hmem : writeFile path text ∈ steps)
    (honly : ∀ names, later.locate path = .ok names → OnlyWrites steps later names text) :
    later.read path = .ok text := by
  induction steps generalizing tree with
  | nil => exact absurd hmem List.not_mem_nil
  | cons step rest ih =>
    obtain ⟨middle, hstep, hrest⟩ := runAll_cons_eq_ok_iff.1 h
    have honly' : ∀ names, later.locate path = .ok names → OnlyWrites rest later names text :=
      fun names hnames other text' hmem => honly names hnames other text' (List.mem_cons_of_mem _ hmem)
    rcases List.mem_cons.1 hmem with rfl | hmem
    · obtain ⟨hopen, names, hplace, hwritten, _⟩ := FileTree.write_spec (write_of_writeFile hstep)
      have hlater := (grows_runAll h).locate hplace
      exact FileTree.read_of_kindAt hopen hlater
        (kindAt_runAll hrest (honly' names hlater) hwritten)
    · exact ih hrest hmem honly'

end WriteStep

namespace Ensemble

variable {π : Type} [Policy π] {ensemble : Ensemble π}

theorem mem_labelled_iff {name : String} {policy : π} : (name, policy) ∈ ensemble.labelled ↔
    ∃ i, ensemble.policies[i]? = some policy ∧ name = label i (Policy.typeName policy) := by
  unfold labelled
  rw [List.mem_map]
  constructor
  · rintro ⟨⟨p, i⟩, hmem, heq⟩
    cases heq
    exact ⟨i, List.mem_zipIdx_iff_getElem?.1 hmem, rfl⟩
  · rintro ⟨i, hget, rfl⟩
    exact ⟨(policy, i), List.mem_zipIdx_iff_getElem?.2 hget, rfl⟩

theorem eq_of_mem_labelled {name : String} {policy other : π}
    (h : (name, policy) ∈ ensemble.labelled) (h' : (name, other) ∈ ensemble.labelled) :
    policy = other := by
  obtain ⟨i, hget, hname⟩ := mem_labelled_iff.1 h
  obtain ⟨j, hget', hname'⟩ := mem_labelled_iff.1 h'
  obtain ⟨rfl, _⟩ := label_inj (hname.symm.trans hname')
  rw [hget] at hget'
  exact Option.some.inj hget'

theorem isName_of_mem_labelled
    (hnames : ∀ policy ∈ ensemble.policies, '/' ∉ (Policy.typeName policy).toList) {name : String}
    {policy : π} (h : (name, policy) ∈ ensemble.labelled) : Path.IsName name := by
  obtain ⟨i, hget, rfl⟩ := mem_labelled_iff.1 h
  exact isName_label i (hnames policy (List.mem_of_getElem? hget))

theorem writeFile_mem_persistSteps {now : Timestamp} {model path : Path} {text : String} :
    .writeFile path text ∈ ensemble.persistSteps now model ↔
      (∃ name policy state, (name, policy) ∈ ensemble.labelled ∧
        Policy.state policy = some state ∧ path = (model.join name).join Policy.stateFile ∧
        text = state.pretty) ∨
      path = model.join Metadata.fileName ∧ text = (ensemble.metadata now).toJson.pretty := by
  unfold persistSteps
  rw [List.cons_append, List.mem_cons, List.mem_append, List.mem_flatMap, List.mem_singleton,
    WriteStep.writeFile.injEq]
  constructor
  · rintro (hmake | ⟨⟨name, policy⟩, hmem, hstep⟩ | hmetadata)
    · cases hmake
    · unfold policySteps at hstep
      rcases List.mem_cons.1 hstep with hmake | hstate
      · cases hmake
      · rw [Option.mem_toList, Option.map_eq_some_iff] at hstate
        obtain ⟨state, hstate, heq⟩ := hstate
        cases heq
        exact Or.inl ⟨name, policy, state, hmem, hstate, rfl, rfl⟩
    · exact Or.inr hmetadata
  · rintro (⟨name, policy, state, hmem, hstate, rfl, rfl⟩ | hmetadata)
    · refine Or.inr (Or.inl ⟨(name, policy), hmem, List.mem_cons_of_mem _ ?_⟩)
      rw [hstate]
      exact List.mem_singleton.2 rfl
    · exact Or.inr (Or.inr hmetadata)

theorem isName_stateFile : Path.IsName Policy.stateFile :=
  ⟨by decide, by decide, by decide, by decide⟩

theorem isName_fileName : Path.IsName Metadata.fileName :=
  ⟨by decide, by decide, by decide, by decide⟩

theorem locate_state {tree : FileTree} {model : Path} {name : String} {names : List String}
    (hname : Path.IsName name)
    (h : tree.locate ((model.join name).join Policy.stateFile) = .ok names) :
    ∃ base, tree.locate model = .ok base ∧ names = base ++ [name, Policy.stateFile] := by
  obtain ⟨directory, hdirectory, rfl⟩ := FileTree.locate_join isName_stateFile h
  obtain ⟨base, hbase, rfl⟩ := FileTree.locate_join hname hdirectory
  exact ⟨base, hbase, List.append_assoc _ _ _⟩

/-- Places below a model are told apart by the names that lead on from it. -/
theorem eq_of_append_located {tree : FileTree} {model : Path} {base base' names names' : List String}
    (hbase : tree.locate model = .ok base) (hbase' : tree.locate model = .ok base')
    (h : base ++ names = base' ++ names') : names = names' := by
  cases hbase.symm.trans hbase'
  exact List.append_cancel_left h

section

variable {now : Timestamp} {tree later : FileTree} {model : Path}
  (hnames : ∀ policy ∈ ensemble.policies, '/' ∉ (Policy.typeName policy).toList)
  (h : ensemble.persist now tree model = (later, .ok ()))

include hnames h

theorem read_state {name : String} {policy : π} {state : Json}
    (hmem : (name, policy) ∈ ensemble.labelled) (hstate : Policy.state policy = some state) :
    later.read ((model.join name).join Policy.stateFile) = .ok state.pretty := by
  refine WriteStep.read_of_runAll h
    (writeFile_mem_persistSteps.2 (Or.inl ⟨name, policy, state, hmem, hstate, rfl, rfl⟩)) ?_
  intro names hpath path text hwrite hsame
  obtain ⟨base, hbase, rfl⟩ := locate_state (isName_of_mem_labelled hnames hmem) hpath
  rcases writeFile_mem_persistSteps.1 hwrite with
    ⟨name', policy', state', hmem', hstate', rfl, rfl⟩ | ⟨rfl, rfl⟩
  · obtain ⟨base', hbase', heq⟩ := locate_state (isName_of_mem_labelled hnames hmem') hsame
    cases eq_of_append_located hbase hbase' heq
    cases eq_of_mem_labelled hmem hmem'
    rw [hstate] at hstate'
    cases hstate'
    rfl
  · obtain ⟨base', hbase', heq⟩ := FileTree.locate_join isName_fileName hsame
    cases eq_of_append_located hbase hbase' heq

theorem read_metadata :
    later.read (model.join Metadata.fileName) = .ok (ensemble.metadata now).toJson.pretty := by
  refine WriteStep.read_of_runAll h (writeFile_mem_persistSteps.2 (Or.inr ⟨rfl, rfl⟩)) ?_
  intro names hpath path text hwrite hsame
  obtain ⟨base, hbase, rfl⟩ := FileTree.locate_join isName_fileName hpath
  rcases writeFile_mem_persistSteps.1 hwrite with
    ⟨name', policy', state', hmem', _, rfl, rfl⟩ | ⟨rfl, rfl⟩
  · obtain ⟨base', hbase', heq⟩ := locate_state (isName_of_mem_labelled hnames hmem') hsame
    cases eq_of_append_located hbase hbase' heq
  · rfl

end

end Ensemble

end Dialogue
