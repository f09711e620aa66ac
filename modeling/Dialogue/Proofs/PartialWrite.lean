import Dialogue.Model.Interruption
import Dialogue.Proofs.FileTreeChanges
import Dialogue.Proofs.ModelFiles

/-!
The policies are written one after the other and the metadata last. So after a failure the states of
the first few policies are new, of the next text there may be a beginning, and all else is old.
-/
namespace Dialogue

open FileTree

/-- A file has the beginning of a text now, and all else is the same. -/
structure FileTree.Cut (tree later : FileTree) (place : List String) (text : String) : Prop where
  sameBut : tree.SameBut later place
  free : tree.kindAt place ≠ some none
  beginning : ∃ left : String, left.toList <+: text.toList ∧ left ≠ text ∧
    later.kindAt place = some (some left)

theorem FileTree.Cut.grows {tree later : FileTree} {place : List String} {text : String}
    (h : tree.Cut later place text) : tree.Grows later :=
  h.sameBut.grows h.free

namespace Ensemble

variable {π : Type} [Policy π] {tree middle later : FileTree} {model : Path} {base : List String}
  {written more : List (String × Json)} {label : String} {policy : π} {state : Json}

/-- Over a model some states were written, each with its label. The other states and the metadata are
as they were. -/
structure Overwritten (tree later : FileTree) (base : List String)
    (written : List (String × Json)) : Prop where
  grows : tree.Grows later
  metadata : later.kindAt (base ++ [Metadata.fileName]) = tree.kindAt (base ++ [Metadata.fileName])
  kept : ∀ folder, (∀ state, (folder, state) ∉ written) →
    later.kindAt (base ++ [folder, Policy.stateFile]) =
      tree.kindAt (base ++ [folder, Policy.stateFile])
  nameable : ∀ label state, (label, state) ∈ written → Nameable label
  states : ∀ label state, (label, state) ∈ written →
    later.kindAt (base ++ [label, Policy.stateFile]) = some (some state.pretty)

theorem Overwritten.refl (tree : FileTree) (base : List String) : Overwritten tree tree base [] where
  grows := fun _ hdirectory => hdirectory
  metadata := rfl
  kept := fun _ _ => rfl
  nameable := by simp
  states := by simp

theorem Overwritten.trans (hfirst : Overwritten tree middle base written)
    (hsecond : Overwritten middle later base more)
    (hapart : ∀ label state other, (label, state) ∈ written → (label, other) ∉ more) :
    Overwritten tree later base (written ++ more) where
  grows := hfirst.grows.trans hsecond.grows
  metadata := hsecond.metadata.trans hfirst.metadata
  kept := by
    intro folder hother
    simp only [List.mem_append, not_or] at hother
    rw [hsecond.kept folder fun state => (hother state).2,
      hfirst.kept folder fun state => (hother state).1]
  nameable := by
    intro label state hmem
    exact (List.mem_append.1 hmem).elim (hfirst.nameable label state) (hsecond.nameable label state)
  states := by
    intro label state hmem
    rcases List.mem_append.1 hmem with hmem | hmem
    · rw [hsecond.kept label fun other => hapart label state other hmem]
      exact hfirst.states label state hmem
    · exact hsecond.states label state hmem

theorem Overwritten.of_sameBut (hnone : tree.kindAt (base ++ [label]) = none)
    (hsame : tree.SameBut later (base ++ [label])) (hlabel : label ≠ Metadata.fileName) :
    Overwritten tree later base [] where
  grows := hsame.grows (by simp [hnone])
  metadata := by
    apply hsame
    simpa using Ne.symm hlabel
  kept := by
    intro folder _
    apply hsame
    simp
  nameable := by simp
  states := by simp

theorem overwritten_makeDirectories (h : tree.Leads model base) (hname : Path.IsName label)
    (hlabel : label ≠ Metadata.fileName) {made : List String}
    (hmade : made <+: (model.join label).segments) :
    Overwritten tree (tree.makeDirectories made).1 base [] := by
  rw [Path.segments_join model hname, List.prefix_concat_iff] at hmade
  rcases hmade with rfl | hmade
  · rw [← Path.segments_join model hname]
    cases hlater : tree.makeDirectories (model.join label).segments with
    | mk later outcome =>
      rcases makeDirectories_join h hname hlater with rfl | ⟨hnone, hsame⟩
      · exact Overwritten.refl later base
      · exact Overwritten.of_sameBut hnone hsame hlabel
  · rw [makeDirectories_of_leads h hmade]
    exact Overwritten.refl tree base

theorem overwritten_makeDirectory {outcome : Except ModelError Unit} (h : tree.Leads model base)
    (hname : Path.IsName label) (hlabel : label ≠ Metadata.fileName)
    (hrun : (WriteStep.makeDirectory (model.join label)).run tree = (later, outcome)) :
    Overwritten tree later base [] := by
  rw [WriteStep.eq_of_makeDirectory hrun]
  exact overwritten_makeDirectories h hname hlabel (List.prefix_refl _)

theorem nameable_stateFile : Nameable Policy.stateFile := by
  unfold Nameable
  decide

theorem nameable_fileName : Nameable Metadata.fileName := by
  unfold Nameable
  decide

theorem overwritten_writeFile (h : tree.Leads model base) (hname : Path.IsName label)
    (hrun : (WriteStep.writeFile ((model.join label).join Policy.stateFile) state.pretty).run tree =
      (later, .ok ())) : Overwritten tree later base [(label, state)] := by
  obtain ⟨names, hpath, hsame, hwritten, hfree⟩ :=
    sameBut_write (WriteStep.write_of_writeFile hrun)
  obtain ⟨hnameable, -, rfl⟩ := (locate_inside h (Path.isSingleName_of_isName hname)
    isName_stateFile nameable_stateFile).1 hpath
  rw [Path.folder_of_isName hname] at hnameable hsame hwritten
  refine ⟨WriteStep.grows_run hrun, ?_, ?_, ?_, ?_⟩
  · apply hsame
    simp
  · intro folder hother
    apply hsame
    have hne : folder ≠ label := by
      rintro rfl
      exact hother state List.mem_cons_self
    simp [hne]
  · rintro _ _ hmem
    cases List.mem_singleton.1 hmem
    exact hnameable
  · rintro _ _ hmem
    cases List.mem_singleton.1 hmem
    exact hwritten

def statesOf (labelled : List (String × π)) : List (String × Json) :=
  labelled.filterMap fun (label, policy) => (Policy.state policy).map (label, ·)

theorem statesOf_append (first second : List (String × π)) :
    statesOf (first ++ second) = statesOf first ++ statesOf second :=
  List.filterMap_append

theorem statesOf_cons (pair : String × π) (rest : List (String × π)) :
    statesOf (pair :: rest) = statesOf [pair] ++ statesOf rest :=
  statesOf_append [pair] rest

theorem overwritten_policySteps (h : tree.Leads model base) (hname : Path.IsName label)
    (hlabel : label ≠ Metadata.fileName)
    (hrun : WriteStep.runAll tree (policySteps model (label, policy)) = (later, .ok ())) :
    Overwritten tree later base (statesOf [(label, policy)]) := by
  rw [policySteps, WriteStep.runAll] at hrun
  split at hrun
  · rename_i made _ hmade
    have hdirectory := overwritten_makeDirectory h hname hlabel hmade
    have hleads := h.of_grows hdirectory.grows
    cases hstate : Policy.state policy with
    | none =>
      rw [hstate] at hrun
      cases hrun
      simpa [statesOf, hstate] using hdirectory
    | some state =>
      rw [hstate, Option.map_some, Option.toList_some, WriteStep.runAll] at hrun
      split at hrun
      · rename_i done _ hwrite
        cases hrun
        have hfile := overwritten_writeFile hleads hname hwrite
        simpa [statesOf, hstate] using hdirectory.trans hfile (by simp)
      · cases hrun
  · cases hrun

theorem mem_statesOf {labelled : List (String × π)} :
    (label, state) ∈ statesOf labelled ↔
      ∃ policy, (label, policy) ∈ labelled ∧ Policy.state policy = some state := by
  unfold statesOf
  simp only [List.mem_filterMap, Option.map_eq_some_iff, Prod.exists, Prod.mk.injEq]
  constructor
  · rintro ⟨label, policy, hmem, state, hstate, rfl, rfl⟩
    exact ⟨policy, hmem, hstate⟩
  · rintro ⟨policy, hmem, hstate⟩
    exact ⟨label, policy, hmem, state, hstate, rfl, rfl⟩

theorem sublist_labels (labelled : List (String × π)) :
    ((statesOf labelled).map Prod.fst).Sublist (labelled.map Prod.fst) := by
  induction labelled with
  | nil => exact .slnil
  | cons pair rest ih =>
    obtain ⟨label, policy⟩ := pair
    rw [statesOf_cons, List.map_cons]
    cases hstate : Policy.state policy with
    | none => simpa [statesOf, hstate] using ih.cons label
    | some state => simpa [statesOf, hstate] using ih.cons_cons label

/-! ### Where writing stops -/

/-- The steps that writing may stop at once some states are written. -/
inductive NextStep (labelled : List (String × π)) (text : String) (model : Path)
    (written : List (String × Json)) : WriteStep → Prop where
  | directory {label : String} (hname : Path.IsName label) (hlabel : label ≠ Metadata.fileName) :
    NextStep labelled text model written (.makeDirectory (model.join label))
  | state {label : String} {state : Json} (hname : Path.IsName label)
    (hnext : written ++ [(label, state)] <+: statesOf labelled) :
    NextStep labelled text model written
      (.writeFile ((model.join label).join Policy.stateFile) state.pretty)
  | metadata : NextStep labelled text model written (.writeFile (model.join Metadata.fileName) text)

variable {labelled : List (String × π)} {text : String} {step : WriteStep}
  {wrong : FileTree → WriteStep → FileTree → Prop}

theorem NextStep.after {rest : List (String × π)} (h : NextStep rest text model written step)
    (first : List (String × π)) :
    NextStep (first ++ rest) text model (statesOf first ++ written) step := by
  cases h with
  | directory hname hlabel => exact .directory hname hlabel
  | state hname hnext =>
    refine .state hname ?_
    rw [statesOf_append, List.append_assoc]
    exact (List.prefix_append_right_inj _).2 hnext
  | metadata => exact .metadata

theorem stops_policySteps {rest : List (String × π)} (h : tree.Leads model base)
    (hname : Path.IsName label) (hlabel : label ≠ Metadata.fileName)
    (hstops : WriteStep.Stops wrong tree (policySteps model (label, policy)) later) :
    ∃ middle step, Overwritten tree middle base [] ∧
      NextStep ((label, policy) :: rest) text model [] step ∧ wrong middle step later := by
  rw [policySteps] at hstops
  cases hstops with
  | here _ hwrong => exact ⟨tree, _, Overwritten.refl tree base, .directory hname hlabel, hwrong⟩
  | @behind _ made _ _ _ hmade hstops =>
    have hdirectory := overwritten_makeDirectory h hname hlabel hmade
    cases hstate : Policy.state policy with
    | none =>
      rw [hstate] at hstops
      cases hstops
    | some state =>
      rw [hstate, Option.map_some, Option.toList_some] at hstops
      cases hstops with
      | behind _ hstops => cases hstops
      | here _ hwrong =>
        refine ⟨made, _, hdirectory, .state hname ?_, hwrong⟩
        rw [statesOf_cons]
        simp [statesOf, hstate]

theorem exists_nextStep (h : tree.Leads model base)
    (hlabels : ∀ pair ∈ labelled, Path.IsName pair.1 ∧ pair.1 ≠ Metadata.fileName)
    (hdistinct : (labelled.map Prod.fst).Nodup)
    (hstops : WriteStep.Stops wrong tree (labelled.flatMap (policySteps model) ++
      [.writeFile (model.join Metadata.fileName) text]) later) :
    ∃ written middle step, written <+: statesOf labelled ∧ Overwritten tree middle base written ∧
      NextStep labelled text model written step ∧ wrong middle step later := by
  induction labelled generalizing tree with
  | nil =>
    rw [List.flatMap_nil, List.nil_append] at hstops
    cases hstops with
    | behind _ hstops => cases hstops
    | here _ hwrong =>
      exact ⟨[], tree, _, List.nil_prefix, Overwritten.refl tree base, .metadata, hwrong⟩
  | cons pair rest ih =>
    obtain ⟨label, policy⟩ := pair
    rw [List.forall_mem_cons] at hlabels
    rw [List.map_cons, List.nodup_cons] at hdistinct
    rw [List.flatMap_cons, List.append_assoc, WriteStep.stops_append_iff] at hstops
    rcases hstops with hstops | ⟨middle, hpolicy, hstops⟩
    · obtain ⟨middle, step, hover, hstep, hwrong⟩ :=
        stops_policySteps h hlabels.1.1 hlabels.1.2 hstops
      exact ⟨[], middle, step, List.nil_prefix, hover, hstep, hwrong⟩
    · have hfirst := overwritten_policySteps h hlabels.1.1 hlabels.1.2 hpolicy
      obtain ⟨written, last, step, hbegins, hover, hstep, hwrong⟩ :=
        ih (h.of_grows hfirst.grows) hlabels.2 hdistinct.2 hstops
      refine ⟨statesOf [(label, policy)] ++ written, last, step, ?_, hfirst.trans hover ?_,
        hstep.after [(label, policy)], hwrong⟩
      · rw [statesOf_cons _ rest]
        exact (List.prefix_append_right_inj _).2 hbegins
      · intro other state state' hmem hmem'
        obtain ⟨_, hmem, _⟩ := mem_statesOf.1 hmem
        obtain ⟨_, hmem', _⟩ := mem_statesOf.1 (hbegins.subset hmem')
        cases List.mem_singleton.1 hmem
        exact hdistinct.1 (List.mem_map.2 ⟨_, hmem', rfl⟩)

theorem nodup_labels (ensemble : Ensemble π) : (ensemble.labelled.map Prod.fst).Nodup := by
  unfold labelled
  rw [List.map_map, List.Nodup, List.pairwise_map, List.pairwise_iff_getElem]
  intro i j hi hj hlt hsame
  simp only [List.getElem_zipIdx, Function.comp_apply] at hsame
  obtain ⟨hindex, -⟩ := label_inj hsame
  omega

theorem nextStep_of_persistSteps {ensemble : Ensemble π} {now : Timestamp}
    (hnames : ∀ policy ∈ ensemble.policies, '/' ∉ (Policy.typeName policy).toList)
    (h : tree.Leads model base)
    (hstops : WriteStep.Stops wrong tree (ensemble.persistSteps now model) later) :
    wrong tree (.makeDirectory model) later ∨
      ∃ written middle step, written <+: statesOf ensemble.labelled ∧
        Overwritten tree middle base written ∧
        NextStep ensemble.labelled (ensemble.metadata now).toJson.pretty model written step ∧
        wrong middle step later := by
  have hlabels : ∀ pair ∈ ensemble.labelled, Path.IsName pair.1 ∧ pair.1 ≠ Metadata.fileName := by
    rintro ⟨label, policy⟩ hmem
    obtain ⟨i, _, rfl⟩ := mem_labelled_iff.1 hmem
    exact ⟨isName_of_mem_labelled hnames hmem, label_ne i _ (by decide)⟩
  unfold persistSteps at hstops
  rw [List.cons_append] at hstops
  cases hstops with
  | here _ hwrong => exact Or.inl hwrong
  | behind hmade hstops =>
    rw [WriteStep.run, makeDirectories_of_leads h (List.prefix_refl _)] at hmade
    cases hmade
    exact Or.inr (exists_nextStep h hlabels ensemble.nodup_labels hstops)

/-! ### What is left behind -/

/-- What is left behind by an ensemble that could not be written: the first few states, and at most
the beginning of the next text, which is a state or that of the metadata. -/
inductive LeftBehind (labelled : List (String × π)) (text : String) (tree later : FileTree)
    (base : List String) (written : List (String × Json)) : Prop where
  | between (hover : Overwritten tree later base written)
  | state {middle : FileTree} {label : String} {state : Json}
    (hover : Overwritten tree middle base written)
    (hnext : written ++ [(label, state)] <+: statesOf labelled) (hnameable : Nameable label)
    (hcut : middle.Cut later (base ++ [label, Policy.stateFile]) state.pretty)
  | metadata {middle : FileTree} (hover : Overwritten tree middle base written)
    (hcut : middle.Cut later (base ++ [Metadata.fileName]) text)

theorem LeftBehind.grows (h : LeftBehind labelled text tree later base written) :
    tree.Grows later := by
  cases h with
  | between hover => exact hover.grows
  | state hover _ _ hcut => exact hover.grows.trans hcut.grows
  | metadata hover hcut => exact hover.grows.trans hcut.grows

/-- A text that was cut off is none of those that were written. -/
theorem LeftBehind.states (h : LeftBehind labelled text tree later base written)
    (hdistinct : (labelled.map Prod.fst).Nodup) (hmem : (label, state) ∈ written) :
    Nameable label ∧
      later.kindAt (base ++ [label, Policy.stateFile]) = some (some state.pretty) := by
  cases h with
  | between hover => exact ⟨hover.nameable _ _ hmem, hover.states _ _ hmem⟩
  | @state middle next _ hover hnext _ hcut =>
    have hne : label ≠ next := by
      have hnodup := (hdistinct.sublist (sublist_labels labelled)).sublist (hnext.sublist.map Prod.fst)
      rw [List.map_append, List.nodup_append] at hnodup
      exact hnodup.2.2 _ (List.mem_map.2 ⟨_, hmem, rfl⟩) _ (by simp)
    refine ⟨hover.nameable _ _ hmem, ?_⟩
    rw [hcut.sameBut _ (by simpa using hne)]
    exact hover.states _ _ hmem
  | metadata hover hcut =>
    refine ⟨hover.nameable _ _ hmem, ?_⟩
    rw [hcut.sameBut _ (by simp)]
    exact hover.states _ _ hmem

theorem cut_of_write {left : String} {path : Path} {place : List String}
    (hplace : tree.locate path = .ok place) (hleft : left.toList <+: text.toList)
    (hpart : left ≠ text) (hwrite : tree.write path left = .ok later) :
    tree.Cut later place text := by
  obtain ⟨names, hpath, hsame, hwritten, hfree⟩ := sameBut_write hwrite
  cases hplace.symm.trans hpath
  exact ⟨hsame, hfree, left, hleft, hpart, hwritten⟩

theorem NextStep.leftBehind (hstep : NextStep labelled text model written step)
    (h : middle.Leads model base) (hover : Overwritten tree middle base written)
    (hleaves : WriteStep.Leaves middle step later) :
    LeftBehind labelled text tree later base written := by
  cases hleaves with
  | refused => exact .between hover
  | someDirectories hmade =>
    cases hstep with
    | directory hname hlabel =>
      have hmore := hover.trans (overwritten_makeDirectories h hname hlabel hmade) (by simp)
      rw [List.append_nil] at hmore
      exact .between hmore
  | beginning hleft hpart hwrite =>
    obtain ⟨names, hpath, -⟩ := sameBut_write hwrite
    cases hstep with
    | state hname hnext =>
      have hplace := (locate_inside h (Path.isSingleName_of_isName hname) isName_stateFile
        nameable_stateFile).1 hpath
      rw [Path.folder_of_isName hname] at hplace
      obtain ⟨hnameable, -, rfl⟩ := hplace
      exact .state hover hnext hnameable (cut_of_write hpath hleft hpart hwrite)
    | metadata =>
      obtain ⟨_, hbase, rfl⟩ := locate_join isName_fileName hpath
      cases h.locate_eq.symm.trans hbase
      exact .metadata hover (cut_of_write hpath hleft hpart hwrite)

theorem NextStep.overwritten (hstep : NextStep labelled text model written step)
    (h : middle.Leads model base) (hover : Overwritten tree middle base written)
    (hfails : WriteStep.Fails middle step later) : Overwritten tree later base written := by
  obtain ⟨error, hrun⟩ := hfails
  cases step with
  | makeDirectory path =>
    cases hstep with
    | directory hname hlabel =>
      have hmore := hover.trans (overwritten_makeDirectory h hname hlabel hrun) (by simp)
      rwa [List.append_nil] at hmore
  | writeFile path text =>
    rw [WriteStep.run] at hrun
    split at hrun
    · cases hrun
    · cases hrun
      exact hover

variable {ensemble : Ensemble π} {now : Timestamp}

/-- An ensemble that could not be written over a model leaves the states of its first few policies
there. -/
theorem leftBehind_of_persistFails
    (hnames : ∀ policy ∈ ensemble.policies, '/' ∉ (Policy.typeName policy).toList)
    (h : tree.Leads model base) (hfailed : ensemble.PersistFails now tree model later) :
    ∃ written, written <+: statesOf ensemble.labelled ∧
      LeftBehind ensemble.labelled (ensemble.metadata now).toJson.pretty tree later base written := by
  rcases nextStep_of_persistSteps hnames h hfailed with
    hleaves | ⟨written, middle, step, hbegins, hover, hstep, hleaves⟩
  -- The directory of the model is there.
  · have hsame : later = tree := by
      cases hleaves with
      | refused => rfl
      | someDirectories hmade => rw [makeDirectories_of_leads h hmade]
    rw [hsame]
    exact ⟨[], List.nil_prefix, .between (Overwritten.refl tree base)⟩
  · exact ⟨written, hbegins, hstep.leftBehind (h.of_grows hover.grows) hover hleaves⟩

theorem overwritten_of_persist {error : ModelError}
    (hnames : ∀ policy ∈ ensemble.policies, '/' ∉ (Policy.typeName policy).toList)
    (h : tree.Leads model base) (hfailed : ensemble.persist now tree model = (later, .error error)) :
    ∃ written, written <+: statesOf ensemble.labelled ∧ Overwritten tree later base written := by
  rcases nextStep_of_persistSteps hnames h (WriteStep.stops_of_runAll hfailed) with
    ⟨_, hrun⟩ | ⟨written, middle, step, hbegins, hover, hstep, hfails⟩
  · rw [WriteStep.run, makeDirectories_of_leads h (List.prefix_refl _)] at hrun
    cases hrun
  · exact ⟨written, hbegins, hstep.overwritten (h.of_grows hover.grows) hover hfails⟩

end Ensemble

end Dialogue
