import Dialogue.Model

/-!
Writing that is stopped from outside: the system may refuse any step, or break it off, as it does when
the disk is full. A file is emptied before it is written, so a beginning of the new text may be all
that is left in it.
-/
namespace Dialogue

namespace WriteStep

variable {tree later : FileTree} {step : WriteStep} {first second : List WriteStep}
  {error : ModelError} {wrong other : FileTree → WriteStep → FileTree → Prop}

def Fails (tree : FileTree) (step : WriteStep) (later : FileTree) : Prop :=
  ∃ error, step.run tree = (later, .error error)

/-- What a step may leave behind that could not be done, for whatever reason. -/
inductive Leaves (tree : FileTree) : WriteStep → FileTree → Prop where
  | refused (step : WriteStep) : Leaves tree step tree
  | someDirectories {path : Path} {made : List String} (hmade : made <+: path.segments) :
    Leaves tree (.makeDirectory path) (tree.makeDirectories made).1
  | beginning {path : Path} {text left : String} {later : FileTree}
    (hleft : left.toList <+: text.toList) (hpart : left ≠ text)
    (hwrite : tree.write path left = .ok later) : Leaves tree (.writeFile path text) later

/-- Some steps were done, and the next one went wrong. -/
inductive Stops (wrong : FileTree → WriteStep → FileTree → Prop) :
    FileTree → List WriteStep → FileTree → Prop where
  | here {tree later : FileTree} {step : WriteStep} (rest : List WriteStep)
    (h : wrong tree step later) : Stops wrong tree (step :: rest) later
  | behind {tree middle later : FileTree} {step : WriteStep} {rest : List WriteStep}
    (hdone : step.run tree = (middle, .ok ())) (h : Stops wrong middle rest later) :
    Stops wrong tree (step :: rest) later

theorem eq_of_makeDirectory {path : Path} {outcome : Except ModelError Unit}
    (h : (makeDirectory path).run tree = (later, outcome)) :
    later = (tree.makeDirectories path.segments).1 :=
  (congrArg Prod.fst h).symm

theorem Fails.leaves (h : Fails tree step later) : Leaves tree step later := by
  obtain ⟨error, hrun⟩ := h
  cases step with
  | makeDirectory path =>
    rw [eq_of_makeDirectory hrun]
    exact .someDirectories (List.prefix_refl path.segments)
  | writeFile path text =>
    rw [run] at hrun
    split at hrun
    · cases hrun
    · cases hrun
      exact .refused _

theorem stops_of_runAll {steps : List WriteStep}
    (h : runAll tree steps = (later, .error error)) : Stops Fails tree steps later := by
  induction steps generalizing tree with
  | nil => cases h
  | cons step rest ih =>
    rw [runAll] at h
    split at h
    · rename_i hdone
      exact .behind hdone (ih h)
    · rename_i hfailed
      cases h
      exact .here rest ⟨error, hfailed⟩

theorem Stops.mono {steps : List WriteStep} (h : Stops wrong tree steps later)
    (hwrong : ∀ {tree step later}, wrong tree step later → other tree step later) :
    Stops other tree steps later := by
  induction h with
  | here rest h => exact .here rest (hwrong h)
  | behind hdone _ ih => exact .behind hdone ih

theorem stops_append_iff : Stops wrong tree (first ++ second) later ↔
    Stops wrong tree first later ∨
      ∃ middle, runAll tree first = (middle, .ok ()) ∧ Stops wrong middle second later := by
  induction first generalizing tree with
  | nil =>
    constructor
    · exact fun h => Or.inr ⟨tree, rfl, h⟩
    · rintro (h | ⟨_, hdone, h⟩)
      · cases h
      · cases hdone
        exact h
  | cons step rest ih =>
    constructor
    · intro h
      cases h with
      | here _ h => exact Or.inl (.here rest h)
      | behind hdone h =>
        rcases ih.1 h with h | ⟨middle, hrest, h⟩
        · exact Or.inl (.behind hdone h)
        · refine Or.inr ⟨middle, ?_, h⟩
          rw [runAll, hdone]
          exact hrest
    · rintro (h | ⟨middle, hdone, h⟩)
      · cases h with
        | here _ h => exact .here _ h
        | behind hdone h => exact .behind hdone (ih.2 (Or.inl h))
      · rw [runAll] at hdone
        split at hdone
        · rename_i hstep
          exact .behind hstep (ih.2 (Or.inr ⟨middle, hdone, h⟩))
        · cases hdone

end WriteStep

namespace Ensemble

variable {π : Type} [Policy π] {ensemble : Ensemble π} {now : Timestamp} {tree later : FileTree}
  {model : Path}

/-- What there may be after an ensemble could not be written, for whatever reason. -/
def PersistFails (ensemble : Ensemble π) (now : Timestamp) (tree : FileTree) (model : Path)
    (later : FileTree) : Prop :=
  WriteStep.Stops WriteStep.Leaves tree (ensemble.persistSteps now model) later

theorem persistFails_of_persist {error : ModelError}
    (h : ensemble.persist now tree model = (later, .error error)) :
    ensemble.PersistFails now tree model later :=
  (WriteStep.stops_of_runAll h).mono WriteStep.Fails.leaves

end Ensemble

end Dialogue
