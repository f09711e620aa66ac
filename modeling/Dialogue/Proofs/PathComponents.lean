import Dialogue.Proofs.ModelPaths

namespace Dialogue.Path

variable {path : Path} {first : String} {rest : List String}

def steps (path : Path) : List String := path.segments.filter (· != ".")

inductive Component where
  | root
  | current
  | parent
  | normal (name : String)
deriving DecidableEq

def Component.ofStep (step : String) : Component := if step = ".." then .parent else .normal step

/-- The components of a path. Of the dots that stay in place only one at the start of a relative path
is a component; two dots are never taken together with the name before them. -/
def components (path : Path) : List Component :=
  (if path.text.toList.head? = some '/' then [.root]
    else if path.parts.head? = some "." then [.current] else []) ++ path.steps.map .ofStep

/-! ### The first part -/

theorem splitParts_eq_cons {cs part : List Char} {parts : List (List Char)}
    (h : splitParts cs = part :: parts) :
    parts = [] ∧ cs = part ∨
      parts ≠ [] ∧ ∃ tail, cs = part ++ '/' :: tail ∧ parts = splitParts tail := by
  induction cs generalizing part with
  | nil =>
    cases h
    exact Or.inl ⟨rfl, rfl⟩
  | cons c cs ih =>
    rw [splitParts] at h
    cases hcs : splitParts cs with
    | nil => exact absurd hcs (splitParts_ne_nil cs)
    | cons next others =>
      rw [hcs] at h
      dsimp only at h
      split at h
      · rename_i hc
        cases h
        exact Or.inr ⟨List.cons_ne_nil _ _, cs, by rw [hc, List.nil_append], hcs.symm⟩
      · cases h
        rcases ih hcs with ⟨hparts, rfl⟩ | ⟨hparts, tail, rfl, htail⟩
        · exact Or.inl ⟨hparts, rfl⟩
        · exact Or.inr ⟨hparts, tail, rfl, htail⟩

theorem text_of_parts (h : path.parts = first :: rest) :
    rest = [] ∧ path.text = first ∨
      rest ≠ [] ∧ ∃ tail, path.text.toList = first.toList ++ '/' :: tail := by
  obtain ⟨part, parts, hsplit, rfl, rfl⟩ := List.map_eq_cons_iff.1 h
  rcases splitParts_eq_cons hsplit with ⟨rfl, htext⟩ | ⟨hparts, tail, htext, -⟩
  · exact Or.inl ⟨rfl, by rw [← htext, String.ofList_toList]⟩
  · exact Or.inr ⟨by simpa using hparts, tail, by rw [htext, String.toList_ofList]⟩

theorem not_mem_of_mem_splitParts {cs part : List Char} (h : part ∈ splitParts cs) :
    '/' ∉ part := by
  induction cs generalizing part with
  | nil =>
    cases List.mem_singleton.1 h
    exact List.not_mem_nil
  | cons c cs ih =>
    rw [splitParts] at h
    cases hcs : splitParts cs with
    | nil => exact absurd hcs (splitParts_ne_nil cs)
    | cons next others =>
      rw [hcs] at h ih
      dsimp only at h
      split at h
      · rcases List.mem_cons.1 h with rfl | h
        · exact List.not_mem_nil
        · exact ih h
      · rename_i hc
        rcases List.mem_cons.1 h with rfl | h
        · rw [List.mem_cons, not_or]
          exact ⟨Ne.symm hc, ih List.mem_cons_self⟩
        · exact ih (List.mem_cons_of_mem _ h)

theorem isSingleName_eq_true_iff (h : path.parts = first :: rest) :
    path.isSingleName = true ↔
      (first ≠ "" ∧ first ≠ "." ∧ first ≠ "..") ∧ ∀ part ∈ rest, part = "" ∨ part = "." := by
  unfold isSingleName
  rw [h]
  simp

theorem exists_parts (path : Path) : ∃ first rest, path.parts = first :: rest := by
  have hne : path.parts ≠ [] := by simpa [parts] using splitParts_ne_nil path.text.toList
  exact List.exists_cons_of_ne_nil hne

theorem steps_of_parts (h : path.parts = first :: rest) (hempty : first ≠ "") (hdot : first ≠ ".") :
    path.steps = first :: (rest.filter (· != "")).filter (· != ".") := by
  unfold steps segments
  simp [h, hempty, hdot]

theorem no_steps_iff : (rest.filter (· != "")).filter (· != ".") = [] ↔
    ∀ part ∈ rest, part = "" ∨ part = "." := by
  simp only [List.filter_filter, List.filter_eq_nil_iff, Bool.and_eq_true, bne_iff_ne,
    Decidable.not_and_iff_not_or_not, Decidable.not_not]
  exact forall₂_congr fun _ _ => or_comm

/-! ### Single names -/

theorem folder_of_parts (h : path.parts = first :: rest) : path.folder = first := by
  unfold folder
  rw [h, List.headD_cons]

theorem steps_of_isSingleName (h : path.isSingleName = true) : path.steps = [path.folder] := by
  obtain ⟨first, rest, hparts⟩ := path.exists_parts
  obtain ⟨⟨hempty, hdot, -⟩, hrest⟩ := (isSingleName_eq_true_iff hparts).1 h
  rw [steps_of_parts hparts hempty hdot, no_steps_iff.2 hrest, folder_of_parts hparts]

theorem isName_folder (h : path.isSingleName = true) : IsName path.folder := by
  obtain ⟨first, rest, hparts⟩ := path.exists_parts
  obtain ⟨⟨hempty, hdot, hdots⟩, -⟩ := (isSingleName_eq_true_iff hparts).1 h
  rw [folder_of_parts hparts]
  refine ⟨hempty, hdot, hdots, ?_⟩
  have hmem : first ∈ path.parts := hparts ▸ List.mem_cons_self
  obtain ⟨part, hpart, rfl⟩ := List.mem_map.1 hmem
  rw [String.toList_ofList]
  exact not_mem_of_mem_splitParts hpart

theorem components_of_isSingleName (h : path.isSingleName = true) :
    path.components = [.normal path.folder] := by
  obtain ⟨first, rest, hparts⟩ := path.exists_parts
  have hname := isName_folder h
  have hdot : path.parts.head? ≠ some "." := by
    rw [hparts, ← folder_of_parts hparts]
    simpa using hname.ne_dot
  unfold components
  rw [if_neg (relative_of_isSingleName h), if_neg hdot, steps_of_isSingleName h]
  simp [Component.ofStep, hname.ne_dots]

/-- A path leads one step down exactly if its components are a single name. -/
theorem isSingleName_iff_components :
    path.isSingleName = true ↔ ∃ name, path.components = [.normal name] := by
  obtain ⟨first, rest, hparts⟩ := path.exists_parts
  constructor
  · exact fun h => ⟨path.folder, components_of_isSingleName h⟩
  · rintro ⟨name, h⟩
    unfold components at h
    split at h
    · simp at h
    · rename_i hrelative
      split at h
      · simp at h
      · rename_i hcurrent
        have hdot : first ≠ "." := by simpa [hparts] using hcurrent
        have hempty : first ≠ "" := by
          rintro rfl
          rcases text_of_parts hparts with ⟨rfl, htext⟩ | ⟨-, tail, htext⟩
          · simp [steps, segments, hparts] at h
          · exact hrelative (by rw [htext]; rfl)
        rw [List.nil_append, steps_of_parts hparts hempty hdot, List.map_cons, List.cons.injEq,
          List.map_eq_nil_iff, no_steps_iff] at h
        have hdots : first ≠ ".." := by
          rintro rfl
          exact nomatch h.1
        exact (isSingleName_eq_true_iff hparts).2 ⟨⟨hempty, hdot, hdots⟩, h.2⟩

example : (Path.mk "./kept//./../x/.").components =
    [.current, .normal "kept", .parent, .normal "x"] := by
  decide

/-! ### Other paths -/

/-- A path that leads nowhere, stays in place, leads to more than one step or away. -/
inductive Stray (path : Path) : Prop
  | empty (h : path.text = "")
  | dot (h : path.text = ".")
  | absolute (h : path.text.toList.head? = some '/')
  | startsInPlace (h : ['.', '/'] <+: path.text.toList)
  | leaves (h : ".." ∈ path.parts)
  | deep (h : 2 ≤ path.steps.length)

theorem Stray.not_isSingleName (h : path.Stray) : path.isSingleName = false := by
  rw [← Bool.not_eq_true]
  intro hsingle
  obtain ⟨first, rest, hparts⟩ := path.exists_parts
  obtain ⟨⟨hempty, hdot, hdots⟩, hrest⟩ := (isSingleName_eq_true_iff hparts).1 hsingle
  cases h with
  | empty h =>
    cases path
    cases h
    exact absurd hsingle (by decide)
  | dot h =>
    cases path
    cases h
    exact absurd hsingle (by decide)
  | absolute h => exact relative_of_isSingleName hsingle h
  | startsInPlace h =>
    obtain ⟨tail, htail⟩ := h
    have hfirst : path.parts.head? = some "." := by
      unfold parts
      rw [← htail]
      exact congrArg (fun parts => (parts.map String.ofList).head?) (splitParts_append ['.'] tail)
    exact hdot (by simpa [hparts] using hfirst)
  | leaves h =>
    rw [hparts] at h
    rcases List.mem_cons.1 h with h | h
    · exact hdots h.symm
    · exact absurd (hrest ".." h) (by decide)
  | deep h =>
    rw [steps_of_parts hparts hempty hdot, no_steps_iff.2 hrest, List.length_singleton] at h
    omega

theorem isSingleName_eq_false_iff : path.isSingleName = false ↔ path.Stray := by
  refine ⟨fun h => ?_, Stray.not_isSingleName⟩
  obtain ⟨first, rest, hparts⟩ := path.exists_parts
  rw [← Bool.not_eq_true, isSingleName_eq_true_iff hparts] at h
  have htext := text_of_parts hparts
  by_cases hempty : first = ""
  · cases hempty
    rcases htext with ⟨-, htext⟩ | ⟨-, tail, htext⟩
    · exact .empty htext
    · exact .absolute (by rw [htext]; rfl)
  by_cases hdot : first = "."
  · cases hdot
    rcases htext with ⟨-, htext⟩ | ⟨-, tail, htext⟩
    · exact .dot htext
    · exact .startsInPlace ⟨tail, htext.symm⟩
  by_cases hdots : first = ".."
  · cases hdots
    exact .leaves (hparts ▸ List.mem_cons_self)
  · apply Stray.deep
    rw [steps_of_parts hparts hempty hdot, List.length_cons]
    have hmore : (rest.filter (· != "")).filter (· != ".") ≠ [] :=
      fun hnone => h ⟨⟨hempty, hdot, hdots⟩, no_steps_iff.1 hnone⟩
    have := List.length_pos_iff.2 hmore
    omega

end Dialogue.Path
