import Dialogue.FileTree.Path
import Dialogue.Model.Metadata
import Dialogue.Policy.Builtin
import Dialogue.Proofs.Labels

namespace Dialogue

namespace Path

/-- A name has characters, none of them a separator, and is not one of the dots. -/
structure IsName (name : String) : Prop where
  ne_empty : name ≠ ""
  ne_dot : name ≠ "."
  ne_dots : name ≠ ".."
  no_separator : '/' ∉ name.toList

theorem splitParts_ne_nil (cs : List Char) : splitParts cs ≠ [] := by
  cases cs with
  | nil => exact List.cons_ne_nil _ _
  | cons c rest =>
    rw [splitParts]
    split
    · exact List.cons_ne_nil _ _
    · split <;> exact List.cons_ne_nil _ _

theorem splitParts_of_not_mem {cs : List Char} (h : '/' ∉ cs) : splitParts cs = [cs] := by
  induction cs with
  | nil => rfl
  | cons c rest ih =>
    rw [List.mem_cons, not_or] at h
    rw [splitParts, ih h.2]
    dsimp only
    rw [if_neg (Ne.symm h.1)]

theorem splitParts_append (cs rest : List Char) :
    splitParts (cs ++ '/' :: rest) = splitParts cs ++ splitParts rest := by
  induction cs with
  | nil =>
    show splitParts ('/' :: rest) = [] :: splitParts rest
    rw [splitParts]
    cases h : splitParts rest with
    | nil => exact absurd h (splitParts_ne_nil rest)
    | cons part parts => exact if_pos rfl
  | cons c cs ih =>
    rw [List.cons_append, splitParts, splitParts, ih]
    cases h : splitParts cs with
    | nil => exact absurd h (splitParts_ne_nil cs)
    | cons part parts =>
      rw [List.cons_append]
      dsimp only
      split <;> rfl

def stepsOf (cs : List Char) : List String :=
  ((splitParts cs).map String.ofList).filter (· != "")

theorem stepsOf_append (cs rest : List Char) :
    stepsOf (cs ++ '/' :: rest) = stepsOf cs ++ stepsOf rest := by
  unfold stepsOf
  rw [splitParts_append, List.map_append, List.filter_append]

theorem stepsOf_name {name : String} (h : IsName name) : stepsOf name.toList = [name] := by
  unfold stepsOf
  rw [splitParts_of_not_mem h.no_separator, List.map_singleton, String.ofList_toList]
  exact List.filter_cons_of_pos (bne_iff_ne.2 h.ne_empty)

theorem segments_join_of_relative (path : Path) {name : String}
    (h : name.toList.head? ≠ some '/') :
    (path.join name).segments = path.segments ++ (Path.mk name).segments := by
  show stepsOf (path.join name).text.toList = stepsOf path.text.toList ++ stepsOf name.toList
  unfold join
  rw [if_neg h]
  split
  · rename_i hopen
    rw [String.toList_append]
    rcases hopen with hempty | hslash
    · rw [hempty]
      rfl
    · obtain ⟨front, hfront⟩ := List.getLast?_eq_some_iff.1 hslash
      rw [hfront, List.append_assoc, List.singleton_append, stepsOf_append, stepsOf_append]
      show _ = (stepsOf front ++ []) ++ _
      rw [List.append_nil]
  · rw [String.toList_append, String.toList_append, List.append_assoc]
    exact stepsOf_append _ _

theorem IsName.relative {name : String} (h : IsName name) : name.toList.head? ≠ some '/' :=
  fun hhead => h.no_separator (List.mem_of_head? hhead)

theorem segments_join (path : Path) {name : String} (h : IsName name) :
    (path.join name).segments = path.segments ++ [name] := by
  rw [segments_join_of_relative path h.relative]
  exact congrArg (path.segments ++ ·) (stepsOf_name h)

theorem endsOpen_join (path : Path) {name : String} (h : IsName name) :
    (path.join name).endsOpen = false := by
  have hne : name.toList ≠ [] := by simpa using h.ne_empty
  have hlast : name.toList.getLast hne ≠ '/' :=
    fun hlast => h.no_separator (hlast ▸ List.getLast_mem hne)
  have hname : name.toList.getLast? = some (name.toList.getLast hne) :=
    List.getLast?_eq_some_getLast hne
  unfold endsOpen join
  rw [if_neg h.relative]
  split <;> simp [List.getLast?_append, List.getLast?_cons, hname, hlast]

theorem isSingleName_of_isName {name : String} (h : IsName name) :
    (Path.mk name).isSingleName = true := by
  have hparts : (Path.mk name).parts = [name] := by
    show (splitParts name.toList).map String.ofList = [name]
    rw [splitParts_of_not_mem h.no_separator, List.map_singleton, String.ofList_toList]
  unfold isSingleName
  rw [hparts]
  simp [h.ne_empty, h.ne_dot, h.ne_dots]

def folder (path : Path) : String := path.parts.headD ""

theorem folder_of_isName {name : String} (h : IsName name) : (Path.mk name).folder = name := by
  show (((splitParts name.toList).map String.ofList).headD "") = name
  rw [splitParts_of_not_mem h.no_separator]
  simp

theorem segments_of_isSingleName {name : String} (h : (Path.mk name).isSingleName = true) :
    ∃ dots, (Path.mk name).segments = (Path.mk name).folder :: dots ∧ (∀ dot ∈ dots, dot = ".") ∧
      (Path.mk name).folder ≠ "." ∧ (Path.mk name).folder ≠ ".." := by
  unfold isSingleName at h
  unfold segments folder
  cases hparts : (Path.mk name).parts with
  | nil => simp [hparts] at h
  | cons first rest =>
    rw [hparts] at h
    simp at h
    obtain ⟨⟨hempty, hdot, hdots⟩, hrest⟩ := h
    refine ⟨rest.filter (· != ""), ?_, ?_, hdot, hdots⟩
    · simp [hempty]
    · intro dot hdot
      simp only [List.mem_filter, bne_iff_ne] at hdot
      exact (hrest dot hdot.1).resolve_left hdot.2

theorem relative_of_isSingleName {name : String} (h : (Path.mk name).isSingleName = true) :
    name.toList.head? ≠ some '/' := by
  intro hhead
  obtain ⟨rest, hrest⟩ := List.head?_eq_some_iff.1 hhead
  have hparts : (Path.mk name).parts = "" :: (splitParts rest).map String.ofList := by
    show (splitParts name.toList).map String.ofList = _
    rw [hrest]
    exact congrArg (List.map String.ofList) (splitParts_append [] rest)
  unfold isSingleName at h
  rw [hparts] at h
  simp at h

end Path

namespace Ensemble

theorem label_ne {other : String} (index : Nat) (typeName : String)
    (h : other.toList.head? ≠ some 'p') : label index typeName ≠ other := by
  rintro rfl
  rw [toList_label] at h
  exact h rfl

theorem isName_label (index : Nat) {typeName : String} (h : '/' ∉ typeName.toList) :
    Path.IsName (label index typeName) where
  ne_empty := label_ne index typeName (by decide)
  ne_dot := label_ne index typeName (by decide)
  ne_dots := label_ne index typeName (by decide)
  no_separator := by
    rw [toList_label, List.mem_append, List.mem_append, List.mem_cons]
    rintro (hhead | hdigit | hmark | hname)
    · exact absurd hhead (by decide)
    · have hslash := Nat.isDigit_of_mem_toDigits (b := 10) (by decide) (by decide) hdigit
      exact absurd hslash (by decide)
    · exact absurd hmark (by decide)
    · exact h hname

end Ensemble

theorem BuiltinPolicy.no_separator (policy : BuiltinPolicy) :
    '/' ∉ (Policy.typeName policy).toList := by
  have hall : ∀ name ∈ [MemoizationPolicy.typeName, AugmentedMemoizationPolicy.typeName,
      RulePolicy.typeName, UnexpectedIntentPolicy.typeName, FallbackPolicy.typeName],
      '/' ∉ name.toList := by decide
  apply hall
  cases policy <;> simp [Policy.typeName]

end Dialogue
