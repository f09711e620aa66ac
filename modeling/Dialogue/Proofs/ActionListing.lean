import Dialogue.Proofs.OneHot
import Dialogue.Proofs.Slices
import Mathlib.Data.List.Induction

/-!
A domain lists the default actions first, then the others in the order of first occurrence. One pass
keeps the names and a map of their places in step.
-/
namespace Dialogue

/-! ### One pass -/

structure Listing where
  names : List String
  places : SortedMap Nat

namespace Listing

variable {listing : Listing} {name other : String}

def empty : Listing := ⟨[], ∅⟩

/-- A name that is listed already keeps its place. -/
def add (listing : Listing) (name : String) : Listing :=
  if listing.places.contains name then listing
  else ⟨listing.names ++ [name], listing.places.insert name listing.names.length⟩

def ofNames (names : List String) : Listing := names.foldl add empty

/-- The map says of each name at which place it is listed. -/
def InStep (listing : Listing) : Prop :=
  ∀ name place, listing.places.get? name = some place ↔ listing.names[place]? = some name

theorem InStep.contains_iff (h : listing.InStep) :
    listing.places.contains name = true ↔ name ∈ listing.names := by
  unfold SortedMap.contains
  rw [Option.isSome_iff_exists, List.mem_iff_getElem?]
  exact exists_congr fun place => h name place

theorem InStep.add (h : listing.InStep) (name : String) : (listing.add name).InStep := by
  unfold Listing.add
  by_cases hlisted : listing.places.contains name = true
  · rw [if_pos hlisted]
    exact h
  · rw [if_neg hlisted]
    rw [h.contains_iff] at hlisted
    intro other place
    rw [SortedMap.get?_insert, getElem?_concat_iff, ← h other place]
    by_cases hname : other = name
    · subst hname
      have hnone : listing.places.get? other ≠ some place := fun hplace =>
        hlisted (List.mem_of_getElem? ((h other place).1 hplace))
      rw [if_pos rfl, Option.some.injEq, or_iff_right hnone, and_iff_left rfl]
      exact eq_comm
    · rw [if_neg hname]
      exact (or_iff_left fun heq => hname heq.2.symm).symm

theorem ofNames_concat (names : List String) (name : String) :
    ofNames (names ++ [name]) = (ofNames names).add name := by
  unfold ofNames
  rw [List.foldl_append]
  rfl

theorem inStep_ofNames (names : List String) : (ofNames names).InStep := by
  induction names using List.reverseRecOn with
  | nil =>
    intro name place
    simp [ofNames, empty]
  | append_singleton names name ih =>
    rw [ofNames_concat]
    exact ih.add name

theorem distinct_concat {α : Type} [DecidableEq α] (items : List α) (item : α) :
    distinct (items ++ [item]) =
      if item ∈ items then distinct items else distinct items ++ [item] := by
  rw [distinct_append]
  by_cases h : item ∈ items <;> simp [distinct, h]

theorem names_ofNames (names : List String) : (ofNames names).names = distinct names := by
  induction names using List.reverseRecOn with
  | nil => rfl
  | append_singleton names name ih =>
    have hlisted : (ofNames names).places.contains name = true ↔ name ∈ names := by
      rw [(inStep_ofNames names).contains_iff, ih, mem_distinct]
    rw [ofNames_concat, distinct_concat, add]
    by_cases h : name ∈ names
    · rw [if_pos (hlisted.2 h), if_pos h, ih]
    · rw [if_neg (mt hlisted.1 h), if_neg h, ih]

end Listing

/-! ### The order of the actions -/

theorem pairwise_idxOf_distinct {α : Type} [DecidableEq α] (items : List α) :
    (distinct items).Pairwise fun a b => items.idxOf a < items.idxOf b := by
  induction items with
  | nil => exact .nil
  | cons item rest ih =>
    rw [distinct, List.pairwise_cons]
    constructor
    · intro b hb
      have hne : b ≠ item := by simpa using (List.mem_filter.1 hb).2
      rw [List.idxOf_cons_self, List.idxOf_cons_ne _ hne.symm]
      exact Nat.succ_pos _
    · refine (ih.filter _).imp_of_mem fun {a b} ha hb hlt => ?_
      have hane : a ≠ item := by simpa using (List.mem_filter.1 ha).2
      have hbne : b ≠ item := by simpa using (List.mem_filter.1 hb).2
      rw [List.idxOf_cons_ne _ hane.symm, List.idxOf_cons_ne _ hbne.symm]
      exact Nat.succ_lt_succ hlt

namespace Domain

variable {domain : Domain} {name : String} {index : Nat}

/-- The actions of a domain that was given some actions: the default ones, then the others as they
first occur, each once. -/
structure Lists (domain : Domain) (actions : List String) : Prop where
  starts : defaultActions <+: domain.actions
  mem_iff : ∀ name, name ∈ domain.actions ↔ name ∈ defaultActions ∨ name ∈ actions
  once : domain.actions.Nodup
  inOrder : (domain.actions.drop defaultActions.length).Pairwise fun a b =>
    actions.idxOf a < actions.idxOf b

theorem distinct_defaultActions : distinct defaultActions = defaultActions :=
  distinct_eq_self (by decide)

theorem actions_ofParts (intents entities : List String) (slots : List Slot)
    (actions : List String) : (ofParts intents entities slots actions).actions =
      defaultActions ++ (distinct actions).filter fun name => !defaultActions.contains name := by
  show distinct (defaultActions ++ actions) = _
  rw [distinct_append, distinct_defaultActions]

theorem lists_ofParts (intents entities : List String) (slots : List Slot)
    (actions : List String) : (ofParts intents entities slots actions).Lists actions where
  starts := (ofParts intents entities slots actions).defaults
  mem_iff name := mem_distinct.trans List.mem_append
  once := (ofParts intents entities slots actions).nodup
  inOrder := by
    rw [actions_ofParts, List.drop_left]
    exact (pairwise_idxOf_distinct actions).filter _

theorem ofParts_actions (domain : Domain) :
    ofParts domain.intents domain.entities domain.slots domain.actions = domain := by
  refine ext rfl rfl rfl ?_
  obtain ⟨others, hothers⟩ := domain.defaults
  have hapart := (List.nodup_append.1 (hothers.symm ▸ domain.nodup)).2.2
  have hdefaults : defaultActions.filter (fun name => !defaultActions.contains name) = [] := by
    decide
  rw [actions_ofParts, distinct_eq_self domain.nodup, ← hothers, List.filter_append, hdefaults,
    List.nil_append, List.filter_eq_self.2]
  intro name hname
  simpa using fun hdefault => hapart name hdefault name hname rfl

/-- Names and indices of the actions correspond, and what there is not is refused. -/
structure Indexes (domain : Domain) : Prop where
  index_iff : ∀ name index, domain.index name = .ok index ↔ domain.action index = .ok name
  hasAction_iff_mem : ∀ name, domain.hasAction name = true ↔ name ∈ domain.actions
  index_lt : ∀ name index, domain.index name = .ok index → index < domain.size
  index_error_iff : ∀ name error, domain.index name = .error error ↔
    name ∉ domain.actions ∧ error = .actionNotFound name
  action_error_iff : ∀ index error, domain.action index = .error error ↔
    domain.size ≤ index ∧ error = .indexOutOfRange index domain.size

theorem action_eq_ok_iff : domain.action index = .ok name ↔
    domain.actions[index]? = some name := by
  unfold action
  cases domain.actions[index]? with
  | none => simp
  | some other => simp

theorem index_eq_error_iff {error : DomainError} : domain.index name = .error error ↔
    name ∉ domain.actions ∧ error = .actionNotFound name := by
  rw [← index?_eq_none_iff]
  unfold Domain.index
  cases domain.index? name with
  | none => simp [eq_comm]
  | some i => simp

theorem action_eq_error_iff {error : DomainError} : domain.action index = .error error ↔
    domain.size ≤ index ∧ error = .indexOutOfRange index domain.size := by
  unfold size
  rw [← List.getElem?_eq_none_iff]
  unfold action
  cases domain.actions[index]? with
  | none => simp [eq_comm, size]
  | some other => simp

theorem indexes (domain : Domain) : domain.Indexes where
  index_iff name index := by
    rw [index_eq_ok_iff, index?_eq_some_iff, action_eq_ok_iff]
  hasAction_iff_mem name := List.contains_iff_mem
  index_lt name index h := index?_lt (index_eq_ok_iff.1 h)
  index_error_iff name error := index_eq_error_iff
  action_error_iff index error := action_eq_error_iff

end Domain

/-! ### Predictions of one action -/

namespace Prediction

variable {domain : Domain} {action : String} {score : Float}

/-- A prediction with a score for each action: the given one for the action, zero for the others. -/
structure Singles (prediction : Prediction) (domain : Domain) (action : String) (score : Float) :
    Prop where
  length_scores : prediction.scores.length = domain.size
  score_at : ∃ index, domain.index action = .ok index ∧ ∀ i < domain.size,
    prediction.scores[i]? = some (if i = index then score else 0.0)

theorem singles_of_ofAction {prediction : Prediction}
    (h : ofAction domain action score = .ok prediction) :
    prediction.Singles domain action score := by
  obtain ⟨index, hindex, rfl⟩ := ofAction_eq_ok_iff.1 h
  refine ⟨length_oneHot _ _ _, index, Domain.index_eq_ok_iff.2 hindex, fun i hi => ?_⟩
  by_cases heq : i = index
  · subst heq
    rw [if_pos rfl]
    exact getElem?_oneHot score hi
  · rw [if_neg heq]
    exact getElem?_oneHot_ne score hi heq

structure Answers (domain : Domain) (action : String) (score : Float) : Prop where
  singles : ∀ prediction, ofAction domain action score = .ok prediction →
    prediction.Singles domain action score
  exists_iff : (∃ prediction, ofAction domain action score = .ok prediction) ↔
    action ∈ domain.actions
  error_iff : ∀ error, ofAction domain action score = .error error ↔
    action ∉ domain.actions ∧ error = .actionNotFound action

theorem ofAction_eq_error_iff {error : DomainError} : ofAction domain action score = .error error ↔
    action ∉ domain.actions ∧ error = .actionNotFound action := by
  rw [← Domain.index_eq_error_iff]
  unfold ofAction
  cases domain.index action with
  | ok index => exact iff_of_false (fun h => nomatch h) (fun h => nomatch h)
  | error other => exact ⟨fun h => by cases h; rfl, fun h => by cases h; rfl⟩

theorem answers (domain : Domain) (action : String) (score : Float) :
    Answers domain action score where
  singles prediction h := singles_of_ofAction h
  exists_iff := by
    simp only [ofAction_eq_ok_iff]
    rw [← List.contains_iff_mem]
    refine Iff.trans ?_ Domain.hasAction_iff.symm
    exact ⟨fun ⟨_, index, hindex, _⟩ => ⟨index, hindex⟩,
      fun ⟨index, hindex⟩ => ⟨_, index, hindex, rfl⟩⟩
  error_iff error := ofAction_eq_error_iff

end Prediction

namespace Domain

structure ListedBy (domain : Domain) (listing : Listing) : Prop where
  names_eq : listing.names = domain.actions
  place_eq : ∀ name, listing.places.get? name = domain.index? name

theorem listedBy_ofNames (intents entities : List String) (slots : List Slot)
    (actions : List String) : (ofParts intents entities slots actions).ListedBy
      (.ofNames (defaultActions ++ actions)) := by
  have hnames : (Listing.ofNames (defaultActions ++ actions)).names =
      (ofParts intents entities slots actions).actions := Listing.names_ofNames _
  refine ⟨hnames, fun name => Option.ext fun place => ?_⟩
  rw [index?_eq_some_iff, ← hnames]
  exact Listing.inStep_ofNames _ name place

/-- A domain lists its default actions, then the others in the order of first occurrence, as one
pass over them lists them; names and indices correspond, the list makes the same domain again, and
every listed action can be predicted at its own index, no other at all. -/
theorem ofParts_indexes (intents entities : List String) (slots : List Slot)
    (actions : List String) :
    let domain := ofParts intents entities slots actions
    domain.Lists actions ∧ domain.ListedBy (.ofNames (defaultActions ++ actions)) ∧
      domain.Indexes ∧ ofParts intents entities slots domain.actions = domain ∧
      ∀ action score, Prediction.Answers domain action score :=
  ⟨lists_ofParts intents entities slots actions, listedBy_ofNames intents entities slots actions,
    indexes _, ofParts_actions (ofParts intents entities slots actions),
    fun action score => Prediction.answers _ action score⟩

end Domain

end Dialogue
