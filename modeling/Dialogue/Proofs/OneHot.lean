import Dialogue.Prediction
import Dialogue.Proofs.ActionIndex

namespace Dialogue.Prediction

variable {domain : Domain} {action : String} {score : Float} {size i index : Nat}

theorem length_oneHot (size index : Nat) (score : Float) :
    (oneHot size index score).length = size := by
  unfold oneHot
  rw [List.length_set, List.length_replicate]

theorem getElem?_oneHot (score : Float) (h : index < size) :
    (oneHot size index score)[index]? = some score := by
  unfold oneHot
  rw [List.getElem?_set_self (by rwa [List.length_replicate])]

theorem getElem?_oneHot_ne (score : Float) (hi : i < size) (h : i ≠ index) :
    (oneHot size index score)[i]? = some 0.0 := by
  unfold oneHot
  rw [List.getElem?_set_ne h.symm, List.getElem?_replicate_of_lt hi]

theorem mem_oneHot {s : Float} (h : s ∈ oneHot size index score) : s = 0.0 ∨ s = score := by
  rcases List.mem_or_eq_of_mem_set h with hmem | hs
  · exact Or.inl (List.eq_of_mem_replicate hmem)
  · exact Or.inr hs

theorem ofAction_eq_ok_iff {prediction : Prediction} :
    ofAction domain action score = .ok prediction ↔
      ∃ index, domain.index? action = some index ∧ prediction =
        { scores := oneHot domain.size index score, policyName := none,
          priority := defaultPriority } := by
  unfold ofAction Domain.index
  cases domain.index? action with
  | none =>
    constructor
    · intro h
      cases h
    · rintro ⟨_, h, _⟩
      cases h
  | some index =>
    constructor
    · intro h
      cases h
      exact ⟨index, rfl, rfl⟩
    · rintro ⟨_, h, hprediction⟩
      cases h
      rw [hprediction]
      rfl

def Numeric (prediction : Prediction) : Prop :=
  ∀ score ∈ prediction.scores, score.isNaN = false

/-- No scores at all, or full confidence in one action of the domain. -/
def Plain (domain : Domain) (prediction : Prediction) : Prop :=
  prediction.scores = [] ∨
    ∃ index < domain.size, prediction.scores = oneHot domain.size index 1.0

theorem numeric_of_oneHot {prediction : Prediction}
    (h : prediction.scores = oneHot size index 1.0) : prediction.Numeric := by
  intro score hscore
  rw [h] at hscore
  rcases mem_oneHot hscore with rfl | rfl <;> decide

theorem Plain.numeric {prediction : Prediction} (h : prediction.Plain domain) :
    prediction.Numeric := by
  rcases h with hnil | ⟨index, _, hscores⟩
  · intro score hscore
    rw [hnil] at hscore
    exact absurd hscore List.not_mem_nil
  · exact numeric_of_oneHot hscores

theorem plain_abstain (domain : Domain) (priority : Int32) : (abstain priority).Plain domain :=
  Or.inl rfl

theorem plain_ofAction {prediction : Prediction}
    (h : ofAction domain action 1.0 = .ok prediction) : prediction.Plain domain := by
  obtain ⟨index, hindex, rfl⟩ := ofAction_eq_ok_iff.1 h
  exact Or.inr ⟨index, Domain.index?_lt hindex, rfl⟩

/-- The outcome is full confidence in one action, with a priority. -/
def Chooses {ε : Type} (outcome : Except ε Prediction) (domain : Domain) (action : String)
    (priority : Int32) : Prop :=
  ∃ prediction index, outcome = .ok prediction ∧ domain.index? action = some index ∧
    prediction.scores = oneHot domain.size index 1.0 ∧ prediction.priority = priority

theorem not_chooses_abstain {ε : Type} {outcome : Except ε Prediction} {priority other : Int32}
    (h : outcome = .ok (abstain other)) : ¬ Chooses outcome domain action priority := by
  rintro ⟨prediction, index, hprediction, hindex, hscores, _⟩
  cases h.symm.trans hprediction
  have hlength := congrArg List.length hscores
  rw [length_oneHot] at hlength
  have hlt := Domain.index?_lt hindex
  rw [← hlength] at hlt
  exact absurd hlt (Nat.not_lt_zero index)

theorem exists_ofAction (h : domain.hasAction action = true) (score : Float) :
    ∃ prediction, ofAction domain action score = .ok prediction := by
  obtain ⟨index, hindex⟩ := Domain.hasAction_iff.1 h
  exact ⟨_, ofAction_eq_ok_iff.2 ⟨index, hindex, rfl⟩⟩

end Dialogue.Prediction
