import Dialogue.Proofs.Ranking
import Dialogue.Proofs.Slices

/-!
The top score and its index come from two passes over the scores. The first passes over what is not
a number; the second takes it, and then takes whatever follows.
-/
namespace Dialogue.Prediction

/-- What the second pass holds after some scores: later ones are not better, earlier ones are worse
or were lost to a score that is not a number. -/
structure HeldAt (scores : List Float) (index : Nat) (best : Float) : Prop where
  held : scores[index]? = some best
  later : ∀ j score, index < j → scores[j]? = some score → score ≤ best
  earlier : ∀ j score, j < index → scores[j]? = some score → score < best ∨
    ∃ k lost, j ≤ k ∧ k ≤ index ∧ scores[k]? = some lost ∧ lost.isNaN = true

theorem HeldAt.single (score : Float) : HeldAt [score] 0 score where
  held := rfl
  later j _ hj h := by
    rw [List.getElem?_eq_none (Nat.succ_le_of_lt hj)] at h
    cases h
  earlier j _ hj := absurd hj (Nat.not_lt_zero j)

namespace HeldAt

variable {scores : List Float} {index : Nat} {best : Float}

theorem index_lt (h : HeldAt scores index best) : index < scores.length :=
  (List.getElem?_eq_some_iff.1 h.held).1

theorem keep {next : Float} (h : HeldAt scores index best) (hnext : next ≤ best) :
    HeldAt (scores ++ [next]) index best where
  held := by rw [List.getElem?_append_left h.index_lt, h.held]
  later j score hj hscore := by
    rcases getElem?_concat_iff.1 hscore with hold | ⟨_, rfl⟩
    · exact h.later j score hj hold
    · exact hnext
  earlier j score hj hscore := by
    rw [List.getElem?_append_left (hj.trans h.index_lt)] at hscore
    refine (h.earlier j score hj hscore).imp_right ?_
    rintro ⟨k, lost, hjk, hk, hlost, hnan⟩
    refine ⟨k, lost, hjk, hk, ?_, hnan⟩
    rw [List.getElem?_append_left (hk.trans_lt h.index_lt), hlost]

theorem replace {next : Float} (h : HeldAt scores index best) (hnext : ¬ next ≤ best) :
    HeldAt (scores ++ [next]) scores.length next where
  held := List.getElem?_concat_length
  later j score hj hscore := by
    rcases getElem?_concat_iff.1 hscore with hold | ⟨rfl, _⟩
    · exact absurd (List.getElem?_eq_some_iff.1 hold).1 hj.not_gt
    · exact absurd hj (Nat.lt_irrefl _)
  earlier j score hj hscore := by
    rw [List.getElem?_append_left hj] at hscore
    by_cases hnextNum : next.isNaN = true
    · exact Or.inr ⟨_, next, hj.le, le_rfl, List.getElem?_concat_length, hnextNum⟩
    rw [Bool.not_eq_true] at hnextNum
    -- what the old best is still behind the new one
    have hindex : (scores ++ [next])[index]? = some best := by
      rw [List.getElem?_append_left h.index_lt, h.held]
    rcases Nat.lt_trichotomy j index with hlt | rfl | hgt
    · rcases h.earlier j score hlt hscore with hless | ⟨k, lost, hjk, hk, hlost, hnan⟩
      · have hbest := (FloatOrder.isNaN_of_lt hless).2
        exact Or.inl (FloatOrder.lt_trans hless ((FloatOrder.not_le hnextNum hbest).1 hnext))
      · have hk' := hk.trans_lt h.index_lt
        refine Or.inr ⟨k, lost, hjk, hk'.le, ?_, hnan⟩
        rw [List.getElem?_append_left hk', hlost]
    · rw [h.held] at hscore
      cases hscore
      by_cases hbest : best.isNaN = true
      · exact Or.inr ⟨j, best, le_rfl, hj.le, hindex, hbest⟩
      · rw [Bool.not_eq_true] at hbest
        exact Or.inl ((FloatOrder.not_le hnextNum hbest).1 hnext)
    · have hle := h.later j score hgt hscore
      obtain ⟨hscoreNum, hbest⟩ := FloatOrder.isNaN_of_le hle
      have hlt := (FloatOrder.not_le hnextNum hbest).1 hnext
      rw [FloatOrder.le_iff hscoreNum hbest] at hle
      rw [FloatOrder.lt_iff hbest hnextNum] at hlt
      exact Or.inl ((FloatOrder.lt_iff hscoreNum hnextNum).2 (hle.trans_lt hlt))

end HeldAt

theorem zipIdx_append_single (scores : List Float) (next : Float) :
    ((scores ++ [next]).zipIdx.map fun (score, i) => (i, score)) =
      (scores.zipIdx.map fun (score, i) => (i, score)) ++ [(scores.length, next)] := by
  simp [List.zipIdx_append]

theorem foldl_better_heldAt (scores : List Float) (h : scores ≠ []) :
    ∃ index best, (scores.zipIdx.map fun (score, i) => (i, score)).foldl better none =
      some (index, best) ∧ HeldAt scores index best := by
  induction scores using List.reverseRecOn with
  | nil => exact absurd rfl h
  | append_singleton scores next ih =>
    rw [zipIdx_append_single, List.foldl_append]
    by_cases hempty : scores = []
    · rw [hempty]
      exact ⟨0, next, rfl, HeldAt.single next⟩
    · obtain ⟨index, best, hfold, hheld⟩ := ih hempty
      rw [hfold]
      by_cases hnext : next ≤ best
      · exact ⟨index, best, by simp [better, hnext], hheld.keep hnext⟩
      · exact ⟨scores.length, next, by simp [better, hnext], hheld.replace hnext⟩

variable {prediction : Prediction}

theorem bestIndex_heldAt (h : prediction.scores ≠ []) :
    ∃ index best, prediction.bestIndex = some index ∧ HeldAt prediction.scores index best := by
  obtain ⟨index, best, hfold, hheld⟩ := foldl_better_heldAt prediction.scores h
  exact ⟨index, best, by rw [bestIndex, hfold]; rfl, hheld⟩

def TopAt (prediction : Prediction) (index : Nat) : Prop :=
  ∃ score, prediction.scores[index]? = some score ∧ (score == prediction.maxConfidence) = true

/-- One action in all its uses. -/
structure StandsFor (prediction : Prediction) (index : Nat) : Prop where
  /-- Its score is the confidence the prediction is ranked by. -/
  ranked : TopAt prediction index ∧ (Rank.of prediction).confidence = prediction.maxConfidence
  first : ∀ i < index, ¬ TopAt prediction i
  /-- The caller executes it. -/
  executed : prediction.bestIndex = some index
  /-- Its suppression, and no other, keeps the prediction from winning. -/
  barred : ∀ suppressed, prediction.canWin suppressed = true ↔ suppressed ≠ some index
  /-- A listen after a listen is one of this action. -/
  repeats : ∀ (tracker : Tracker) (domain : Domain) (label : String) (fallback : Fallback),
    Ensemble.givesWay tracker domain label fallback (some prediction) = true ↔
      prediction.policyName ≠ some label ∧
        (tracker.latestAction = some listenAction ∧ domain.index? listenAction = some index ∨
          prediction.maxConfidence < fallback.threshold)

def TopAgrees (prediction : Prediction) : Prop :=
  0.0 < prediction.maxConfidence → ∃ index, prediction.StandsFor index

/-- A top score has something behind it that is not a number. -/
def Clouded (prediction : Prediction) : Prop :=
  ∃ i j score, i < j ∧ TopAt prediction i ∧ prediction.scores[j]? = some score ∧
    score.isNaN = true

theorem scores_ne_nil (h : 0.0 < prediction.maxConfidence) : prediction.scores ≠ [] :=
  List.ne_nil_of_mem (prediction.maxConfidence_mem h)

theorem HeldAt.first_top {index : Nat} {best : Float} (h : HeldAt prediction.scores index best)
    (hpos : 0.0 < prediction.maxConfidence) (hclear : ¬ prediction.Clouded) :
    TopAt prediction index ∧ ∀ i < index, ¬ TopAt prediction i := by
  have hmax := prediction.isNaN_maxConfidence
  have hbelow := prediction.not_maxConfidence_lt (List.mem_of_getElem? h.held)
  have hfirst : ∀ i < index, ¬ TopAt prediction i := by
    rintro i hi ⟨score, hscore, htop⟩
    rcases h.earlier i score hi hscore with hlt | ⟨k, lost, hik, _, hlost, hnan⟩
    · exact hbelow (FloatOrder.lt_of_beq_of_lt htop hlt)
    · rcases hik.lt_or_eq with hik | rfl
      · exact hclear ⟨i, k, lost, hik, ⟨score, hscore, htop⟩, hlost, hnan⟩
      · rw [hscore] at hlost
        cases hlost
        rw [(FloatOrder.isNaN_of_beq htop).1] at hnan
        cases hnan
  refine ⟨?_, hfirst⟩
  obtain ⟨m, hm⟩ := List.getElem?_of_mem (prediction.maxConfidence_mem hpos)
  have htop : TopAt prediction m := ⟨_, hm, FloatOrder.beq_refl hmax⟩
  rcases Nat.lt_trichotomy m index with hlt | rfl | hgt
  · exact absurd htop (hfirst m hlt)
  · exact htop
  · exact ⟨best, h.held, FloatOrder.beq_of_le (h.later m _ hgt hm) hbelow⟩

theorem canWin_iff_ne {index : Nat} (hpos : 0.0 < prediction.maxConfidence)
    (hindex : prediction.bestIndex = some index) (suppressed : Option Nat) :
    prediction.canWin suppressed = true ↔ suppressed ≠ some index := by
  rw [canWin_iff]
  constructor
  · rintro h rfl
    exact h.not_suppressed index rfl hindex
  · intro hne
    refine ⟨scores_ne_nil hpos, hpos, ?_⟩
    rintro other rfl hother
    exact hne (hother.symm.trans hindex)

theorem givesWay_iff {index : Nat} (hindex : prediction.bestIndex = some index)
    (tracker : Tracker) (domain : Domain) (label : String) (fallback : Fallback) :
    Ensemble.givesWay tracker domain label fallback (some prediction) = true ↔
      prediction.policyName ≠ some label ∧
        (tracker.latestAction = some listenAction ∧ domain.index? listenAction = some index ∨
          prediction.maxConfidence < fallback.threshold) := by
  rw [@eq_comm _ (domain.index? listenAction)]
  simp [Ensemble.givesWay, hindex]

theorem topAgrees_iff (prediction : Prediction) :
    prediction.TopAgrees ↔ ¬ (0.0 < prediction.maxConfidence ∧ prediction.Clouded) := by
  constructor
  · rintro hagrees ⟨hpos, i, j, score, hij, htop, hscore, hnan⟩
    obtain ⟨index, hstands⟩ := hagrees hpos
    obtain ⟨index', best, hindex, hheld⟩ := bestIndex_heldAt (scores_ne_nil hpos)
    rw [hstands.executed] at hindex
    cases hindex
    have hle : index ≤ i := Nat.le_of_not_lt fun hlt => hstands.first i hlt htop
    have hnum := (FloatOrder.isNaN_of_le (hheld.later j score (hle.trans_lt hij) hscore)).1
    rw [hnum] at hnan
    cases hnan
  · intro hclear hpos
    obtain ⟨index, best, hindex, hheld⟩ := bestIndex_heldAt (scores_ne_nil hpos)
    obtain ⟨htop, hfirst⟩ := hheld.first_top hpos fun hcloud => hclear ⟨hpos, hcloud⟩
    exact ⟨index, ⟨htop, rfl⟩, hfirst, hindex, canWin_iff_ne hpos hindex, givesWay_iff hindex⟩

/-- A top score that is lost to the one behind it. -/
def maskedTop : Prediction where
  scores := [0.9, 0.0 / 0.0, 0.5]
  policyName := none
  priority := defaultPriority

theorem not_topAgrees_maskedTop : ¬ maskedTop.TopAgrees := by
  intro h
  obtain ⟨index, hstands⟩ := h (by decide +kernel)
  have hindex : maskedTop.bestIndex = some 2 := by decide +kernel
  rw [hstands.executed] at hindex
  cases hindex
  obtain ⟨⟨score, hscore, htop⟩, _⟩ := hstands.ranked
  cases hscore
  revert htop
  decide +kernel

end Dialogue.Prediction
