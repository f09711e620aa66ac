import Dialogue.Prediction
import Dialogue.Proofs.FloatOrder

/-!
The top score of a prediction and its index. The top is a number whatever the scores are; the index
holds a largest score if all scores are numbers.
-/
namespace Dialogue.Prediction

def higherScore (best score : Float) : Float := if best < score then score else best

theorem maxConfidence_eq (prediction : Prediction) :
    prediction.maxConfidence = prediction.scores.foldl higherScore 0.0 := rfl

theorem isNaN_higherScore {best : Float} (score : Float) (h : best.isNaN = false) :
    (higherScore best score).isNaN = false := by
  unfold higherScore
  split
  · rename_i hlt
    exact (FloatOrder.isNaN_of_lt hlt).2
  · exact h

theorem isNaN_foldl_higherScore (scores : List Float) {start : Float} (h : start.isNaN = false) :
    (scores.foldl higherScore start).isNaN = false := by
  induction scores generalizing start with
  | nil => exact h
  | cons score rest ih => exact ih (isNaN_higherScore score h)

theorem foldl_higherScore_mem (scores : List Float) (start : Float) :
    scores.foldl higherScore start ∈ start :: scores := by
  induction scores generalizing start with
  | nil => simp
  | cons score rest ih =>
    have hmem := ih (higherScore start score)
    rw [List.foldl_cons]
    rw [List.mem_cons] at hmem
    rcases hmem with he | hrest
    · rw [he]
      unfold higherScore
      split <;> simp
    · simp [hrest]

theorem not_lt_of_higherScore {top best score : Float} (h : best.isNaN = false)
    (htop : ¬ top < higherScore best score) : ¬ top < best ∧ ¬ top < score := by
  unfold higherScore at htop
  split at htop
  · rename_i hlt
    exact ⟨fun h' => htop (FloatOrder.lt_trans h' hlt), htop⟩
  · rename_i hlt
    refine ⟨htop, fun h' => ?_⟩
    rcases FloatOrder.lt_or_lt h h' with h' | h'
    · exact htop h'
    · exact hlt h'

theorem foldl_higherScore_not_lt (scores : List Float) {start score : Float}
    (h : start.isNaN = false) (hscore : score ∈ start :: scores) :
    ¬ scores.foldl higherScore start < score := by
  induction scores generalizing start score with
  | nil =>
    rw [List.mem_singleton.1 hscore]
    exact FloatOrder.lt_irrefl start
  | cons next rest ih =>
    rw [List.foldl_cons]
    have hnext := isNaN_higherScore next h
    have hstep := not_lt_of_higherScore h (ih hnext List.mem_cons_self)
    rcases List.mem_cons.1 hscore with rfl | hscore
    · exact hstep.1
    · rcases List.mem_cons.1 hscore with rfl | hscore
      · exact hstep.2
      · exact ih hnext (List.mem_cons_of_mem _ hscore)

variable (prediction : Prediction)

theorem isNaN_maxConfidence : prediction.maxConfidence.isNaN = false :=
  isNaN_foldl_higherScore prediction.scores (by decide)

theorem not_maxConfidence_lt {score : Float} (h : score ∈ prediction.scores) :
    ¬ prediction.maxConfidence < score :=
  foldl_higherScore_not_lt prediction.scores (by decide) (List.mem_cons_of_mem _ h)

theorem maxConfidence_mem (h : 0.0 < prediction.maxConfidence) :
    prediction.maxConfidence ∈ prediction.scores := by
  rcases List.mem_cons.1 (foldl_higherScore_mem prediction.scores 0.0) with he | hmem
  · rw [maxConfidence_eq, he] at h
    exact absurd h (FloatOrder.lt_irrefl 0.0)
  · exact hmem

/-! ### Index -/

theorem better_some {start next : Nat × Float} (hstart : start.2.isNaN = false)
    (hnext : next.2.isNaN = false) :
    ∃ best, (best = start ∨ best = next) ∧ better (some start) next = some best ∧
      start.2 ≤ best.2 ∧ next.2 ≤ best.2 := by
  by_cases h : next.2 ≤ start.2
  · exact ⟨start, Or.inl rfl, by simp [better, h], FloatOrder.le_refl hstart, h⟩
  · refine ⟨next, Or.inr rfl, by simp [better, h], ?_, FloatOrder.le_refl hnext⟩
    rw [FloatOrder.not_le hnext hstart] at h
    exact FloatOrder.le_of_lt h

theorem foldl_better (entries : List (Nat × Float)) (start : Nat × Float)
    (hnum : ∀ entry ∈ start :: entries, entry.2.isNaN = false) :
    ∃ best ∈ start :: entries, entries.foldl better (some start) = some best ∧
      ∀ entry ∈ start :: entries, entry.2 ≤ best.2 := by
  induction entries generalizing start with
  | nil =>
    have hstart := hnum start List.mem_cons_self
    refine ⟨start, List.mem_cons_self, rfl, fun entry he => ?_⟩
    rw [List.mem_singleton.1 he]
    exact FloatOrder.le_refl hstart
  | cons next rest ih =>
    rw [List.forall_mem_cons, List.forall_mem_cons] at hnum
    obtain ⟨hstart, hnext, hrest⟩ := hnum
    obtain ⟨middle, hmiddle, hstep, hle, hle'⟩ := better_some hstart hnext
    have hmiddle_num : middle.2.isNaN = false := (FloatOrder.isNaN_of_le hle).2
    obtain ⟨best, hbest, hfold, hall⟩ :=
      ih middle (List.forall_mem_cons.2 ⟨hmiddle_num, hrest⟩)
    rw [List.forall_mem_cons] at hall
    refine ⟨best, ?_, ?_, ?_⟩
    · rcases List.mem_cons.1 hbest with rfl | hbest
      · rcases hmiddle with rfl | rfl <;> simp
      · simp [hbest]
    · rw [List.foldl_cons, hstep, hfold]
    · rw [List.forall_mem_cons, List.forall_mem_cons]
      exact ⟨FloatOrder.le_trans hle hall.1, FloatOrder.le_trans hle' hall.1, hall.2⟩

def indexed : List (Nat × Float) := prediction.scores.zipIdx.map fun (score, i) => (i, score)

theorem mem_indexed {index : Nat} {score : Float} :
    (index, score) ∈ prediction.indexed ↔ prediction.scores[index]? = some score := by
  unfold indexed
  rw [List.mem_map]
  constructor
  · rintro ⟨⟨s, i⟩, hmem, he⟩
    cases he
    exact List.mem_zipIdx_iff_getElem?.1 hmem
  · intro h
    exact ⟨(score, index), List.mem_zipIdx_iff_getElem?.2 h, rfl⟩

/-- If all scores are numbers, the best index holds one that no other exceeds. -/
theorem bestIndex_spec {index : Nat} (hnum : ∀ score ∈ prediction.scores, score.isNaN = false)
    (h : prediction.bestIndex = some index) :
    ∃ best, prediction.scores[index]? = some best ∧ ∀ score ∈ prediction.scores, score ≤ best := by
  change (prediction.indexed.foldl better none).map Prod.fst = some index at h
  have hentries : ∀ entry ∈ prediction.indexed, entry.2.isNaN = false := fun entry he =>
    hnum entry.2 (List.mem_of_getElem? (prediction.mem_indexed.1 he))
  cases hindexed : prediction.indexed with
  | nil => simp [hindexed] at h
  | cons start rest =>
    rw [hindexed] at h hentries
    obtain ⟨best, hbest, hfold, hall⟩ := foldl_better rest start hentries
    rw [List.foldl_cons, show better none start = some start from rfl, hfold] at h
    cases h
    rw [← hindexed] at hbest hall
    refine ⟨best.2, prediction.mem_indexed.1 hbest, fun score hscore => ?_⟩
    obtain ⟨i, hi⟩ := List.getElem?_of_mem hscore
    exact hall (i, score) (prediction.mem_indexed.2 hi)

theorem bestIndex_ne_of_zero {index : Nat} {score : Float}
    (hnum : ∀ score ∈ prediction.scores, score.isNaN = false)
    (hzero : prediction.scores[index]? = some 0.0) (hscore : score ∈ prediction.scores)
    (hpos : 0.0 < score) : prediction.bestIndex ≠ some index := by
  intro h
  obtain ⟨best, hbest, hall⟩ := prediction.bestIndex_spec hnum h
  rw [hzero] at hbest
  cases hbest
  have hle := hall score hscore
  rw [← FloatOrder.not_lt (by decide) (hnum score hscore)] at hle
  exact hle hpos

end Dialogue.Prediction
