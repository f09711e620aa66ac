import Dialogue.Ensemble.Decision
import Dialogue.Proofs.TopScore
import Mathlib.Data.List.Induction

/-!
The winner of a round. Ranks whose confidence is a number are weakly ordered, so that going through
the predictions once finds one that none ranks above, and the first of those.
-/
namespace Dialogue

namespace Rank

variable {a b c : Rank}

/-- The lexicographic order by tier, priority and confidence. -/
def Below (a b : Rank) : Prop :=
  Prod.Lex (· < ·) (Prod.Lex (· < ·) (· < ·)) (a.tier, a.priority, a.confidence)
    (b.tier, b.priority, b.confidence)

theorem below_iff : a.Below b ↔ a.tier < b.tier ∨ a.tier = b.tier ∧
    (a.priority.toInt < b.priority.toInt ∨ a.priority.toInt = b.priority.toInt ∧
      a.confidence < b.confidence) := by
  unfold Below
  rw [Prod.lex_def, Prod.lex_def]
  simp only [Int32.lt_iff_toInt_lt, Int32.toInt_inj]

theorem tier_lt_iff {p q : Prediction} : (of p).tier < (of q).tier ↔ p.isNoUser = false ∧
    (q.isNoUser = true ∨ p.isEndToEnd = false ∧ q.isEndToEnd = true) := by
  cases hp : p.isNoUser <;> cases hq : q.isNoUser <;> cases hp' : p.isEndToEnd <;>
    cases hq' : q.isEndToEnd <;> simp [of, hp, hq, hp', hq']

theorem tier_eq_iff {p q : Prediction} : (of p).tier = (of q).tier ↔ p.isNoUser = q.isNoUser ∧
    (p.isNoUser = true ∨ p.isEndToEnd = q.isEndToEnd) := by
  cases hp : p.isNoUser <;> cases hq : q.isNoUser <;> cases hp' : p.isEndToEnd <;>
    cases hq' : q.isEndToEnd <;> simp [of, hp, hq, hp', hq']

/-- What decides between two predictions, in this order: whether they depend on the user, whether
they are end-to-end predictions, their priorities, their highest scores. -/
theorem below_of_iff {p q : Prediction} : (of p).Below (of q) ↔
    p.isNoUser = false ∧ (q.isNoUser = true ∨ p.isEndToEnd = false ∧ q.isEndToEnd = true) ∨
    (p.isNoUser = q.isNoUser ∧ (p.isNoUser = true ∨ p.isEndToEnd = q.isEndToEnd)) ∧
      (p.priority.toInt < q.priority.toInt ∨ p.priority.toInt = q.priority.toInt ∧
        p.maxConfidence < q.maxConfidence) := by
  rw [below_iff, tier_lt_iff, tier_eq_iff]
  rfl

theorem outranks_iff : a.outranks b = true ↔ b.Below a := by
  unfold outranks Below
  rw [Prod.lex_def, Prod.lex_def]
  simp only [Bool.or_eq_true, Bool.and_eq_true, decide_eq_true_iff, beq_iff_eq]
  rw [eq_comm (a := a.tier), eq_comm (a := a.priority)]

theorem below_irrefl (a : Rank) : ¬ a.Below a := by
  rw [below_iff]
  rintro (h | ⟨_, h | ⟨_, h⟩⟩)
  · omega
  · omega
  · exact FloatOrder.lt_irrefl _ h

theorem Below.trans (h : a.Below b) (h' : b.Below c) : a.Below c := by
  rw [below_iff] at h h' ⊢
  rcases h with h | ⟨ht, h | ⟨hp, h⟩⟩ <;> rcases h' with h' | ⟨ht', h' | ⟨hp', h'⟩⟩
  all_goals try omega
  exact Or.inr ⟨ht.trans ht', Or.inr ⟨hp.trans hp', FloatOrder.lt_trans h h'⟩⟩

theorem Below.or_below (hb : b.confidence.isNaN = false) (h : a.Below c) :
    a.Below b ∨ b.Below c := by
  rw [below_iff] at h
  rw [below_iff, below_iff]
  rcases h with h | ⟨ht, h | ⟨hp, h⟩⟩
  · omega
  · omega
  · have hgap := FloatOrder.lt_or_lt hb h
    rcases Nat.lt_trichotomy a.tier b.tier with ht' | ht' | ht'
    · exact Or.inl (Or.inl ht')
    · rcases Int.lt_trichotomy a.priority.toInt b.priority.toInt with hp' | hp' | hp'
      · exact Or.inl (Or.inr ⟨ht', Or.inl hp'⟩)
      · exact hgap.imp (fun hab => Or.inr ⟨ht', Or.inr ⟨hp', hab⟩⟩)
          fun hbc => Or.inr ⟨ht'.symm.trans ht, Or.inr ⟨hp'.symm.trans hp, hbc⟩⟩
      · exact Or.inr (Or.inr ⟨by omega, Or.inl (by omega)⟩)
    · exact Or.inr (Or.inl (by omega))

end Rank

namespace Prediction

/-- A prediction can win if it has scores, the top one is positive, and that one is not of a
suppressed action. -/
structure Eligible (suppressed : Option Nat) (prediction : Prediction) : Prop where
  scores_ne_nil : prediction.scores ≠ []
  confident : 0.0 < prediction.maxConfidence
  not_suppressed : ∀ index, suppressed = some index → prediction.bestIndex ≠ some index

theorem canWin_iff {suppressed : Option Nat} {prediction : Prediction} :
    prediction.canWin suppressed = true ↔ prediction.Eligible suppressed := by
  unfold canWin
  simp only [Bool.and_eq_true, Bool.or_eq_true, Bool.not_eq_true', decide_eq_false_iff_not,
    bne_iff_ne, isAbstention, List.isEmpty_eq_false_iff, Option.isNone_iff_eq_none]
  rw [FloatOrder.not_le prediction.isNaN_maxConfidence (by decide)]
  constructor
  · rintro ⟨⟨hscores, hconfident⟩, hsuppressed⟩
    refine ⟨hscores, hconfident, fun index hindex => ?_⟩
    rcases hsuppressed with h | h
    · rw [hindex] at h
      cases h
    · rwa [hindex] at h
  · rintro ⟨hscores, hconfident, hsuppressed⟩
    refine ⟨⟨hscores, hconfident⟩, ?_⟩
    cases suppressed with
    | none => exact Or.inl rfl
    | some index => exact Or.inr (hsuppressed index rfl)

theorem Eligible.congr {p q : Prediction} {suppressed : Option Nat} (hscores : p.scores = q.scores) :
    p.Eligible suppressed ↔ q.Eligible suppressed := by
  rw [← canWin_iff, ← canWin_iff]
  unfold canWin isAbstention maxConfidence bestIndex
  rw [hscores]

/-- The prediction at an index wins: it is eligible, no eligible one ranks above it, and those
before it rank below. -/
structure Leads (suppressed : Option Nat) (predictions : List Prediction) (index : Nat)
    (winner : Prediction) : Prop where
  at_index : predictions[index]? = some winner
  eligible : winner.Eligible suppressed
  top : ∀ prediction ∈ predictions, prediction.Eligible suppressed →
    ¬ (Rank.of winner).Below (Rank.of prediction)
  first : ∀ i < index, ∀ prediction, predictions[i]? = some prediction →
    prediction.Eligible suppressed → (Rank.of prediction).Below (Rank.of winner)

section

variable {suppressed : Option Nat} {predictions : List Prediction} {index : Nat}
  {winner next : Prediction}

theorem Leads.index_lt (h : Leads suppressed predictions index winner) :
    index < predictions.length :=
  (List.getElem?_eq_some_iff.1 h.at_index).1

theorem Leads.append (h : Leads suppressed predictions index winner)
    (hnext : next.Eligible suppressed → ¬ (Rank.of winner).Below (Rank.of next)) :
    Leads suppressed (predictions ++ [next]) index winner where
  at_index := by rw [List.getElem?_append_left h.index_lt, h.at_index]
  eligible := h.eligible
  top prediction hmem := by
    rcases List.mem_append.1 hmem with hmem | hmem
    · exact h.top prediction hmem
    · rw [List.mem_singleton.1 hmem]
      exact hnext
  first i hi prediction hprediction := by
    rw [List.getElem?_append_left (hi.trans h.index_lt)] at hprediction
    exact h.first i hi prediction hprediction

theorem leads_of_above (hnext : next.Eligible suppressed)
    (habove : ∀ prediction ∈ predictions, prediction.Eligible suppressed →
      (Rank.of prediction).Below (Rank.of next)) :
    Leads suppressed (predictions ++ [next]) predictions.length next where
  at_index := List.getElem?_concat_length
  eligible := hnext
  top prediction hmem heligible hbelow := by
    rcases List.mem_append.1 hmem with hmem | hmem
    · exact Rank.below_irrefl _ (hbelow.trans (habove prediction hmem heligible))
    · rw [List.mem_singleton.1 hmem] at hbelow
      exact Rank.below_irrefl _ hbelow
  first i hi prediction hprediction := by
    rw [List.getElem?_append_left hi] at hprediction
    exact habove prediction (List.mem_of_getElem? hprediction)

theorem Leads.below_of_below (h : Leads suppressed predictions index winner)
    (hnext : (Rank.of winner).Below (Rank.of next)) :
    ∀ prediction ∈ predictions, prediction.Eligible suppressed →
      (Rank.of prediction).Below (Rank.of next) := by
  intro prediction hmem heligible
  rcases hnext.or_below (b := Rank.of prediction) prediction.isNaN_maxConfidence with hb | hb
  · exact absurd hb (h.top prediction hmem heligible)
  · exact hb

theorem Leads.bounds {prediction : Prediction} (h : Leads suppressed predictions index winner)
    (hmem : prediction ∈ predictions) (heligible : prediction.Eligible suppressed) :
    (prediction.isNoUser = true → winner.isNoUser = true) ∧
    (winner.isNoUser = false → prediction.isEndToEnd = true → winner.isEndToEnd = true) ∧
    (winner.isNoUser = prediction.isNoUser → winner.isEndToEnd = prediction.isEndToEnd →
      prediction.priority.toInt ≤ winner.priority.toInt ∧
        (prediction.priority.toInt = winner.priority.toInt →
          prediction.maxConfidence ≤ winner.maxConfidence)) := by
  have htop := h.top prediction hmem heligible
  rw [Rank.below_of_iff] at htop
  refine ⟨?_, ?_, ?_⟩
  · intro hnoUser
    cases hwinner : winner.isNoUser with
    | true => rfl
    | false => exact absurd (Or.inl ⟨hwinner, Or.inl hnoUser⟩) htop
  · intro hwinner hendToEnd
    cases hother : winner.isEndToEnd with
    | true => rfl
    | false => exact absurd (Or.inl ⟨hwinner, Or.inr ⟨hother, hendToEnd⟩⟩) htop
  · intro hnoUser hendToEnd
    have hscores := fun hhigher => htop (Or.inr ⟨⟨hnoUser, Or.inr hendToEnd⟩, hhigher⟩)
    refine ⟨?_, fun hpriority => ?_⟩
    · by_contra hless
      exact hscores (Or.inl (by omega))
    · exact (FloatOrder.not_lt winner.isNaN_maxConfidence prediction.isNaN_maxConfidence).1
        fun hhigher => hscores (Or.inr ⟨hpriority.symm, hhigher⟩)

theorem Leads.index_unique {other : Nat} {rival : Prediction}
    (h : Leads suppressed predictions index winner)
    (h' : Leads suppressed predictions other rival) : ¬ index < other := by
  intro hlt
  exact h.top rival (List.mem_of_getElem? h'.at_index) h'.eligible
    (h'.first index hlt winner h.at_index h.eligible)

theorem Leads.unique {other : Nat} {rival : Prediction}
    (h : Leads suppressed predictions index winner)
    (h' : Leads suppressed predictions other rival) : index = other ∧ winner = rival := by
  have hindex : index = other := by
    have := h.index_unique h'
    have := h'.index_unique h
    omega
  refine ⟨hindex, ?_⟩
  have hwinner := h.at_index
  rw [hindex, h'.at_index] at hwinner
  exact (Option.some.inj hwinner).symm

theorem pick_append (suppressed : Option Nat) (predictions : List Prediction) (next : Prediction) :
    pick suppressed (predictions ++ [next]) =
      if next.canWin suppressed then higher (pick suppressed predictions) next
      else pick suppressed predictions := by
  unfold pick
  rw [List.filter_append, List.foldl_append]
  cases h : next.canWin suppressed
  · simp only [List.filter_cons, List.filter_nil, h, Bool.false_eq_true, if_false, List.foldl_nil]
  · simp only [List.filter_cons, List.filter_nil, h, if_true, List.foldl_cons, List.foldl_nil]

theorem pick_spec (suppressed : Option Nat) (predictions : List Prediction) :
    (pick suppressed predictions = none ∧
      ∀ prediction ∈ predictions, ¬ prediction.Eligible suppressed) ∨
    ∃ index winner, pick suppressed predictions = some winner ∧
      Leads suppressed predictions index winner := by
  -- The pick goes through the list from the front, so the last prediction is the one to split off.
  induction predictions using List.reverseRecOn with
  | nil => exact Or.inl ⟨rfl, by simp⟩
  | append_singleton predictions next ih =>
    rw [pick_append]
    by_cases hnext : next.canWin suppressed = true
    · rw [if_pos hnext]
      rw [canWin_iff] at hnext
      right
      rcases ih with ⟨hpick, hnone⟩ | ⟨index, winner, hpick, hleads⟩
      · rw [hpick]
        exact ⟨_, next, rfl, leads_of_above hnext fun prediction hmem heligible =>
          absurd heligible (hnone prediction hmem)⟩
      · rw [hpick, higher]
        by_cases hbelow : (Rank.of winner).Below (Rank.of next)
        · rw [if_pos (Rank.outranks_iff.2 hbelow)]
          exact ⟨_, next, rfl, leads_of_above hnext (hleads.below_of_below hbelow)⟩
        · rw [if_neg (fun h => hbelow (Rank.outranks_iff.1 h))]
          exact ⟨index, winner, rfl, hleads.append fun _ => hbelow⟩
    · rw [if_neg hnext]
      rw [canWin_iff] at hnext
      rcases ih with ⟨hpick, hnone⟩ | ⟨index, winner, hpick, hleads⟩
      · refine Or.inl ⟨hpick, fun prediction hmem => ?_⟩
        rcases List.mem_append.1 hmem with hmem | hmem
        · exact hnone prediction hmem
        · rw [List.mem_singleton.1 hmem]
          exact hnext
      · exact Or.inr ⟨index, winner, hpick, hleads.append fun h => absurd h hnext⟩

theorem pick_eq_some_iff : pick suppressed predictions = some winner ↔
    ∃ index, Leads suppressed predictions index winner := by
  rcases pick_spec suppressed predictions with ⟨hpick, hnone⟩ | ⟨index, best, hpick, hleads⟩
  · rw [hpick]
    constructor
    · intro h
      cases h
    · rintro ⟨index, h⟩
      exact absurd h.eligible (hnone winner (List.mem_of_getElem? h.at_index))
  · rw [hpick]
    constructor
    · intro h
      cases h
      exact ⟨index, hleads⟩
    · rintro ⟨other, h⟩
      rw [(hleads.unique h).2]

theorem isSome_pick_iff : (pick suppressed predictions).isSome = true ↔
    ∃ prediction ∈ predictions, prediction.Eligible suppressed := by
  rcases pick_spec suppressed predictions with ⟨hpick, hnone⟩ | ⟨index, best, hpick, hleads⟩
  · rw [hpick]
    constructor
    · intro h
      cases h
    · rintro ⟨prediction, hmem, h⟩
      exact absurd h (hnone prediction hmem)
  · rw [hpick]
    exact ⟨fun _ => ⟨best, List.mem_of_getElem? hleads.at_index, hleads.eligible⟩, fun _ => rfl⟩

end

end Prediction

namespace Decision

/-- Ranking predictions chooses the leader, if one of them can win at all, and keeps the events of
all of them in order. -/
theorem ofPredictions_spec (suppressed : Option Nat) (predictions : List Prediction) :
    ((ofPredictions suppressed predictions).winner.isSome = true ↔
      ∃ prediction ∈ predictions, prediction.Eligible suppressed) ∧
    (∀ winner, (ofPredictions suppressed predictions).winner = some winner ↔
      ∃ index, Prediction.Leads suppressed predictions index winner) ∧
    (ofPredictions suppressed predictions).events = (predictions.map (·.events)).flatten := by
  refine ⟨Prediction.isSome_pick_iff, fun winner => Prediction.pick_eq_some_iff, ?_⟩
  exact List.flatMap_def

end Decision

end Dialogue
