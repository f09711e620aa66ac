import Dialogue.Ensemble.FanOut
import Dialogue.Proofs.Outcome

namespace Dialogue

theorem foldl_send {α : Type} (messages : List α) : ∀ (channel : Channel α),
    channel.held.length + messages.length ≤ channel.capacity →
    (messages.foldl Channel.send channel).held = channel.held ++ messages := by
  induction messages with
  | nil =>
    intro channel _
    exact (List.append_nil _).symm
  | cons message messages ih =>
    intro channel hroom
    rw [List.length_cons] at hroom
    have hsend : channel.send message =
        { channel with held := channel.held ++ [message] } :=
      if_pos (by omega)
    rw [List.foldl_cons, hsend, ih]
    · rw [List.append_assoc, List.singleton_append]
    · show (channel.held ++ [message]).length + messages.length ≤ channel.capacity
      rw [List.length_append, List.length_singleton]
      omega

namespace Ensemble

variable {outcomes : List Outcome} {arrival : List Nat}

theorem held_sendAll (h : arrival.length ≤ outcomes.length) : (sendAll outcomes arrival).held =
    arrival.filterMap fun i => outcomes[i]?.map (i, ·) := by
  have hlength := List.length_filterMap_le (fun i => outcomes[i]?.map (i, ·)) arrival
  unfold sendAll
  rw [foldl_send, List.nil_append]
  show 0 + _ ≤ outcomes.length
  omega

theorem mem_held_iff (h : arrival.length ≤ outcomes.length) {index : Nat} {outcome : Outcome} :
    (index, outcome) ∈ (sendAll outcomes arrival).held ↔
      index ∈ arrival ∧ outcomes[index]? = some outcome := by
  rw [held_sendAll h, List.mem_filterMap]
  constructor
  · rintro ⟨i, hi, hmap⟩
    obtain ⟨answer, hanswer, hpair⟩ := Option.map_eq_some_iff.1 hmap
    cases hpair
    exact ⟨hi, hanswer⟩
  · rintro ⟨hindex, houtcome⟩
    exact ⟨index, hindex, by rw [houtcome]; rfl⟩

theorem lookup_held (h : arrival.length ≤ outcomes.length) {index : Nat} (hindex : index ∈ arrival)
    {outcome : Outcome} (houtcome : outcomes[index]? = some outcome) :
    (sendAll outcomes arrival).held.reverse.lookup index = some outcome := by
  have hmem := (mem_held_iff h).2 ⟨hindex, houtcome⟩
  cases hlookup : (sendAll outcomes arrival).held.reverse.lookup index with
  | none =>
    rw [List.lookup_eq_none_iff] at hlookup
    have := hlookup _ (List.mem_reverse.2 hmem)
    simp at this
  | some found =>
    obtain ⟨before, after, hsplit, _⟩ := List.lookup_eq_some_iff.1 hlookup
    have hfound : (index, found) ∈ (sendAll outcomes arrival).held := by
      rw [← List.mem_reverse, hsplit]
      simp
    exact ((mem_held_iff h).1 hfound).2.symm.trans houtcome

theorem answerOf_eq (h : arrival.length ≤ outcomes.length) {index : Nat}
    (hindex : index ∈ arrival) {outcome : Outcome} (houtcome : outcomes[index]? = some outcome) :
    answerOf (sendAll outcomes arrival).held index = outcome := by
  unfold answerOf
  rw [lookup_held h hindex houtcome]

/-- The order in which the answers arrive does not matter. -/
theorem gather_of_perm (h : arrival.Perm (List.range outcomes.length)) :
    gather outcomes arrival = inOrder outcomes := by
  have hlength : arrival.length = outcomes.length := h.length_eq.trans List.length_range
  unfold gather
  apply congrArg inOrder
  apply List.ext_getElem
  · rw [List.length_map, List.length_range]
  · intro i hi hi'
    rw [List.getElem_map, List.getElem_range]
    apply answerOf_eq (by omega)
    · exact h.mem_iff.2 (List.mem_range.2 hi')
    · exact List.getElem?_eq_getElem hi'

theorem inOrder_eq_ok_iff {answers : List Prediction} :
    inOrder outcomes = .ok answers ↔ outcomes = answers.map .ok := by
  unfold inOrder
  rw [mapM_eq_ok_iff, List.map_id']

variable {π : Type} [Policy π]

theorem ask_eq_inOrder (ensemble : Ensemble π) (tracker : Tracker) (domain : Domain)
    (interpreter : Interpreter) : ensemble.ask tracker domain interpreter =
      inOrder (ensemble.outcomes tracker domain interpreter) := by
  unfold ask
  cases ensemble.fanOut with
  | sequential => rfl
  | parallel => exact gather_of_perm (List.Perm.refl _)

theorem ask_eq_ok_iff {ensemble : Ensemble π} {tracker : Tracker} {domain : Domain}
    {interpreter : Interpreter} {answers : List Prediction} :
    ensemble.ask tracker domain interpreter = .ok answers ↔
      ensemble.outcomes tracker domain interpreter = answers.map .ok := by
  rw [ask_eq_inOrder, inOrder_eq_ok_iff]

end Ensemble

end Dialogue
