import Dialogue.Proofs.ForgetfulRecall

namespace Dialogue

variable {domain : Domain} {interpreter : Interpreter} {trackers : List Tracker}
  {window states : List TurnState} {action : String}

namespace History

theorem getElem?_contexts (history : History) (i : Nat) : history.contexts[i]? =
    history.actions[i]?.map fun action => (history.states.take (i + 1), action) := by
  rw [contexts_eq, List.getElem?_map, List.getElem?_zipIdx, Option.map_map, Nat.zero_add]
  rfl

theorem mem_contexts_iff {history : History} : (states, action) ∈ history.contexts ↔
    ∃ i, history.actions[i]? = some action ∧ states = history.states.take (i + 1) := by
  rw [List.mem_iff_getElem?]
  simp only [getElem?_contexts, Option.map_eq_some_iff, Prod.mk.injEq]
  constructor
  · rintro ⟨i, _, hi, rfl, rfl⟩
    exact ⟨i, hi, rfl⟩
  · rintro ⟨i, hi, rfl⟩
    exact ⟨i, action, hi, rfl, rfl⟩

/-- The states end at the position and lead to its action. -/
def LeadsAt (history : History) (i : Nat) (window : List TurnState) (action : String) : Prop :=
  history.actions[i]? = some action ∧ window <:+ history.states.take (i + 1)

end History

def LeadsTo (trackers : List Tracker) (domain : Domain) (interpreter : Interpreter)
    (window : List TurnState) (action : String) : Prop :=
  ∃ story ∈ trackers, story.isRule = false ∧
    ∃ i, (story.history domain interpreter).LeadsAt i window action

theorem LeadsTo.suffix {latest : List TurnState}
    (h : LeadsTo trackers domain interpreter window action) (hlatest : latest <:+ window) :
    LeadsTo trackers domain interpreter latest action := by
  obtain ⟨story, hmem, hstory, i, haction, hwindow⟩ := h
  exact ⟨story, hmem, hstory, i, haction, hlatest.trans hwindow⟩

end Dialogue
