import Dialogue.Policy.Rule
import Dialogue.Policy.UnexpectedIntent
import Dialogue.Proofs.Recollection

namespace Dialogue

variable {domain : Domain} {interpreter : Interpreter} {trackers : List Tracker}

theorem stories_eq_self (h : ∀ tracker ∈ trackers, tracker.isRule = false) :
    stories trackers = trackers := by
  unfold stories
  rw [List.filter_eq_self]
  intro tracker hmem
  rw [h tracker hmem]
  rfl

namespace RulePolicy

theorem learned_train (h : ∀ tracker ∈ trackers, tracker.isRule = false) (policy : RulePolicy) :
    (policy.train trackers domain interpreter).1.learned = [] := by
  have hrules : rules trackers = [] := by
    unfold rules
    rw [List.filter_eq_nil_iff]
    intro tracker hmem
    rw [h tracker hmem]
    exact Bool.false_ne_true
  have hlearn : Rule.learn trackers domain interpreter = [] := by
    unfold Rule.learn
    rw [hrules]
    rfl
  unfold train
  rw [hlearn]
  cases policy.dropsContradictions <;> rfl

theorem predict_of_unlearned {policy : RulePolicy} (h : policy.learned = []) (tracker : Tracker) :
    policy.predict tracker domain interpreter = .abstain policy.priority := by
  unfold predict choose
  rw [h]
  rfl

end RulePolicy

namespace UnexpectedIntentPolicy

def Saw (observed : SortedMap (SortedMap Unit)) (turn : String × String) : Prop :=
  (observed.get? turn.1).any (·.contains turn.2) = true

theorem saw_observe {observed : SortedMap (SortedMap Unit)} {seen turn : String × String} :
    Saw (observe observed seen) turn ↔ turn = seen ∨ Saw observed turn := by
  obtain ⟨action, intent⟩ := turn
  obtain ⟨seenAction, seenIntent⟩ := seen
  unfold Saw observe
  dsimp only
  rw [SortedMap.get?_insert]
  by_cases haction : action = seenAction
  · rw [if_pos haction, haction, Option.any_some]
    unfold SortedMap.contains
    rw [SortedMap.get?_insert]
    by_cases hintent : intent = seenIntent
    · simp [hintent]
    · rw [if_neg hintent]
      cases observed.get? seenAction with
      | none => simp [hintent]
      | some intents => simp [hintent]
  · rw [if_neg haction]
    simp [haction]

theorem saw_foldl {turns : List (String × String)} {turn : String × String} :
    Saw (turns.foldl observe ∅) turn ↔ turn ∈ turns := by
  induction turns using List.reverseRecOn with
  | nil => simp [Saw]
  | append_singleton turns seen ih =>
    rw [List.foldl_append, List.foldl_cons, List.foldl_nil, saw_observe, ih, List.mem_append,
      List.mem_singleton, or_comm]

theorem turnsFrom_mono (latest : String) {before events : List Event} (h : before <+: events) :
    turnsFrom interpreter latest before <+: turnsFrom interpreter latest events := by
  obtain ⟨after, rfl⟩ := h
  induction before generalizing latest with
  | nil => exact List.nil_prefix
  | cons event before ih =>
    rw [List.cons_append]
    cases event with
    | userUttered text intent entities =>
      rw [turnsFrom, turnsFrom]
      split
      · exact (List.prefix_cons_inj _).2 (ih latest)
      · exact ih latest
    | _ => exact ih _

/-- No intent in a beginning of a story is unlikely. -/
theorem predict_train {story : Tracker} (hstory : story ∈ stories trackers) {before : List Event}
    (hbefore : before <+: story.events) (policy : UnexpectedIntentPolicy) (sender : String) :
    (policy.train trackers interpreter).predict (.ofEvents sender before) domain interpreter =
      .ok (.abstain policy.priority) := by
  unfold predict
  cases hturn : latestTurn (.ofEvents sender before) interpreter with
  | none => rfl
  | some turn =>
    obtain ⟨action, intent⟩ := turn
    have hmem : (action, intent) ∈ userTurns story interpreter := by
      unfold latestTurn at hturn
      split at hturn
      · exact (turnsFrom_mono conversationStart hbefore).subset (List.mem_of_getLast? hturn)
      · cases hturn
    have hseen : (policy.train trackers interpreter).wasObserved action intent = true := by
      show Saw ((policy.train trackers interpreter).observed) (action, intent)
      exact saw_foldl.2 (List.mem_flatMap.2 ⟨story, hstory, hmem⟩)
    have hlikely : (policy.train trackers interpreter).isUnlikely action intent = false := by
      unfold isUnlikely
      rw [hseen]
      exact Bool.and_false _
    dsimp only
    rw [hlikely]
    rfl

end UnexpectedIntentPolicy

end Dialogue
