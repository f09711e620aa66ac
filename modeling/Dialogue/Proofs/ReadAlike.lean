import Dialogue.Proofs.ParsedTurns
import Dialogue.Proofs.RestartReset

/-!
What policies read of the log of a conversation. The remembering policies and the policy of rules
read its history, the fallback policy reads its situation. So two logs with the same history and the
same situation are one to them. The policy of unexpected intents reads the turns of the user.
-/
namespace Dialogue

variable {domain : Domain} {interpreter : Interpreter} {first second : Tracker}

/-! ### Policies -/

theorem flatMap_stories_congr {α : Type} {f : Tracker → List α} (h : f first = f second)
    (hrule : first.isRule = second.isRule) (front back : List Tracker) :
    (stories (front ++ first :: back)).flatMap f =
      (stories (front ++ second :: back)).flatMap f := by
  simp only [stories, List.filter_append, List.filter_cons, hrule]
  split <;> simp [h]

theorem UnexpectedIntentPolicy.train_congr (policy : UnexpectedIntentPolicy)
    (h : userTurns first interpreter = userTurns second interpreter)
    (hrule : first.isRule = second.isRule) (front back : List Tracker) :
    policy.train (front ++ first :: back) interpreter =
      policy.train (front ++ second :: back) interpreter := by
  have hturns : (stories (front ++ first :: back)).flatMap (userTurns · interpreter) =
      (stories (front ++ second :: back)).flatMap (userTurns · interpreter) :=
    flatMap_stories_congr h hrule front back
  simp only [train, hturns]

theorem FallbackPolicy.predict_congr (policy : FallbackPolicy)
    (h : first.situation = second.situation) :
    policy.predict first domain interpreter = policy.predict second domain interpreter := by
  unfold predict Tracker.latestAction Tracker.latestMessage
  rw [h]

namespace BuiltinPolicy

/-- What the policy learns and predicts comes from histories and situations. -/
def ReadsAccounts : BuiltinPolicy → Prop
  | memoization _ | augmentedMemoization _ | rule _ | fallback _ => True
  | unexpectedIntent _ => False

theorem ReadsAccounts.cases {policy : BuiltinPolicy} (hreads : policy.ReadsAccounts) :
    policy.ReadsHistories ∨ ∃ fallback, policy = .fallback fallback := by
  cases policy with
  | fallback fallback => exact Or.inr ⟨fallback, rfl⟩
  | unexpectedIntent _ => exact hreads.elim
  | memoization _ | augmentedMemoization _ | rule _ => exact Or.inl trivial

theorem predict_eq_of_readsAccounts (policy : BuiltinPolicy) (hreads : policy.ReadsAccounts)
    (hhistory : first.history domain interpreter = second.history domain interpreter)
    (hsituation : first.situation = second.situation) :
    Policy.predict policy first domain interpreter =
      Policy.predict policy second domain interpreter := by
  rcases hreads.cases with hhistories | ⟨fallback, rfl⟩
  · exact predict_congr hhistories hhistory
  · exact congrArg (Except.mapError Error.domain) (fallback.predict_congr hsituation)

theorem learned_eq_of_readsAccounts (policy : BuiltinPolicy) (hreads : policy.ReadsAccounts)
    (hhistory : first.history domain interpreter = second.history domain interpreter)
    (hrule : first.isRule = second.isRule) (front back : List Tracker) :
    policy.learned (front ++ first :: back) domain interpreter =
      policy.learned (front ++ second :: back) domain interpreter := by
  rcases hreads.cases with hhistories | ⟨fallback, rfl⟩
  · exact learned_congr hhistories hhistory hrule front back
  -- The fallback policy learns nothing.
  · rfl

theorem learned_unexpectedIntent_congr (policy : UnexpectedIntentPolicy)
    (h : UnexpectedIntentPolicy.userTurns first interpreter =
      UnexpectedIntentPolicy.userTurns second interpreter)
    (hrule : first.isRule = second.isRule) (front back : List Tracker) :
    (unexpectedIntent policy).learned (front ++ first :: back) domain interpreter =
      (unexpectedIntent policy).learned (front ++ second :: back) domain interpreter := by
  simp only [learned, Policy.train, Except.map, policy.train_congr h hrule]

end BuiltinPolicy

/-! ### Logs -/

/-- Two logs with the same history and the same situation. Whoever reads no more than that predicts
the same in both conversations, and learns the same from either. -/
structure ReadAlike (domain : Domain) (interpreter : Interpreter) (log other : List Event) :
    Prop where
  history : History.ofEvents domain interpreter log = History.ofEvents domain interpreter other
  situation (sender : String) (isRule : Bool) :
    Tracker.SameSituation ⟨sender, log, isRule⟩ ⟨sender, other, isRule⟩
  predicts (policy : BuiltinPolicy) (hreads : policy.ReadsAccounts) (sender : String)
    (isRule : Bool) :
    Policy.predict policy ⟨sender, log, isRule⟩ domain interpreter =
      Policy.predict policy ⟨sender, other, isRule⟩ domain interpreter
  learns (policy : BuiltinPolicy) (hreads : policy.ReadsAccounts) (front back : List Tracker)
    (sender : String) (isRule : Bool) :
    policy.learned (front ++ ⟨sender, log, isRule⟩ :: back) domain interpreter =
      policy.learned (front ++ ⟨sender, other, isRule⟩ :: back) domain interpreter

theorem readAlike_of_eq {log other : List Event}
    (hhistory : History.ofEvents domain interpreter log =
      History.ofEvents domain interpreter other)
    (hsituation : Situation.after log = Situation.after other) :
    ReadAlike domain interpreter log other where
  history := hhistory
  situation _ _ :=
    ⟨congrArg Situation.slots hsituation, congrArg Situation.latestMessage hsituation,
      congrArg Situation.latestAction hsituation, congrArg Situation.activeLoop hsituation⟩
  predicts policy hreads sender isRule := by
    have hsame : Tracker.history ⟨sender, log, isRule⟩ domain interpreter =
        Tracker.history ⟨sender, other, isRule⟩ domain interpreter := hhistory
    exact policy.predict_eq_of_readsAccounts hreads hsame hsituation
  learns policy hreads front back sender isRule := by
    have hsame : Tracker.history ⟨sender, log, isRule⟩ domain interpreter =
        Tracker.history ⟨sender, other, isRule⟩ domain interpreter := hhistory
    exact policy.learned_eq_of_readsAccounts hreads hsame rfl front back

end Dialogue
