import Dialogue.Proofs.ReadAlike
import Dialogue.Proofs.Recollection

/-!
Events for the record only: what the assistant said, that an action refused to run, and how a
message was understood. History, situation and the turns of the user take no notice of them; only
the policy of unexpected intents asks whether the message is the latest event of any kind.
-/
namespace Dialogue

variable {domain : Domain} {interpreter : Interpreter} {event : Event} {kept log : List Event}

namespace Event

/-- The event changes nothing that a policy is told of the conversation. -/
def isBookkeeping : Event → Bool
  | botUttered _ | actionRejected .. | featurization _ => true
  | userUttered .. | actionExecuted .. | slotSet .. | activeLoop _ | restarted => false

variable (h : event.isBookkeeping = true)

include h

theorem action?_of_bookkeeping : event.action? = none := by
  cases event with
  | actionExecuted _ _ _ _ => cases h
  | _ => rfl

theorem observe_of_bookkeeping (replay : Replay) :
    replay.observe interpreter event = replay := by
  cases event with
  | botUttered _ | actionRejected _ _ _ | featurization _ => rfl
  | _ => cases h

theorem record_of_bookkeeping (situation : Situation) : situation.record event = situation := by
  cases event with
  | botUttered _ | actionRejected _ _ _ | featurization _ => rfl
  | _ => cases h

theorem turnsFrom_of_bookkeeping (latest : String) (rest : List Event) :
    UnexpectedIntentPolicy.turnsFrom interpreter latest (event :: rest) =
      UnexpectedIntentPolicy.turnsFrom interpreter latest rest := by
  cases event with
  | botUttered _ | actionRejected _ _ _ | featurization _ => rfl
  | _ => cases h

end Event

/-- The first log is the second one without some of its bookkeeping events. -/
inductive Abridges : List Event → List Event → Prop
  | nil : Abridges [] []
  | keep (event : Event) {kept log : List Event} (h : Abridges kept log) :
    Abridges (event :: kept) (event :: log)
  | leaveOut {event : Event} {kept log : List Event} (hevent : event.isBookkeeping = true)
    (h : Abridges kept log) : Abridges kept (event :: log)

namespace Abridges

theorem concat (hevent : event.isBookkeeping = true) (log : List Event) :
    Abridges log (log ++ [event]) := by
  induction log with
  | nil => exact .leaveOut hevent .nil
  | cons first log ih => exact .keep first ih

theorem replayFrom_eq (h : Abridges kept log) (replay : Replay) :
    History.replayFrom domain interpreter replay kept =
      History.replayFrom domain interpreter replay log := by
  induction h generalizing replay with
  | nil => rfl
  | keep event _ ih => rw [History.replayFrom, History.replayFrom, ih]
  | leaveOut hevent _ ih =>
    rw [History.replayFrom_of_none (Event.action?_of_bookkeeping hevent),
      Event.observe_of_bookkeeping hevent]
    exact ih replay

theorem foldl_record_eq (h : Abridges kept log) (situation : Situation) :
    kept.foldl Situation.record situation = log.foldl Situation.record situation := by
  induction h generalizing situation with
  | nil => rfl
  | keep event _ ih => exact ih (situation.record event)
  | leaveOut hevent _ ih =>
    rw [List.foldl_cons, Event.record_of_bookkeeping hevent]
    exact ih situation

theorem turnsFrom_eq (h : Abridges kept log) (latest : String) :
    UnexpectedIntentPolicy.turnsFrom interpreter latest kept =
      UnexpectedIntentPolicy.turnsFrom interpreter latest log := by
  induction h generalizing latest with
  | nil => rfl
  | keep event _ ih =>
    cases event with
    | userUttered text intent entities =>
      rw [UnexpectedIntentPolicy.turnsFrom, UnexpectedIntentPolicy.turnsFrom, ih]
    | _ => exact ih _
  | leaveOut hevent _ ih =>
    rw [Event.turnsFrom_of_bookkeeping hevent]
    exact ih latest

theorem readAlike (h : Abridges kept log) : ReadAlike domain interpreter kept log :=
  readAlike_of_eq (h.replayFrom_eq {}) (h.foldl_record_eq {})

theorem learned_unexpectedIntent (h : Abridges kept log) (policy : UnexpectedIntentPolicy)
    (front back : List Tracker) (sender : String) (isRule : Bool) :
    (BuiltinPolicy.unexpectedIntent policy).learned (front ++ ⟨sender, kept, isRule⟩ :: back)
        domain interpreter =
      (BuiltinPolicy.unexpectedIntent policy).learned (front ++ ⟨sender, log, isRule⟩ :: back)
        domain interpreter := by
  have hturns : UnexpectedIntentPolicy.userTurns ⟨sender, kept, isRule⟩ interpreter =
      UnexpectedIntentPolicy.userTurns ⟨sender, log, isRule⟩ interpreter := h.turnsFrom_eq _
  exact BuiltinPolicy.learned_unexpectedIntent_congr policy hturns rfl front back

/-- A log without some of its bookkeeping events reads like the whole log, so policies that read no
more than history and situation learn and predict the same. The policy of unexpected intents learns
the same. To mark how the latest message was understood changes no prediction of the others. -/
theorem changes_nothing (h : Abridges kept log) (domain : Domain) (interpreter : Interpreter) :
    ReadAlike domain interpreter kept log ∧
      (∀ (policy : UnexpectedIntentPolicy) (front back : List Tracker) (sender : String)
          (isRule : Bool),
        (BuiltinPolicy.unexpectedIntent policy).learned
            (front ++ ⟨sender, kept, isRule⟩ :: back) domain interpreter =
          (BuiltinPolicy.unexpectedIntent policy).learned
            (front ++ ⟨sender, log, isRule⟩ :: back) domain interpreter) ∧
      ∀ (policy : BuiltinPolicy), policy.ReadsAccounts →
        ∀ (sender : String) (isRule useText : Bool),
          Policy.predict policy ⟨sender, log ++ [.featurization useText], isRule⟩ domain
              interpreter =
            Policy.predict policy ⟨sender, log, isRule⟩ domain interpreter := by
  refine ⟨h.readAlike, h.learned_unexpectedIntent, ?_⟩
  intro policy hreads sender isRule useText
  have hmarked : Abridges log (log ++ [.featurization useText]) := concat rfl log
  exact (hmarked.readAlike.predicts policy hreads sender isRule).symm

theorem changes_nothing_refused :
    Abridges [.executed listenAction, .uttered "hi" "greet", .botUttered (some "hello")]
        [.executed listenAction, .uttered "hi" "greet", .rejected "utter_greet",
          .botUttered (some "hello")] ∧
      ReadAlike .empty .ofMessages
        [.executed listenAction, .uttered "hi" "greet", .botUttered (some "hello")]
        [.executed listenAction, .uttered "hi" "greet", .rejected "utter_greet",
          .botUttered (some "hello")] := by
  have habridges :
      Abridges [.executed listenAction, .uttered "hi" "greet", .botUttered (some "hello")]
        [.executed listenAction, .uttered "hi" "greet", .rejected "utter_greet",
          .botUttered (some "hello")] :=
    .keep _ (.keep _ (.leaveOut rfl (.keep _ .nil)))
  exact ⟨habridges, (changes_nothing habridges .empty .ofMessages).1⟩

end Abridges

end Dialogue
