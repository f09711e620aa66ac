import Dialogue.Proofs.Rejection
import Dialogue.Proofs.ReplayParts

/-!
A restart resets what is kept up event by event. The action that has just refused to run is looked
for in the events themselves, and the search goes on behind the restart.
-/
namespace Dialogue

namespace Tracker

structure SameSituation (first second : Tracker) : Prop where
  slots : first.slots = second.slots
  latestMessage : first.latestMessage = second.latestMessage
  latestAction : first.latestAction = second.latestAction
  activeLoop : first.activeLoop = second.activeLoop

structure SameFacts (first second : Tracker) : Prop extends SameSituation first second where
  rejectedAction : first.rejectedAction = second.rejectedAction

variable {sender action : String} {before since events : List Event}

theorem sameSituation_restart (before since : List Event) (sender : String) :
    SameSituation (ofEvents sender (before ++ .restarted :: since)) (ofEvents sender since) := by
  have hsituation : (ofEvents sender (before ++ .restarted :: since)).situation =
      (ofEvents sender since).situation := Situation.after_restart before since
  constructor
  · exact congrArg Situation.slots hsituation
  · exact congrArg Situation.latestMessage hsituation
  · exact congrArg Situation.latestAction hsituation
  · exact congrArg Situation.activeLoop hsituation

/-! ### The rejected action -/

/-- The latest attempt to run an action, with the action if it was refused. -/
def latestAttempt (events : List Event) : Option (Option String) :=
  events.reverse.findSome? attempt?

theorem rejectedAction_ofEvents (sender : String) (events : List Event) :
    (ofEvents sender events).rejectedAction = (latestAttempt events).join := rfl

theorem latestAttempt_restart (before since : List Event) :
    latestAttempt (before ++ .restarted :: since) =
      (latestAttempt since).or (latestAttempt before) := by
  have hrestart : (Event.restarted :: before.reverse).findSome? attempt? =
      before.reverse.findSome? attempt? := List.findSome?_cons_of_isNone rfl
  unfold latestAttempt
  rw [List.reverse_append, List.reverse_cons, List.append_assoc, List.findSome?_append,
    List.singleton_append, hrestart]

def Idle (events : List Event) : Prop := ∀ event ∈ events, attempt? event = none

theorem latestAttempt_eq_none_iff : latestAttempt events = none ↔ Idle events := by
  unfold latestAttempt Idle
  simp only [List.findSome?_eq_none_iff, List.mem_reverse]

/-- The latest attempt before the restart was refused, and nothing was attempted since. -/
structure Outlasts (before since : List Event) (action : String) : Prop where
  rejects (sender : String) : (ofEvents sender before).Rejects action
  idle : Idle since

theorem outlasts_iff : Outlasts before since action ↔
    latestAttempt before = some (some action) ∧ latestAttempt since = none := by
  have hrejects (sender : String) : (ofEvents sender before).Rejects action ↔
      latestAttempt before = some (some action) := by
    rw [← rejectedAction_eq_some_iff, rejectedAction_ofEvents, Option.join_eq_some_iff]
  rw [latestAttempt_eq_none_iff]
  constructor
  · exact fun h => ⟨(hrejects "").1 (h.rejects ""), h.idle⟩
  · exact fun h => ⟨fun sender => (hrejects sender).2 h.1, h.2⟩

theorem Outlasts.unique {other : String} (hother : Outlasts before since other)
    (h : Outlasts before since action) : other = action := by
  have hattempt := (outlasts_iff.1 hother).1.symm.trans (outlasts_iff.1 h).1
  exact Option.some.inj (Option.some.inj hattempt)

theorem rejectedAction_restart_iff (before since : List Event) (sender action : String) :
    (ofEvents sender (before ++ .restarted :: since)).rejectedAction = some action ↔
      (ofEvents sender since).rejectedAction = some action ∨ Outlasts before since action := by
  rw [outlasts_iff, rejectedAction_ofEvents, rejectedAction_ofEvents, latestAttempt_restart]
  cases latestAttempt since with
  | none => simp [Option.join_eq_some_iff]
  | some attempt => simp

theorem Outlasts.rejectedAction_since (h : Outlasts before since action) (sender : String) :
    (ofEvents sender since).rejectedAction = none := by
  rw [rejectedAction_ofEvents, (outlasts_iff.1 h).2]
  rfl

theorem rejectedAction_restart_eq_iff (before since : List Event) (sender : String) :
    (ofEvents sender (before ++ .restarted :: since)).rejectedAction =
        (ofEvents sender since).rejectedAction ↔ ¬ ∃ action, Outlasts before since action := by
  constructor
  · rintro hsame ⟨action, houtlasts⟩
    have hwhole := (rejectedAction_restart_iff before since sender action).2 (Or.inr houtlasts)
    rw [hsame, houtlasts.rejectedAction_since] at hwhole
    cases hwhole
  · intro hnone
    refine Option.ext fun action => (rejectedAction_restart_iff before since sender action).trans ?_
    exact or_iff_left fun houtlasts => hnone ⟨action, houtlasts⟩

end Tracker

/-! ### What is excluded -/

namespace Ensemble

open Tracker

variable {domain : Domain}

def everything (domain : Domain) : Prediction :=
  { scores := List.replicate domain.size 1.0, policyName := none, priority := 0 }

theorem lost_score_iff {tracker : Tracker} {i : Nat} (hi : i < domain.size) :
    (silence tracker domain (everything domain)).scores[i]? = some 0.0 ↔
      tracker.rejectedAction.bind domain.index? = some i := by
  have hone : (everything domain).scores[i]? = some 1.0 := List.getElem?_replicate_of_lt hi
  rw [getElem?_scores_silence, hone]
  by_cases hrejected : tracker.rejectedAction.bind domain.index? = some i
  · rw [if_pos hrejected, Option.map_some]
    exact iff_of_true rfl hrejected
  · rw [if_neg hrejected]
    exact iff_of_false (fun h => Prediction.one_ne_zero (Option.some.inj h)) hrejected

theorem rejected_index_lt {tracker : Tracker} {i : Nat}
    (h : tracker.rejectedAction.bind domain.index? = some i) : i < domain.size := by
  obtain ⟨_, _, hindex⟩ := Option.bind_eq_some_iff.1 h
  exact Domain.index?_lt hindex

theorem excludeRejected_eq_iff {first second : Tracker} :
    (∀ predictions, excludeRejected first domain predictions =
        excludeRejected second domain predictions) ↔
      first.rejectedAction.bind domain.index? = second.rejectedAction.bind domain.index? := by
  constructor
  · intro hsame
    have hsilence := hsame [everything domain]
    rw [excludeRejected_eq_map, excludeRejected_eq_map] at hsilence
    have hlost : silence first domain (everything domain) =
        silence second domain (everything domain) := (List.cons.inj hsilence).1
    refine Option.ext fun i => ⟨fun h => ?_, fun h => ?_⟩
    · rwa [← lost_score_iff (rejected_index_lt h), ← hlost, lost_score_iff (rejected_index_lt h)]
    · rwa [← lost_score_iff (rejected_index_lt h), hlost, lost_score_iff (rejected_index_lt h)]
  · intro hsame predictions
    unfold excludeRejected
    rw [hsame]

theorem excludeRejected_restart_iff (domain : Domain) (before since : List Event)
    (sender : String) :
    (∀ predictions,
        excludeRejected (ofEvents sender (before ++ .restarted :: since)) domain predictions =
          excludeRejected (ofEvents sender since) domain predictions) ↔
      ¬ ∃ action, Outlasts before since action ∧ domain.hasAction action = true := by
  rw [excludeRejected_eq_iff]
  by_cases h : ∃ action, Outlasts before since action
  · obtain ⟨action, houtlasts⟩ := h
    have hwhole := (rejectedAction_restart_iff before since sender action).2 (Or.inr houtlasts)
    rw [hwhole, houtlasts.rejectedAction_since, Option.bind_some, Option.bind_none,
      Option.eq_none_iff_forall_ne_some]
    constructor
    · rintro hunknown ⟨other, hother, hhas⟩
      cases hother.unique houtlasts
      obtain ⟨index, hindex⟩ := Domain.hasAction_iff.1 hhas
      exact hunknown index hindex
    · intro hnone index hindex
      exact hnone ⟨action, houtlasts, Domain.hasAction_iff.2 ⟨index, hindex⟩⟩
  · have hsame := (rejectedAction_restart_eq_iff before since sender).2 h
    refine iff_of_true (by rw [hsame]) ?_
    rintro ⟨action, houtlasts, _⟩
    exact h ⟨action, houtlasts⟩

end Ensemble

namespace Tracker

/-- A restart resets slots, message, latest action and loop. It resets the rejected action as well,
and with it what is excluded from predictions, unless the latest attempt before it was refused and
nothing was attempted since. -/
theorem sameFacts_restart_iff (before since : List Event) (sender : String) :
    SameSituation (ofEvents sender (before ++ .restarted :: since)) (ofEvents sender since) ∧
      (SameFacts (ofEvents sender (before ++ .restarted :: since)) (ofEvents sender since) ↔
        ¬ ∃ action, Outlasts before since action) ∧
      (∀ action, (ofEvents sender (before ++ .restarted :: since)).rejectedAction = some action ↔
        (ofEvents sender since).rejectedAction = some action ∨ Outlasts before since action) ∧
      ∀ domain : Domain,
        (∀ predictions,
            Ensemble.excludeRejected (ofEvents sender (before ++ .restarted :: since)) domain
                predictions =
              Ensemble.excludeRejected (ofEvents sender since) domain predictions) ↔
          ¬ ∃ action, Outlasts before since action ∧ domain.hasAction action = true := by
  have hsituation := sameSituation_restart before since sender
  refine ⟨hsituation, ?_, rejectedAction_restart_iff before since sender, fun domain =>
    Ensemble.excludeRejected_restart_iff domain before since sender⟩
  rw [← rejectedAction_restart_eq_iff before since sender]
  constructor
  · exact fun hfacts => hfacts.rejectedAction
  · exact fun hrejected => ⟨hsituation, hrejected⟩

theorem not_sameFacts_refused :
    ¬ SameFacts (ofEvents "user" ([.executed listenAction, .uttered "hi" "greet",
      .rejected "utter_greet"] ++ .restarted :: [])) (ofEvents "user" []) := by
  intro hfacts
  have hrejected : some "utter_greet" = none := hfacts.rejectedAction
  cases hrejected

end Tracker

end Dialogue
