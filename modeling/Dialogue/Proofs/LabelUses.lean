import Dialogue.Proofs.FallbackGuarantee
import Dialogue.Proofs.PartialWrite

/-!
A model has one directory for each label, and a winner with the label of the policy that offers the
fallback is that policy's own prediction.
-/
namespace Dialogue

namespace WriteStep

def directory? : WriteStep → Option Path
  | makeDirectory path => some path
  | writeFile _ _ => none

@[simp] theorem directory?_makeDirectory (path : Path) :
    (makeDirectory path).directory? = some path :=
  rfl

@[simp] theorem directory?_writeFile (path : Path) (text : String) :
    (writeFile path text).directory? = none :=
  rfl

end WriteStep

namespace Ensemble

variable {π : Type} [Policy π] {ensemble : Ensemble π} {tracker : Tracker} {domain : Domain}
  {interpreter : Interpreter} {index place other : Nat} {policy : π} {fallback : Fallback}
  {winner rival : Prediction}

theorem label_eq_iff {i j : Nat} {type other : String} :
    label i type = label j other ↔ i = j ∧ type = other := by
  constructor
  · exact label_inj
  · rintro ⟨rfl, rfl⟩
    rfl

/-! ### Directories -/

theorem directories_entries (ensemble : Ensemble π) :
    ensemble.entries.map ModelEntry.directory = ensemble.labelled.map Prod.fst := by
  unfold entries
  rw [List.map_map]
  rfl

theorem directories_policySteps (model : Path) (labelled : String × π) :
    (policySteps model labelled).filterMap WriteStep.directory? = [model.join labelled.1] := by
  unfold policySteps
  cases Policy.state labelled.2 <;> simp

theorem directories_persistSteps (ensemble : Ensemble π) (now : Timestamp) (model : Path) :
    (ensemble.persistSteps now model).filterMap WriteStep.directory? =
      model :: (ensemble.entries.map ModelEntry.directory).map model.join := by
  have hpolicies : (ensemble.labelled.flatMap (policySteps model)).filterMap
      WriteStep.directory? = ensemble.labelled.map (model.join ·.1) := by
    rw [List.filterMap_flatMap, List.map_eq_flatMap]
    simp only [directories_policySteps]
  unfold persistSteps
  rw [List.cons_append, List.filterMap_cons_some (WriteStep.directory?_makeDirectory model),
    List.filterMap_append, hpolicies, directories_entries, List.map_map]
  exact congrArg (model :: ·) (List.append_nil _)

/-! ### Winners -/

/-- The prediction of the policy at an index wins the round. -/
def WonBy (ensemble : Ensemble π) (tracker : Tracker) (domain : Domain) (interpreter : Interpreter)
    (index : Nat) (winner : Prediction) : Prop :=
  ∃ answers, ensemble.outcomes tracker domain interpreter = answers.map .ok ∧
    Prediction.Leads (suppressedAction tracker domain)
      (ensemble.contestants tracker domain answers) index winner

theorem WonBy.unique (h : ensemble.WonBy tracker domain interpreter place winner)
    (h' : ensemble.WonBy tracker domain interpreter other rival) :
    place = other ∧ winner = rival := by
  obtain ⟨answers, hanswers, hleads⟩ := h
  obtain ⟨answers', hanswers', hleads'⟩ := h'
  have hsame : answers = answers' :=
    (List.map_inj_right fun _ _ => Except.ok.inj).1 (hanswers.symm.trans hanswers')
  rw [hsame] at hleads
  exact hleads.unique hleads'

theorem exists_wonBy {decision : Decision}
    (hround : ensemble.round tracker domain interpreter = .ok decision)
    (hwinner : decision.winner = some winner) :
    ∃ place, ensemble.WonBy tracker domain interpreter place winner := by
  obtain ⟨answers, hanswers, _, rfl⟩ := round_eq_ok_iff.1 hround
  obtain ⟨place, hleads⟩ := Prediction.pick_eq_some_iff.1 hwinner
  exact ⟨place, answers, hanswers, hleads⟩

theorem WonBy.policyName_eq (h : ensemble.WonBy tracker domain interpreter place winner) :
    ∃ policy, ensemble.policies[place]? = some policy ∧
      winner.policyName = some (label place (Policy.typeName policy)) := by
  obtain ⟨answers, _, hleads⟩ := h
  obtain ⟨policy, answer, hpolicy, _, rfl⟩ := getElem?_contestants.1 hleads.at_index
  refine ⟨policy, hpolicy, ?_⟩
  rw [silence_eq]
  rfl

theorem WonBy.policyName_eq_iff (h : ensemble.WonBy tracker domain interpreter place winner)
    (hpolicy : ensemble.policies[index]? = some policy) :
    winner.policyName = some (label index (Policy.typeName policy)) ↔
      ensemble.WonBy tracker domain interpreter index winner := by
  obtain ⟨own, hown, hname⟩ := h.policyName_eq
  rw [hname, Option.some.injEq, label_eq_iff]
  constructor
  · rintro ⟨rfl, _⟩
    exact h
  · intro hwon
    obtain ⟨rfl, _⟩ := h.unique hwon
    cases hown.symm.trans hpolicy
    exact ⟨rfl, rfl⟩

/-- Beside the fallback of a policy: the policy's label is that of its own prediction, and only
another policy's prediction gives way. -/
structure KnowsOwn (ensemble : Ensemble π) (tracker : Tracker) (domain : Domain)
    (interpreter : Interpreter) (index : Nat) (policy : π) (fallback : Fallback)
    (winner : Prediction) : Prop where
  named_iff : winner.policyName = some (label index (Policy.typeName policy)) ↔
    ensemble.WonBy tracker domain interpreter index winner
  substitutes_iff : ensemble.Substitutes tracker domain (some winner)
      (label index (Policy.typeName policy), policy) fallback ↔
    ¬ ensemble.WonBy tracker domain interpreter index winner ∧
      (RepeatsListen tracker domain winner ∨ winner.maxConfidence < fallback.threshold)

theorem WonBy.knowsOwn (h : ensemble.WonBy tracker domain interpreter place winner)
    (hoffers : ensemble.OffersFirst index policy fallback) :
    ensemble.KnowsOwn tracker domain interpreter index policy fallback winner where
  named_iff := h.policyName_eq_iff hoffers.at_index
  substitutes_iff := by
    rw [substitutes_iff hoffers, givesWay_eq_true_iff, ne_eq, h.policyName_eq_iff hoffers.at_index]
    exact ⟨fun hgives => hgives.2.2, fun hgives => ⟨rfl, rfl, hgives⟩⟩

/-- A label tells index and type of a policy. So the directories of a model are distinct, and a
winner has the label of the policy that offers the fallback exactly if it is that policy's. -/
theorem labels_unambiguous (ensemble : Ensemble π) :
    (∀ (i j : Nat) (type other : String), label i type = label j other ↔ i = j ∧ type = other) ∧
    ((ensemble.entries.map ModelEntry.directory).Nodup ∧
      ∀ (now : Timestamp) (model : Path),
        (ensemble.persistSteps now model).filterMap WriteStep.directory? =
          model :: (ensemble.entries.map ModelEntry.directory).map model.join) ∧
    ∀ (tracker : Tracker) (domain : Domain) (interpreter : Interpreter) (decision : Decision)
      (winner : Prediction), ensemble.round tracker domain interpreter = .ok decision →
      decision.winner = some winner →
      (∃! place, ensemble.WonBy tracker domain interpreter place winner) ∧
        ∀ index policy fallback, ensemble.OffersFirst index policy fallback →
          ensemble.KnowsOwn tracker domain interpreter index policy fallback winner := by
  refine ⟨fun _ _ _ _ => label_eq_iff, ⟨?_, ensemble.directories_persistSteps⟩, ?_⟩
  · rw [directories_entries]
    exact ensemble.nodup_labels
  · intro tracker domain interpreter decision winner hround hwinner
    obtain ⟨place, hwon⟩ := exists_wonBy hround hwinner
    refine ⟨⟨place, hwon, fun other hother => (hother.unique hwon).1⟩, ?_⟩
    exact fun index policy fallback hoffers => hwon.knowsOwn hoffers

def unsureGuard : Steady where
  name := "Guard"
  priority := 4
  answer := { scores := Prediction.oneHot 11 2 0.1, policyName := none, priority := 4 }
  fallback := some ⟨fallbackAction, 0.3⟩

/-- Two policies of one type, of which the one with the fallback wins. -/
def namesakes : Ensemble Steady where
  policies := [
    { name := "Guard", priority := 1,
      answer := { scores := Prediction.oneHot 11 1 0.9, policyName := none, priority := 1 } },
    unsureGuard]

theorem ownWinner_namesakes : ∃ decision winner,
    namesakes.round spokenTo .empty .ofMessages = .ok decision ∧ decision.winner = some winner ∧
    namesakes.OffersFirst 1 unsureGuard ⟨fallbackAction, 0.3⟩ ∧
    namesakes.WonBy spokenTo .empty .ofMessages 1 winner ∧
    ¬ namesakes.Substitutes spokenTo .empty (some winner) ("policy_1_Guard", unsureGuard)
      ⟨fallbackAction, 0.3⟩ := by
  have hoffers : namesakes.OffersFirst 1 unsureGuard ⟨fallbackAction, 0.3⟩ := by
    refine ⟨rfl, rfl, fun i hi other hother => ?_⟩
    obtain rfl := Nat.lt_one_iff.1 hi
    cases hother
    rfl
  have hname : ((namesakes.round spokenTo .empty .ofMessages).toOption.bind (·.winner)).map
      (·.policyName) = some (some "policy_1_Guard") := by
    decide +kernel
  have hok : (namesakes.round spokenTo .empty .ofMessages).isOk = true := by decide +kernel
  obtain ⟨decision, hround⟩ := exists_of_isOk hok
  rw [hround] at hname
  obtain ⟨winner, hwinner, hname⟩ := Option.map_eq_some_iff.1 hname
  have hknows := ((labels_unambiguous namesakes).2.2 spokenTo .empty .ofMessages decision winner
    hround hwinner).2 1 unsureGuard _ hoffers
  have hwon := hknows.named_iff.1 hname
  exact ⟨decision, winner, hround, hwinner, hoffers, hwon,
    fun hgives => (hknows.substitutes_iff.1 hgives).1 hwon⟩

end Ensemble

end Dialogue
