import Dialogue.Proofs.ReadAlike
import Dialogue.Proofs.Recollection
import Dialogue.Proofs.ReplayAgreement
import Mathlib.Data.List.Pairwise

/-!
What is remembered of a message, of each slot and of the loop is kept in places of its own. So the
events of a turn may be recorded in any order, unless two of them are messages, loops or values of
the same slot.
-/
namespace Dialogue

variable {domain : Domain} {interpreter : Interpreter} {first second : Event}
  {turn other : List Event}

namespace Event

/-- Neither an action nor a restart, so that the turn goes on. -/
def StaysInTurn (event : Event) : Prop := event.isRun = false ∧ event.isRestart = false

/-- Two events of different kinds, or values of different slots. -/
def Apart (first second : Event) : Prop :=
  first.kind ≠ second.kind ∨ ∃ key value otherKey otherValue,
    first = .slotSet key value ∧ second = .slotSet otherKey otherValue ∧ key ≠ otherKey

/-- Two events of a turn that do not get into each other's way. -/
structure Independent (first second : Event) : Prop where
  first_stays : first.StaysInTurn
  second_stays : second.StaysInTurn
  apart : first.Apart second

theorem Apart.symm (h : first.Apart second) : second.Apart first := by
  rcases h with hkinds | ⟨key, value, otherKey, otherValue, hfirst, hsecond, hne⟩
  · exact Or.inl hkinds.symm
  · exact Or.inr ⟨otherKey, otherValue, key, value, hsecond, hfirst, hne.symm⟩

instance : Std.Symm Apart := ⟨fun _ _ => Apart.symm⟩

theorem StaysInTurn.action?_eq_none (h : first.StaysInTurn) : first.action? = none := by
  cases first with
  | actionExecuted name text policy confidence => cases h.1
  | _ => rfl

/-! ### Two events -/

theorem Independent.commute (h : Independent first second) (interpreter : Interpreter)
    (replay : Replay) (situation : Situation) :
    (replay.observe interpreter first).observe interpreter second =
        (replay.observe interpreter second).observe interpreter first ∧
      (situation.record first).record second = (situation.record second).record first := by
  obtain ⟨hfirst, hsecond, hkinds | ⟨key, value, otherKey, otherValue, rfl, rfl, hne⟩⟩ := h
  · cases first with
    | actionExecuted name text policy confidence => cases hfirst.1
    | restarted => cases hfirst.2
    | botUttered _ | actionRejected _ _ _ | featurization _ => exact ⟨rfl, rfl⟩
    | userUttered text intent entities =>
      cases second with
      | userUttered _ _ _ => exact absurd rfl hkinds
      | actionExecuted _ _ _ _ => cases hsecond.1
      | restarted => cases hsecond.2
      | _ => exact ⟨rfl, rfl⟩
    | slotSet key value =>
      cases second with
      | slotSet _ _ => exact absurd rfl hkinds
      | actionExecuted _ _ _ _ => cases hsecond.1
      | restarted => cases hsecond.2
      | _ => exact ⟨rfl, rfl⟩
    | activeLoop name =>
      cases second with
      | activeLoop _ => exact absurd rfl hkinds
      | actionExecuted _ _ _ _ => cases hsecond.1
      | restarted => cases hsecond.2
      | _ => exact ⟨rfl, rfl⟩
  · simp only [Replay.observe, Situation.record, SortedMap.insert_comm hne, and_self]

end Event

/-! ### All events of a turn -/

theorem Event.eq_or_independent_of_mem (hstay : ∀ event ∈ turn, event.StaysInTurn)
    (hapart : turn.Pairwise Apart) (hfirst : first ∈ turn) (hsecond : second ∈ turn) :
    first = second ∨ first.Independent second := by
  by_cases heq : first = second
  · exact Or.inl heq
  · exact Or.inr ⟨hstay first hfirst, hstay second hsecond, hapart.forall hfirst hsecond heq⟩

theorem Replay.foldl_observe_perm (hperm : turn.Perm other)
    (hstay : ∀ event ∈ turn, event.StaysInTurn) (hapart : turn.Pairwise Event.Apart)
    (replay : Replay) :
    turn.foldl (observe interpreter) replay = other.foldl (observe interpreter) replay := by
  apply hperm.foldl_eq'
  intro first hfirst second hsecond current
  rcases Event.eq_or_independent_of_mem hstay hapart hfirst hsecond with rfl | hindependent
  · rfl
  · exact (hindependent.commute interpreter current {}).1

theorem Situation.foldl_record_perm (hperm : turn.Perm other)
    (hstay : ∀ event ∈ turn, event.StaysInTurn) (hapart : turn.Pairwise Event.Apart)
    (situation : Situation) : turn.foldl record situation = other.foldl record situation := by
  apply hperm.foldl_eq'
  intro first hfirst second hsecond current
  rcases Event.eq_or_independent_of_mem hstay hapart hfirst hsecond with rfl | hindependent
  · rfl
  · exact (hindependent.commute .ofMessages {} current).2

theorem History.replayFrom_append_of_none (h : ∀ event ∈ turn, event.action? = none)
    (replay : Replay) (since : List Event) :
    replayFrom domain interpreter replay (turn ++ since) =
      replayFrom domain interpreter (turn.foldl (Replay.observe interpreter) replay) since := by
  induction turn generalizing replay with
  | nil => rfl
  | cons event rest ih =>
    rw [List.forall_mem_cons] at h
    rw [List.cons_append, replayFrom_of_none h.1]
    exact ih h.2 _

theorem History.ofEvents_perm (hperm : turn.Perm other)
    (hstay : ∀ event ∈ turn, event.StaysInTurn) (hapart : turn.Pairwise Event.Apart)
    (before since : List Event) :
    ofEvents domain interpreter (before ++ turn ++ since) =
      ofEvents domain interpreter (before ++ other ++ since) := by
  have hturn : ∀ event ∈ turn, event.action? = none :=
    fun event hmem => (hstay event hmem).action?_eq_none
  have hother : ∀ event ∈ other, event.action? = none :=
    fun event hmem => hturn event (hperm.mem_iff.2 hmem)
  rw [List.append_assoc, List.append_assoc, ofEvents_append, ofEvents_append,
    replayFrom_append_of_none hturn, replayFrom_append_of_none hother,
    Replay.foldl_observe_perm hperm hstay hapart]

theorem Situation.after_perm (hperm : turn.Perm other)
    (hstay : ∀ event ∈ turn, event.StaysInTurn) (hapart : turn.Pairwise Event.Apart)
    (before since : List Event) :
    after (before ++ turn ++ since) = after (before ++ other ++ since) := by
  unfold after
  simp only [List.foldl_append, foldl_record_perm hperm hstay hapart]

theorem readAlike_of_perm (hperm : turn.Perm other)
    (hstay : ∀ event ∈ turn, event.StaysInTurn) (hapart : turn.Pairwise Event.Apart)
    (before since : List Event) :
    ReadAlike domain interpreter (before ++ turn ++ since) (before ++ other ++ since) :=
  readAlike_of_eq (History.ofEvents_perm hperm hstay hapart before since)
    (Situation.after_perm hperm hstay hapart before since)

/-- Two independent events that follow each other may be exchanged anywhere in a log, and so may all
events of a turn that are independent of each other. Neither the history nor the situation changes,
nor what policies make of them. -/
theorem readAlike_reordered (domain : Domain) (interpreter : Interpreter)
    (before since : List Event) :
    (∀ first second : Event, first.Independent second →
      ReadAlike domain interpreter (before ++ first :: second :: since)
        (before ++ second :: first :: since)) ∧
    ∀ turn other : List Event, turn.Perm other → (∀ event ∈ turn, event.StaysInTurn) →
      turn.Pairwise Event.Apart →
        ReadAlike domain interpreter (before ++ turn ++ since) (before ++ other ++ since) := by
  constructor
  · intro first second h
    have hstay : ∀ event ∈ [first, second], event.StaysInTurn := by
      simpa using ⟨h.first_stays, h.second_stays⟩
    have hapart : [first, second].Pairwise Event.Apart := List.pairwise_pair.2 h.apart
    have hpair : ReadAlike domain interpreter (before ++ [first, second] ++ since)
        (before ++ [second, first] ++ since) :=
      readAlike_of_perm (List.Perm.swap second first []) hstay hapart before since
    simpa using hpair
  · exact fun turn other hperm hstay hapart => readAlike_of_perm hperm hstay hapart before since

theorem readAlike_named :
    Event.Independent (.uttered "Ada" "inform") (.slotSet "name" (.str "Ada")) ∧
      ReadAlike .empty .ofMessages
        ([.executed listenAction] ++
          .uttered "Ada" "inform" :: .slotSet "name" (.str "Ada") :: [.executed "utter_greet"])
        ([.executed listenAction] ++
          .slotSet "name" (.str "Ada") :: .uttered "Ada" "inform" :: [.executed "utter_greet"]) := by
  have hindependent :
      Event.Independent (.uttered "Ada" "inform") (.slotSet "name" (.str "Ada")) :=
    ⟨⟨rfl, rfl⟩, ⟨rfl, rfl⟩, Or.inl (by decide)⟩
  exact ⟨hindependent, (readAlike_reordered .empty .ofMessages [.executed listenAction]
    [.executed "utter_greet"]).1 _ _ hindependent⟩

end Dialogue
