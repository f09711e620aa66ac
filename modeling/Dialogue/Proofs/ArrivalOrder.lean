import Dialogue.Proofs.RunTime

/-!
Policies that are asked at once. Whichever of them answer first, each finds room in the channel, each
of the answers gets to the place of its policy, and the ensemble decides as if it had asked one policy
after the other.
-/
namespace Dialogue

theorem capacity_foldl_send {α : Type} (messages : List α) (channel : Channel α) :
    (messages.foldl Channel.send channel).capacity = channel.capacity := by
  induction messages generalizing channel with
  | nil => rfl
  | cons message messages ih =>
    rw [List.foldl_cons, ih]
    unfold Channel.send
    split <;> rfl

namespace Ensemble

variable {outcomes : List Outcome} {arrival : List Nat}

/-! ### Errors -/

/-- The policy at an index fails, and all before it answer. -/
structure FailsFirst (outcomes : List Outcome) (index : Nat) (error : Error) : Prop where
  at_index : outcomes[index]? = some (.error error)
  before : ∀ i < index, ∃ answer, outcomes[i]? = some (.ok answer)

theorem failsFirst_cons_ok {answer : Prediction} {index : Nat} {error : Error} :
    FailsFirst (.ok answer :: outcomes) index error ↔
      ∃ i, index = i + 1 ∧ FailsFirst outcomes i error := by
  constructor
  · rintro ⟨hat, hbefore⟩
    cases index with
    | zero => cases hat
    | succ i => exact ⟨i, rfl, hat, fun j hj => hbefore (j + 1) (Nat.succ_lt_succ hj)⟩
  · rintro ⟨i, rfl, hat, hbefore⟩
    refine ⟨hat, fun j hj => ?_⟩
    cases j with
    | zero => exact ⟨answer, rfl⟩
    | succ j => exact hbefore j (Nat.lt_of_succ_lt_succ hj)

theorem failsFirst_cons_error {failure error : Error} {index : Nat} :
    FailsFirst (.error failure :: outcomes) index error ↔ index = 0 ∧ failure = error := by
  constructor
  · rintro ⟨hat, hbefore⟩
    cases index with
    | zero =>
      cases hat
      exact ⟨rfl, rfl⟩
    | succ i =>
      obtain ⟨_, hanswer⟩ := hbefore 0 (Nat.succ_pos i)
      cases hanswer
  · rintro ⟨rfl, rfl⟩
    exact ⟨rfl, fun i hi => absurd hi (Nat.not_lt_zero i)⟩

theorem inOrder_eq_error_iff {error : Error} :
    inOrder outcomes = .error error ↔ ∃ index, FailsFirst outcomes index error := by
  unfold inOrder
  induction outcomes with
  | nil =>
    constructor
    · intro h
      cases h
    · rintro ⟨index, hat, _⟩
      cases hat
  | cons outcome outcomes ih =>
    rw [List.mapM_cons]
    cases outcome with
    | error failure =>
      simp only [failsFirst_cons_error]
      constructor
      · intro h
        cases h
        exact ⟨0, rfl, rfl⟩
      · rintro ⟨_, _, rfl⟩
        rfl
    | ok answer =>
      simp only [failsFirst_cons_ok]
      rw [exists_comm]
      simp only [exists_eq_left, ← ih]
      cases outcomes.mapM fun outcome => outcome with
      | error failure => exact Iff.rfl
      | ok answers =>
        constructor
        · intro h
          cases h
        · intro h
          cases h

/-! ### The channel -/

theorem capacity_sendAll (outcomes : List Outcome) (arrival : List Nat) :
    (sendAll outcomes arrival).capacity = outcomes.length :=
  capacity_foldl_send _ _

theorem room_sendAll {before after : List Nat} {index : Nat}
    (h : (before ++ index :: after).length ≤ outcomes.length) :
    (sendAll outcomes before).held.length < (sendAll outcomes before).capacity := by
  rw [List.length_append, List.length_cons] at h
  have hbefore : before.length ≤ outcomes.length := by omega
  have hheld := List.length_filterMap_le (fun i => outcomes[i]?.map (i, ·)) before
  rw [capacity_sendAll, held_sendAll hbefore]
  omega

def collect? (outcomes : List Outcome) (arrival : List Nat) : Option (List (Option Outcome)) :=
  (sendAll outcomes arrival).held.foldlM place? (List.replicate outcomes.length none)

theorem collect?_of_perm (h : arrival.Perm (List.range outcomes.length)) :
    collect? outcomes arrival = some (outcomes.map some) := by
  have hlength : arrival.length = outcomes.length := h.length_eq.trans List.length_range
  unfold collect?
  rw [foldlM_place?]
  · apply congrArg some
    apply List.ext_getElem
    · rw [List.length_map, List.length_range, List.length_map]
    · intro i hi hi'
      rw [List.length_map] at hi'
      rw [List.getElem_map, List.getElem_map, List.getElem_range]
      apply lookup_held (by omega)
      · exact h.mem_iff.2 (List.mem_range.2 hi')
      · exact List.getElem?_eq_getElem hi'
  · rintro ⟨index, outcome⟩ hmem
    exact (List.getElem?_eq_some_iff.1 ((mem_held_iff (by omega)).1 hmem).2).1

/-! ### The decision -/

section

variable {π : Type} [Policy π]

def conclude (ensemble : Ensemble π) (tracker : Tracker) (domain : Domain)
    (asked : Except Error (List Prediction)) : Except Error Prediction := do
  let stamped ← ensemble.stampAll domain (← asked)
  let decision : Decision := .ofPredictions (suppressedAction tracker domain)
    (excludeRejected tracker domain stamped)
  return markFeaturization tracker (← ensemble.applyFallback tracker domain decision).result

theorem predict_eq_conclude (ensemble : Ensemble π) (tracker : Tracker) (domain : Domain)
    (interpreter : Interpreter) : ensemble.predict tracker domain interpreter =
      ensemble.conclude tracker domain (ensemble.ask tracker domain interpreter) := by
  unfold predict round conclude
  simp only [bind_assoc, pure_bind]

theorem predict_fanOut (ensemble : Ensemble π) (fanOut : FanOut) (tracker : Tracker)
    (domain : Domain) (interpreter : Interpreter) :
    { ensemble with fanOut }.predict tracker domain interpreter =
      ensemble.predict tracker domain interpreter := by
  rw [predict_eq_conclude, predict_eq_conclude, ask_eq_inOrder, ask_eq_inOrder]
  rfl

/-- Asking all policies at once comes to the same as asking them one after the other, in whichever
order the answers arrive. Nobody finds the channel full, and nobody's place stays empty. -/
theorem parallel_eq_sequential (ensemble : Ensemble π) (tracker : Tracker) (domain : Domain)
    (interpreter : Interpreter) {arrival : List Nat}
    (h : arrival.Perm (List.range ensemble.policies.length)) :
    let outcomes := ensemble.outcomes tracker domain interpreter
    gather outcomes arrival = inOrder outcomes ∧
    (∀ answers, gather outcomes arrival = .ok answers ↔ outcomes = answers.map .ok) ∧
    (∀ error, gather outcomes arrival = .error error ↔
      ∃ index, FailsFirst outcomes index error) ∧
    (∀ before index after, arrival = before ++ index :: after →
      (sendAll outcomes before).held.length < (sendAll outcomes before).capacity) ∧
    collect? outcomes arrival = some (outcomes.map some) ∧
    ∀ fanOut, ensemble.conclude tracker domain (gather outcomes arrival) =
      { ensemble with fanOut }.predict tracker domain interpreter := by
  intro outcomes
  have hcount : outcomes.length = ensemble.policies.length := List.length_map _
  rw [← hcount] at h
  have hgather := gather_of_perm h
  refine ⟨hgather, ?_, ?_, ?_, collect?_of_perm h, ?_⟩
  · intro answers
    rw [hgather, inOrder_eq_ok_iff]
  · intro error
    rw [hgather, inOrder_eq_error_iff]
  · intro before index after hsplit
    apply room_sendAll
    rw [← hsplit, h.length_eq, List.length_range]
  · intro fanOut
    rw [hgather, predict_fanOut, predict_eq_conclude, ask_eq_inOrder]

def misfits : Ensemble BuiltinPolicy where
  policies := [.fallback ⟨4, { action := "action_a" }⟩, .fallback ⟨4, { action := "action_b" }⟩]

/-- Both fail, and the second one is the first to say so. -/
theorem gather_misfits : [1, 0].Perm (List.range misfits.policies.length) ∧
    gather (misfits.outcomes spokenTo .empty .ofMessages) [1, 0] =
      .error (.domain (.actionNotFound "action_a")) := by
  have harrival : [1, 0].Perm (List.range misfits.policies.length) := by decide
  refine ⟨harrival, ?_⟩
  have hspec := parallel_eq_sequential misfits spokenTo .empty .ofMessages harrival
  refine (hspec.2.2.1 _).2 ⟨0, rfl, fun i hi => absurd hi (Nat.not_lt_zero i)⟩

end

end Ensemble

end Dialogue
